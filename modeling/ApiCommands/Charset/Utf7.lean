/-
UTF-7: all characters in ASCII.

A plus sign opens a run of digits of six bits each that hold units of two bytes;
the run ends before the first character that is no digit, and a hyphen there
belongs to it. A plus sign with a hyphen stands for itself. Bits that are left
over at the end of a run are zero and fewer than six. What is written otherwise
becomes the replacement character.
-/
import ApiCommands.Charset.Units

namespace ApiCommands.Charset.Utf7

/-- A run: its bits that make no unit yet, how many they are, and the first half of a pair that
waits for the second. -/
structure Run where
  bits : Nat
  count : Nat
  half? : Option Nat

/-- Where a reader of bytes is. -/
inductive State where
  | outside
  /-- Behind a plus sign. -/
  | opened
  | inside (run : Run)

/-- The value of a digit. -/
def digitValue? (b : Nat) : Option Nat :=
  if 65 ≤ b ∧ b ≤ 90 then some (b - 65)
  else if 97 ≤ b ∧ b ≤ 122 then some (b - 71)
  else if 48 ≤ b ∧ b ≤ 57 then some (b + 4)
  else if b = 43 then some 62
  else if b = 47 then some 63
  else none

/-- A unit after what may wait for it: its characters, and what waits then. -/
def joinUnit (half? : Option Nat) (unit : Nat) : List Char × Option Nat :=
  let alone : List Char × Option Nat :=
    if isFirstHalf unit then ([], some unit) else ([Text.unitChar unit], none)
  match half? with
  | none => alone
  | some first =>
    if isSecondHalf unit then
      ([Char.ofNat (0x10000 + (first - 0xD800) * 1024 + (unit - 0xDC00))], none)
    else (Text.unitChar first :: alone.1, alone.2)

/-- A run with one more digit, and the characters it completes. -/
def Run.add (r : Run) (value : Nat) : List Char × State :=
  let bits := 64 * r.bits + value
  let count := r.count + 6
  if count < 16 then ([], .inside { r with bits, count })
  else
    let left := Nat.pow 2 (count - 16)
    let (chars, half?) := joinUnit r.half? (bits / left)
    (chars, .inside ⟨bits % left, count - 16, half?⟩)

/-- The run cannot end here. -/
def Run.isBroken (r : Run) : Bool := decide (6 ≤ r.count) || r.bits != 0

/-- A byte outside of runs. -/
def stepOutside (b : Nat) : List Char × State :=
  if b = 43 then ([], .opened)
  else ([if b < 128 then Char.ofNat b else replacement], .outside)

/-- One more byte, and the characters it completes. -/
def step : State → Nat → List Char × State
  | .outside, b => stepOutside b
  | .opened, b =>
    match digitValue? b with
    | some value => Run.add ⟨0, 0, none⟩ value
    | none => ([if b = 45 then '+' else replacement], .outside)
  | .inside run, b =>
    match digitValue? b with
    | some value => run.add value
    | none =>
      if run.isBroken then ([replacement], .outside)
      else
        let waiting := if b < 128 then run.half?.toList.map Text.unitChar else []
        if b = 45 then (waiting, .outside)
        else
          let (chars, state) := stepOutside b
          (waiting ++ chars, state)

/-- What is left at the end of a text. -/
def atEnd : State → List Char
  | .inside run => if run.isBroken || run.half?.isSome then [replacement] else []
  | _ => []

/-- The characters of bytes, read from a state on. -/
def decodeFrom (state : State) : List Nat → List Char
  | [] => atEnd state
  | b :: rest =>
    let (chars, state) := step state b
    chars ++ decodeFrom state rest

/-- The characters of bytes. -/
def decode (bytes : List Nat) : List Char := decodeFrom .outside bytes

end ApiCommands.Charset.Utf7
