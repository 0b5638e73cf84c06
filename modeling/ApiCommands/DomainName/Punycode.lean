/-
Punycode: any text in ASCII letters, digits and hyphens.

The ASCII characters of a text stand first, up to the last hyphen. What follows
says how the others are put back, from the lowest code point to the highest: a
count runs through all places of the text as it is by then, and through them
again for each next code point, and a number says how many steps it takes to the
next character. Numbers are written lowest digit first, in base 36, and a digit
below its threshold is the last one; thresholds adapt to the numbers before.
-/

namespace ApiCommands.DomainName.Punycode

/-- The digit of value `n`. -/
def digit (n : Nat) : Char := Char.ofNat (if n < 26 then 97 + n else 22 + n)

/-- The value of a digit. -/
def digitValue? (c : Char) : Option Nat :=
  if c.isLower then some (c.toNat - 97) else if c.isDigit then some (c.toNat - 22) else none

/-- The value below which a digit is the last of its number. -/
def threshold (bias position : Nat) : Nat := max 1 (min 26 (36 * (position + 1) - bias))

theorem threshold_pos (bias position : Nat) : 1 ≤ threshold bias position := by
  simp only [threshold]; omega

/-- The digits of a number from a position on. -/
def digits (bias position n : Nat) : List Char :=
  let t := threshold bias position
  if n < t then [digit n]
  else digit (t + (n - t) % (36 - t)) :: digits bias (position + 1) ((n - t) / (36 - t))
termination_by n
decreasing_by
  have hpos := threshold_pos bias position
  exact Nat.lt_of_le_of_lt (Nat.div_le_self _ _) (by omega)

/-- How far thresholds move for numbers around `n`. -/
def biasOf (n moved : Nat) : Nat :=
  if 455 < n then biasOf (n / 35) (moved + 36) else moved + 36 * n / (n + 38)
termination_by n
decreasing_by exact Nat.div_lt_self (by omega) (by omega)

/-- The bias after a number of steps in a text with so many places. -/
def adapt (steps places : Nat) (isFirst : Bool) : Nat :=
  let steps := if isFirst then steps / 700 else steps / 2
  biasOf (steps + steps / places) 0

/-- The bias of the first number. -/
def firstBias : Nat := 72

/-- The first code point that is put back. -/
def firstCode : Nat := 128

-- ====================================================== writing

/-- A text written so far: what is written, in reverse, the steps since the last number, the
characters that are in place, and the bias. -/
structure Writing where
  written : List Char
  steps : Nat
  placed : Nat
  bias : Nat
  isFirst : Bool

/-- The count goes past a character, or puts it in if it has the code point that is due. -/
def Writing.pass (due : Nat) (w : Writing) (c : Char) : Writing :=
  if c.toNat < due then { w with steps := w.steps + 1 }
  else if c.toNat = due then
    ⟨(digits w.bias 0 w.steps).reverse ++ w.written, 0, w.placed + 1,
      adapt w.steps (w.placed + 1) w.isFirst, false⟩
  else w

/-- The count goes on to the code point `due` and once through the text. -/
def Writing.round (text : List Char) (w : Writing × Nat) (due : Nat) : Writing × Nat :=
  let (w, reached) := w
  let w := { w with steps := w.steps + (due - reached) * (w.placed + 1) }
  let w := text.foldl (Writing.pass due) w
  ({ w with steps := w.steps + 1 }, due + 1)

/-- The written form of a text. -/
def encode (text : List Char) : List Char :=
  let plain := text.filter (·.toNat < firstCode)
  let due := ((text.map Char.toNat).filter (firstCode ≤ ·)).mergeSort.eraseDups
  let start : Writing := ⟨[], 0, plain.length, firstBias, true⟩
  let (w, _) := due.foldl (Writing.round text) (start, firstCode)
  plain ++ (if plain.isEmpty then [] else ['-']) ++ w.written.reverse

-- ====================================================== reading

/-- A text read so far: its characters, the code point and the place the count is at, the bias,
and the number that has begun, with the weight and the position of its next digit. -/
structure Reading where
  text : List Char
  code : Nat
  place : Nat
  bias : Nat
  isFirst : Bool
  number : Nat
  weight : Nat
  position : Nat

/-- The character that the number leads to is put in, if there is one. -/
def Reading.put? (r : Reading) (number : Nat) : Option Reading :=
  let places := r.text.length + 1
  let code := r.code + (r.place + number) / places
  let place := (r.place + number) % places
  if 0x10FFFF < code then none
  else some ⟨r.text.insertIdx place (Char.ofNat code), code, place + 1,
    adapt number places r.isFirst, false, 0, 1, 0⟩

/-- One more digit. -/
def Reading.add? (r : Reading) (c : Char) : Option Reading := do
  let value ← digitValue? c
  let number := r.number + value * r.weight
  let t := threshold r.bias r.position
  if value < t then r.put? number
  else return { r with number, weight := r.weight * (36 - t), position := r.position + 1 }

/-- The text of a written form, if it is one. -/
def decode? (s : List Char) : Option (List Char) := do
  let rest := (s.reverse.takeWhile (· != '-')).reverse
  let plain := s.take (s.length - rest.length - 1)
  let r ← rest.foldlM Reading.add? ⟨plain, firstCode, 0, firstBias, true, 0, 1, 0⟩
  if r.position = 0 then some r.text else none

end ApiCommands.DomainName.Punycode
