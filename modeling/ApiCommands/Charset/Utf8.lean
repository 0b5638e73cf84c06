/-
UTF-8, read in spite of errors.

Bytes that are no character become the replacement character, one for each
longest run of bytes that a character could start with. Texts without errors are
read as they are.
-/

namespace ApiCommands.Charset

/-- What stands for bytes that have no meaning. -/
def replacement : Char := Char.ofNat 0xFFFD

namespace Utf8

/-- What a first byte asks for: its own part of the code point, how many bytes follow, and the
bounds of the byte after it. -/
structure Lead where
  value : Nat
  more : Nat
  low : Nat
  high : Nat

/-- What a byte asks for as the first one of a character. -/
def lead? (b : Nat) : Option Lead :=
  if b < 0x80 then some ⟨b, 0, 0, 0⟩
  else if b < 0xC2 then none
  else if b < 0xE0 then some ⟨b - 0xC0, 1, 0x80, 0xBF⟩
  else if b < 0xF0 then
    some ⟨b - 0xE0, 2, if b = 0xE0 then 0xA0 else 0x80, if b = 0xED then 0x9F else 0xBF⟩
  else if b < 0xF5 then
    some ⟨b - 0xF0, 3, if b = 0xF0 then 0x90 else 0x80, if b = 0xF4 then 0x8F else 0xBF⟩
  else none

/-- The code point of a character from its bytes after the first, if they are all there, and the
bytes behind those that fit. -/
def finish (value low high : Nat) : (more : Nat) → List Nat → Option Nat × List Nat
  | 0, rest => (some value, rest)
  | _ + 1, [] => (none, [])
  | more + 1, b :: rest =>
    if low ≤ b ∧ b ≤ high then finish (64 * value + (b - 0x80)) 0x80 0xBF more rest
    else (none, b :: rest)

theorem length_finish_le (value low high more : Nat) (s : List Nat) :
    (finish value low high more s).2.length ≤ s.length := by
  induction more generalizing value low high s with
  | zero => simp [finish]
  | succ more ih =>
    cases s with
    | nil => simp [finish]
    | cons b rest =>
      simp only [finish]
      split
      · exact Nat.le_succ_of_le (ih _ _ _ _)
      · exact Nat.le_refl _

/-- The characters of bytes. -/
def decode (bytes : List Nat) : List Char :=
  match bytes with
  | [] => []
  | b :: rest =>
    match lead? b with
    | none => replacement :: decode rest
    | some l =>
      let finished := finish l.value l.low l.high l.more rest
      (finished.1.map Char.ofNat).getD replacement :: decode finished.2
termination_by bytes.length
decreasing_by
  · simp
  · exact Nat.lt_succ_of_le (length_finish_le _ _ _ _ _)

end Utf8

end ApiCommands.Charset
