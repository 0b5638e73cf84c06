/-
Percent-encoding: text inside addresses.

A byte is written as `%` and two upper-case hexadecimal digits. `encode` leaves
only the unreserved characters as they are, so a value can add no delimiter to
the address around it; `encodeForm` is its variant for queries, where a blank
becomes `+`. `escapeExcept` is what a client does to a whole path: characters a
path may hold stay, escapes already there stay, the rest is written in bytes.
-/
import ApiCommands.Text.Digits

namespace ApiCommands.Text.Percent

/-- The digit of value `n`, in upper case. -/
def hexDigit (n : Nat) : Char :=
  Char.ofNat (if n < 10 then 48 + n else 55 + n)

/-- One byte as an escape. -/
def encodeByte (b : UInt8) : List Char :=
  ['%', hexDigit (b.toNat / 16), hexDigit (b.toNat % 16)]

/-- One character as the escapes of its UTF-8 bytes. -/
def encodeChar (c : Char) : List Char :=
  (String.utf8EncodeChar c).flatMap encodeByte

/-- Letters, digits and the four signs that never delimit anything. -/
def isUnreserved (c : Char) : Bool :=
  c.isAlphanum || c == '_' || c == '.' || c == '~' || c == '-'

/-- Every character but the unreserved ones in escapes. -/
def encode (s : List Char) : List Char :=
  s.flatMap fun c => if isUnreserved c then [c] else encodeChar c

/-- As `encode`, but a blank becomes `+`. -/
def encodeForm (s : List Char) : List Char :=
  s.flatMap fun c => if isUnreserved c then [c] else if c = ' ' then ['+'] else encodeChar c

/-- Visible ASCII but for the characters that end a path or are unsafe in it. -/
def mayStandInPath (c : Char) : Bool :=
  decide (32 < c.toNat) && decide (c.toNat < 127) &&
    !(['"', '#', '<', '>', '?', '\x60', '{', '}'].contains c)

/-- Visible ASCII but for what ends the query and what is unsafe in it. -/
def mayStandInQuery (c : Char) : Bool :=
  decide (32 < c.toNat) && decide (c.toNat < 127) && !(['"', '#', '<', '>'].contains c)

/-- Visible ASCII but for what is unsafe in a fragment. -/
def mayStandInFragment (c : Char) : Bool :=
  decide (32 < c.toNat) && decide (c.toNat < 127) && !(['"', '<', '>', '\x60'].contains c)

/-- What may stand in a path, but for the characters that delimit a user. -/
def mayStandInUser (c : Char) : Bool :=
  mayStandInPath c && !(['/', ';', '=', '@', '[', '\\', ']', '^', '|'].contains c)

/-- Every character outside `keep` in escapes. -/
def escapeExcept (keep : Char → Bool) (s : List Char) : List Char :=
  s.flatMap fun c => if keep c then [c] else encodeChar c

/-- The bytes of a text with escapes. What is no escape stands for itself. -/
def bytesOf : List Char → List UInt8
  | '%' :: a :: b :: rest =>
    match hexValue? a, hexValue? b with
    | some high, some low => UInt8.ofNat (16 * high + low) :: bytesOf rest
    | _, _ => 37 :: bytesOf (a :: b :: rest)
  | c :: rest => String.utf8EncodeChar c ++ bytesOf rest
  | [] => []

/-- Printed values never hold a character that delimits a part of an address. -/
theorem isUnreserved_or_percent_of_mem_encodeByte {b : UInt8} {c : Char} (h : c ∈ encodeByte b) :
    isUnreserved c = true ∨ c = '%' := by
  have hexDigit_unreserved : ∀ n : Fin 16, isUnreserved (hexDigit n.val) = true := by decide
  have hb : b.toNat < 256 := UInt8.toNat_lt b
  simp only [encodeByte, List.mem_cons, List.not_mem_nil, or_false] at h
  rcases h with rfl | rfl | rfl
  · exact Or.inr rfl
  · exact Or.inl (hexDigit_unreserved ⟨b.toNat / 16, by omega⟩)
  · exact Or.inl (hexDigit_unreserved ⟨b.toNat % 16, by omega⟩)

end ApiCommands.Text.Percent
