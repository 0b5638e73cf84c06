/-
Quoted text: a string as a literal of the emitted source.

The quote is `'`, unless the text has `'` and no `"`. The quote itself, the
backslash and the line controls have escapes of two characters; every other
character without a visible form is written by its code point, with the
shortest of three widths. Everything else stands for itself.
-/
import ApiCommands.Text.Digits
import ApiCommands.Text.Half
import ApiCommands.Text.Printable

namespace ApiCommands.Text

variable [Halves]

namespace Quoted

/-- The quote that needs fewer escapes. -/
def quoteFor (s : List Char) : Char :=
  if s.contains '\'' && !s.contains '"' then '"' else '\''

/-- The escape of a code point by number. -/
def numericEscape (n : Nat) : List Char :=
  if n ≤ 0xFF then '\\' :: 'x' :: hexadecimal 2 n
  else if n ≤ 0xFFFF then '\\' :: 'u' :: hexadecimal 4 n
  else '\\' :: 'U' :: hexadecimal 8 n

/-- One character inside the quotes. -/
def encodeChar (quote c : Char) : List Char :=
  if c = quote ∨ c = '\\' then ['\\', c]
  else if c = '\t' then ['\\', 't']
  else if c = '\n' then ['\\', 'n']
  else if c = '\r' then ['\\', 'r']
  else if isPrintable c then [c]
  else numericEscape ((half? c).getD c.toNat)

/-- A text as a literal. -/
def encode (s : List Char) : List Char :=
  let quote := quoteFor s
  quote :: s.flatMap (encodeChar quote) ++ [quote]

end Quoted

/-- A string as a literal. -/
def quoted (s : String) : String := String.ofList (Quoted.encode s.toList)

end ApiCommands.Text
