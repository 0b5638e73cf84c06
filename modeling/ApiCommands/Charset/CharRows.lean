/-
Characters by their places.

A set of characters is laid out in rows. It is stored as texts without gaps, each
with the place of its first character.
-/
import ApiCommands.Text.CharRuns

namespace ApiCommands.Charset

/-- Texts of characters in successive places, each with the first of them. -/
abbrev CharRows := List (Nat × String)

namespace CharRows

/-- The length of a text at most. -/
def maxLength : Nat := 84

/-- The character in a place. -/
def at? (t : CharRows) (place : Nat) : Option Char :=
  t.findSome? fun (first, row) =>
    if first ≤ place ∧ place < first + maxLength then row.toList[place - first]? else none

end CharRows

end ApiCommands.Charset
