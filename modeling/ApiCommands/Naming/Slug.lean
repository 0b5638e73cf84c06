/-
Slugs: the form of command, branch and option names.

A slug is made of lower-case ASCII letters and digits, with single hyphens
between its words. `slug` lowers a text and keeps its runs of such characters;
everything between two runs becomes one hyphen.
-/
import ApiCommands.Text.LetterCase
import ApiCommands.Text.Pieces

namespace ApiCommands

namespace Slug

/-- A character of a slug's words. -/
def isWordChar (c : Char) : Bool :=
  (decide ('a' ≤ c) && decide (c ≤ 'z')) || (decide ('0' ≤ c) && decide (c ≤ '9'))

/-- The words a slug of `s` is made of. -/
def words (s : List Char) : List (List Char) :=
  Text.runsWithout (fun c => !isWordChar c) (Text.lower s)

/-- The slug of a text. -/
def ofChars (s : List Char) : List Char := Text.join ['-'] (words s)

end Slug

/-- The slug of a string; empty when nothing usable is left. -/
def slug (s : String) : String := String.ofList (Slug.ofChars s.toList)

end ApiCommands
