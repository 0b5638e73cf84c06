/-
Identifiers of the emitted source.

`Identifier.ofString` drops every character an ASCII identifier cannot hold,
and puts an underscore in front where the rest would start with a digit or be a
keyword. Nothing usable gives the placeholder `_`.
-/
import ApiCommands.Text.Blank
import ApiCommands.Text.NameChars

namespace ApiCommands

/-- Words that are no identifiers. -/
def keywords : List String :=
  ["False", "None", "True", "and", "as", "assert", "async", "await", "break", "class",
    "continue", "def", "del", "elif", "else", "except", "finally", "for", "from", "global",
    "if", "import", "in", "is", "lambda", "nonlocal", "not", "or", "pass", "raise", "return",
    "try", "while", "with", "yield"]

namespace Identifier

/-- A character of an ASCII identifier. -/
def isWordChar (c : Char) : Bool := c.isAlphanum || c == '_'

/-- What an identifier is without any usable character. -/
def placeholder : String := "_"

/-- An underscore in front of a leading digit. -/
def guardDigit : List Char → List Char
  | [] => []
  | c :: rest => if c.isDigit then '_' :: c :: rest else c :: rest

/-- The usable characters of a text, guarded. -/
def body (s : List Char) : List Char := guardDigit (s.filter isWordChar)

/-- An underscore in front of a keyword. -/
def guardKeyword (s : String) : String := if keywords.contains s then "_" ++ s else s

/-- The identifier of a string. -/
def ofString (s : String) : String :=
  if Text.isBlank s.toList then placeholder
  else match body s.toList with
    | [] => placeholder
    | cs => guardKeyword (String.ofList cs)

/-- The identifier of a string that may be missing. A missing one has no usable character. -/
def ofOption (s : Option String) : String := (s.map ofString).getD placeholder

end Identifier

end ApiCommands
