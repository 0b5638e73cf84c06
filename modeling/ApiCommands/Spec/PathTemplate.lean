/-
Path templates: `/users/{userId}`.

A template is read in two ways. By segments, the non-empty pieces between
slashes, of which those in braces stand for parameters. And by parts, where
every `{name}` inside the text is a placeholder, whether or not it fills its
segment; a name holds no brace and is not empty, and a brace that opens no
placeholder is text.
-/
import ApiCommands.Text.Pieces

namespace ApiCommands

/-- A part of a template: a character of its text, or a placeholder. -/
inductive TemplatePart where
  | literal (c : Char)
  | placeholder (name : List Char)
  deriving DecidableEq, Repr

namespace PathTemplate

/-- The non-empty pieces of a path between slashes. -/
def segments (path : String) : List String := (Text.partsOn '/' path.toList).map String.ofList

/-- A segment that stands for a parameter. -/
def isParam (segment : String) : Bool :=
  ['{'].isPrefixOf segment.toList && ['}'].isSuffixOf segment.toList

/-- The name of the parameter a segment stands for; another segment is its own name. -/
def paramName (segment : String) : String :=
  if isParam segment then String.ofList (segment.toList.drop 1).dropLast else segment

/-- A character no placeholder name holds. -/
def isBrace (c : Char) : Bool := c == '{' || c == '}'

/-- The name of the placeholder whose opening brace stands before `s`, if one does. -/
def nameAt? (s : List Char) : Option (List Char) :=
  let name := s.takeWhile (!isBrace ·)
  if name ≠ [] ∧ (s.drop name.length).head? = some '}' then some name else none

/-- The parts of a template, from left to right. -/
def parts (s : List Char) : List TemplatePart :=
  match s with
  | [] => []
  | c :: rest =>
    match (if c = '{' then nameAt? rest else none) with
    | some name => .placeholder name :: parts (rest.drop (name.length + 1))
    | none => .literal c :: parts rest
termination_by s.length
decreasing_by all_goals simp only [List.length_cons, List.length_drop]; omega

/-- The names of the placeholders, from left to right. -/
def placeholders (template : String) : List String :=
  (parts template.toList).filterMap fun
    | .literal _ => none
    | .placeholder name => some (String.ofList name)

end PathTemplate

end ApiCommands
