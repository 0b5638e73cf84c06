/-
Arguments of a call: values by name, and what they look like in an address.

A truth value is written in small letters, a point in time as the standard for
dates does; any other value as a message shows it. An integer with too many digits
has no text, and a text with halves of pairs has no bytes. A name is found in whatever
case it is asked for, and of two names that differ in case alone the later one
counts. An argument that is nothing or blank counts as missing.
-/
import ApiCommands.Document.Display
import ApiCommands.Outcome.Error
import ApiCommands.Spec.PathTemplate
import ApiCommands.Text.Half
import ApiCommands.Text.LetterCase
import ApiCommands.Text.Percent

namespace ApiCommands

/-- Values by name. -/
abbrev Arguments := List (String × Value)

variable [Text.Halves]

namespace Value

/-- A value inside an address. -/
def argumentText : Value → Except Fault String
  | bool b => .ok (if b then "true" else "false")
  | scalar (.dateTime t) => .ok t.iso
  | v => v.display

/-- A value as it stands in an address: its text in escapes. -/
def escaped (v : Value) : Except Error (List Char) := do
  let written ← v.argumentText.mapError .fault
  if Text.hasBytes written.toList then return Text.Percent.encode written.toList
  else throw (.fault .unencodable)

/-- Nothing, or a text without anything to see. -/
def isMissing : Value → Bool
  | null => true
  | text s => Text.isBlank s.toList
  | _ => false

end Value

namespace Arguments

/-- The last value whose name is `name` but for its case. -/
def find? (args : Arguments) (name : String) : Option Value :=
  (args.reverse.find? fun (k, _) => Text.lowered k == Text.lowered name).map (·.2)

/-- The value of a name, unless it is missing. -/
def given? (args : Arguments) (name : String) : Option Value :=
  (args.find? name).filter (!·.isMissing)

end Arguments

namespace PathTemplate

/-- A part of a template with its placeholder filled. -/
def expandPart (args : Arguments) : TemplatePart → Except Error (List Char)
  | .literal c => .ok [c]
  | .placeholder name =>
    match args.given? (String.ofList name) with
    | none => .error (.usage (.missingArgument (String.ofList name)))
    | some v => v.escaped

/-- The path of a template: every placeholder filled with its argument, which can add nothing to
the path's shape. -/
def expand (template : String) (args : Arguments) : Except Error String := do
  let pieces ← (parts template.toList).mapM (expandPart args)
  return String.ofList pieces.flatten

end PathTemplate

namespace Arguments

/-- The pairs a query argument makes: a list repeats its name, and nothing makes no pair. -/
def queryPairsOf (name : String) : Value → Except Fault (List (String × String))
  | .null => .ok []
  | .list items =>
    (items.filter fun | .null => false | _ => true).mapM fun v => do
      return (name, ← v.argumentText)
  | v => do return [(name, ← v.argumentText)]

/-- The pairs of a query, in order. -/
def queryPairs (args : Arguments) : Except Fault (List (String × String)) := do
  return (← args.mapM fun (name, v) => queryPairsOf name v).flatten

end Arguments

end ApiCommands
