/-
Assignments: `KEY=VALUE`.

The key is a path into a mapping, its steps separated by points; empty steps do
not count, but there has to be another one. An assignment makes the mappings on
its way where there are none, puts new entries at the end, and leaves entries
that are there in their places.
-/
import ApiCommands.Document.Value
import ApiCommands.Outcome.Error
import ApiCommands.Text.Blank
import ApiCommands.Text.LetterCase

namespace ApiCommands

/-- A key and the text assigned to it. -/
structure Assignment where
  key : String
  value : String
  deriving DecidableEq, Repr

namespace Assignment

/-- The steps of a key. -/
def stepsOf (key : String) : List String := (Text.partsOn '.' key.toList).map String.ofList

/-- The steps to the assigned entry. -/
def steps (a : Assignment) : List String := stepsOf a.key

/-- The field the assignment is about. -/
def field (a : Assignment) : String := a.steps.head?.getD a.key

/-- An assignment as it is written. -/
def read (pair : String) : Except UsageError Assignment :=
  match Text.cutAt '=' pair.toList with
  | none => .error (.badPair pair)
  | some (key, value) =>
    let key := String.ofList (Text.trim key)
    if stepsOf key = [] then .error (.badPair pair) else .ok ⟨key, String.ofList value⟩

end Assignment

namespace Entries

/-- The mapping a value is; every other value counts as an empty one. -/
def ofValue? : Option Value → Entries
  | some (.map entries) => entries
  | _ => []

/-- The entries with a value at the end of a path. -/
def assign (entries : Entries) (value : Value) : List String → Entries
  | [] => entries
  | [step] => entries.insert (.text step) value
  | step :: rest =>
    entries.insert (.text step)
      (.map (assign (ofValue? (entries.find? (.text step))) value rest))

/-- The value at the end of a path, going through mappings only. -/
def at? (entries : Entries) : List String → Option Value
  | [] => none
  | [step] => entries.find? (.text step)
  | step :: rest =>
    match entries.find? (.text step) with
    | some (.map inner) => at? inner rest
    | _ => none

end Entries

/-- The first assignment about a field that is not among the allowed ones is refused; case does not
count. -/
def requireAllowed (allowed : List String) (pairs : List String) : Except UsageError Unit :=
  let known := allowed.map Text.lowered
  pairs.forM fun pair => do
    let a ← Assignment.read pair
    if known.contains (Text.lowered a.field) then .ok ()
    else .error (.unknownField a.field (allowed.mergeSort fun a b => decide (a ≤ b)))

end ApiCommands
