/-
Options of a command that make up its request.

A body starts as the value of `--body`. Assignments of texts (`--set`) and of
JSON values (`--set-json`) follow, in this order; an option that stands for a
body field counts as one more assignment. Options that are not given leave no
trace, neither in the body nor in the query.

A JSON value is written out, or `@` and the path of a file that holds it.
-/
import ApiCommands.Body.Assignment
import ApiCommands.Call.Arguments
import ApiCommands.Document.Json.Reader
import ApiCommands.Document.Json.Writer
import ApiCommands.Outcome.Error
import ApiCommands.Storage.Workplace

namespace ApiCommands

namespace Workplace

/-- The text of a file that an option named `what` asks for. -/
def readFile (w : Workplace) (what file : String) : Except Error String := do
  let p ← (w.path file).mapError .fault
  match w.disk.readText p with
  | .ok text => return text
  | .error (.file e) => throw (.usage (.unreadableFile what p.text e))
  | .error f => throw (.fault f)

/-- The text behind an option's value. -/
def textOf (w : Workplace) (what value : String) : Except Error String :=
  match value.toList with
  | '@' :: file => w.readFile what (String.ofList file)
  | _ => .ok value

/-- The JSON value of an option named `what`. -/
def readJson (w : Workplace) (what value : String) : Except Error Value := do
  let text ← w.textOf what value
  match Json.parse text with
  | .ok v => .ok v
  | .error (.misread problem) => .error (.usage (.invalidJson what problem))
  | .error (.beyond l) => .error (.fault (.ofLimit l))

end Workplace

/-- The assignments of a command: of texts, and of JSON values. -/
structure Pairs where
  texts : List String
  jsons : List String
  deriving DecidableEq, Repr

/-- All assignments, those of texts first. -/
def Pairs.all (p : Pairs) : List String := p.texts ++ p.jsons

/-- What a command is given for its body. -/
structure BodyOptions where
  raw : Option String
  texts : List String
  jsons : List String
  fields : Arguments

namespace BodyOptions

/-- The assignments that are not blank, group after group. -/
def mergePairs (groups : List (List String)) : List String :=
  groups.flatMap fun group => group.filter fun pair => !Text.isBlank pair.toList

/-- The assignment of a text that a field's option stands for. -/
def textPair? : String × Value → Except Fault (Option String)
  | (_, .null) => .ok none
  | (_, .list _) => .ok none
  | (name, v) => return some (name ++ "=" ++ (← v.display))

/-- The assignment of a JSON value that a field's option stands for. -/
def jsonPair? : String × Value → Except Fault (Option String)
  | (_, .list []) => .ok none
  | (name, .list items) => return some (name ++ "=" ++ (← Json.encode .line (.list items)))
  | _ => .ok none

/-- All assignments: those that are given, then those that the options of fields stand for. -/
def pairs (o : BodyOptions) : Except Fault Pairs := do
  let texts ← o.fields.mapM textPair?
  let jsons ← o.fields.mapM jsonPair?
  return ⟨mergePairs [o.texts, texts.reduceOption], mergePairs [o.jsons, jsons.reduceOption]⟩

end BodyOptions

namespace Workplace

/-- The value of `--body`; a blank one counts as none. -/
def rawBody (w : Workplace) : Option String → Except Error Value
  | none => .ok .null
  | some raw => if Text.isBlank raw.toList then .ok .null else w.readJson "--body" raw

/-- A mapping to assign to, made if there is no body. -/
def bodyEntries : Value → Except Error Entries
  | .null => .ok []
  | .map entries => .ok entries
  | _ => .error (.usage .bodyNotObject)

/-- An assignment as it is written. -/
def readPair (pair : String) : Except Error Assignment :=
  match Assignment.read pair with
  | .ok a => .ok a
  | .error e => .error (.usage e)

/-- One assignment of a text carried out. -/
def assignText (entries : Entries) (pair : String) : Except Error Entries := do
  let a ← readPair pair
  return entries.assign (.text a.value) a.steps

/-- One assignment of a JSON value carried out. -/
def assignJson (w : Workplace) (entries : Entries) (pair : String) : Except Error Entries := do
  let a ← readPair pair
  let v ← w.readJson ("--set-json " ++ a.key) (String.ofList (Text.trim a.value.toList))
  return entries.assign v a.steps

/-- The body that `--body` and assignments make; nothing if there are none of them. -/
def buildBody (w : Workplace) (raw : Option String) (texts jsons : List String) :
    Except Error Value := do
  let body ← w.rawBody raw
  if texts.isEmpty && jsons.isEmpty then return body
  let entries ← bodyEntries body
  let entries ← texts.foldlM assignText entries
  let entries ← jsons.foldlM w.assignJson entries
  return .map entries

/-- The body of a command. Fields are only checked where some are allowed by name. -/
def bodyOf (w : Workplace) (o : BodyOptions) (allowed : List String) (required : Bool) :
    Except Error Value := do
  let pairs ← o.pairs.mapError .fault
  if !allowed.isEmpty then
    match requireAllowed allowed pairs.all with
    | .ok () => pure ()
    | .error e => throw (.usage e)
  match ← w.buildBody o.raw pairs.texts pairs.jsons with
  | .null => if required then throw (.usage .bodyRequired) else return .null
  | body => return body

end Workplace

/-- The query options that are given: neither nothing, nor a blank text, nor an empty list. -/
def Arguments.queryOptions (args : Arguments) : Arguments :=
  args.filter fun
    | (_, .list []) => false
    | (_, v) => !v.isMissing

end ApiCommands
