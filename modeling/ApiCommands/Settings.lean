/-
Settings of a generation run, and the files they may come from.

# Settings

A setting is taken from the command line if it is given there, else from a
variable of the environment that is not empty, else from the project's file,
else it has a default. The merged settings are checked as a whole: each has to be
a text, two of them may be nothing, and there are no others.

# Configuration files

The project's file is a JSON object in the working directory, and may be
missing. A file of tables is YAML if its suffix says so, else JSON; where it
holds nothing the standard tables stay in force.
-/
import ApiCommands.Document.Yaml.Reader
import ApiCommands.Naming.Tables.Reading
import ApiCommands.Naming.Tables.Standard
import ApiCommands.Outcome.Error
import ApiCommands.Spec.Source
import ApiCommands.Storage.Workplace
import ApiCommands.Validation.Checked

namespace ApiCommands

-- ====================================================== settings

/-- What a generation run goes by. -/
structure Settings where
  spec : Option String
  outputDir : String
  tables : Option String
  clientClass : String
  deriving DecidableEq, Repr

namespace Settings

/-- The variable of the environment for each setting. -/
def environmentNames : List (String × String) :=
  [("spec", "AWKGEN_SPEC"), ("output_dir", "AWKGEN_OUTPUT_DIR"), ("tables", "AWKGEN_TABLES"),
    ("client_class", "AWKGEN_CLIENT_CLASS")]

/-- The names of all settings. -/
def names : List String := environmentNames.map (·.1)

/-- The check of merged settings. -/
def check (e : Entries) : Checked Settings :=
  (fun settings _ => settings) <$>
    (Settings.mk <$> Checked.withDefault e "spec" none Checked.optionalText
      <*> Checked.withDefault e "output_dir" "generated" Checked.text
      <*> Checked.withDefault e "tables" none Checked.optionalText
      <*> Checked.withDefault e "client_class" "AworkClient" Checked.text)
    <*> Checked.noExtras e names

/-- The settings the environment gives. -/
def fromEnvironment (environment : List (String × String)) : Entries :=
  environmentNames.filterMap fun (name, source) =>
    match environment.lookup source with
    | none => none
    | some value => if value = "" then none else some (.text name, .text value)

/-- The settings the command line gives. -/
def fromFlags (flags : List (String × Value)) : Entries :=
  flags.filterMap fun
    | (_, .null) => none
    | (name, v) => some (.text name, v)

/-- All settings, the later source over the earlier one. -/
def merge (project : Entries) (environment : List (String × String))
    (flags : List (String × Value)) : Entries :=
  (project.insertAll (fromEnvironment environment)).insertAll (fromFlags flags)

/-- The settings in force. -/
def resolve (project : Entries) (environment : List (String × String))
    (flags : List (String × Value)) : Except Error Settings :=
  match (check (merge project environment flags)).result "GeneratorSettings" with
  | .ok s => .ok s
  | .error report => .error (.config (.settings report))

end Settings

-- ====================================================== configuration files

namespace Workplace

/-- The name of the project's file. -/
def projectFile : String := "awkgen.json"

/-- The value of a text in a format. -/
def readConfig (format : Format) (text : String) (refuse : Unreadable → Error) :
    Except Error Value :=
  match format with
  | .json =>
    match Json.parse text with
    | .ok v => .ok v
    | .error (.misread problem) => .error (refuse (.json problem))
    | .error (.beyond l) => .error (.fault (.ofLimit l))
  | .yaml =>
    match Yaml.parse text with
    | .ok v => .ok v
    | .error e => .error (((Fault.ofRefusal? e).map .fault).getD (refuse .yaml))

/-- The value of a file in a format. -/
def readConfigFile (w : Workplace) (p : DiskPath) (format : Format)
    (refuse : Unreadable → Error) : Except Error Value :=
  match w.disk.readText p with
  | .error (.file e) => .error (refuse (.file e p.text))
  | .error f => .error (.fault f)
  | .ok text => readConfig format text refuse

/-- The settings of the project's file, which messages call `shown`; none if there is no file. -/
def projectSettings (w : Workplace) (shown : String) : Except Error Entries := do
  let p := DiskPath.ofString projectFile
  if ← (w.disk.isFile p).mapError .fault then
    match ← w.readConfigFile p .json fun reason => .config (.project shown reason) with
    | .map entries => return entries
    | _ => throw (.config (.projectNotObject shown))
  else return []

/-- The tables in a file, if the path is given and the file says anything. -/
def tables? (w : Workplace) (path : String) : Except Error (Option Tables) := do
  if path = "" then return none
  let p ← (w.path path).mapError .fault
  if !(← (w.disk.isFile p).mapError .fault) then throw (.config (.tablesNotFound p.text))
  let refuse (reason : Unreadable) : Error := .config (.tables p.text reason)
  let format := if Format.ofSuffix? p.suffix = some .yaml then .yaml else .json
  match ← w.readConfigFile p format refuse with
  | .null => return none
  | .map entries =>
    match Tables.standard.withOverrides .lax entries with
    | .ok t => return some t
    | .error report => throw (.config (.invalidTables p.text report))
  | _ => throw (.config (.tablesNotMapping p.text))

end Workplace

end ApiCommands
