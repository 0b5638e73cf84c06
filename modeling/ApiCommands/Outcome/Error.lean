/-
Errors, by their causes.

Every error the program reports has a cause in one of six families, each with an
exit code, and `Error.message` is the one place where causes become words. Two
further constructors stand apart: a validation report nobody put into words, and
a `Fault`, an input the program has no answer for.
-/
import ApiCommands.Outcome.Fault
import ApiCommands.Outcome.Issue
import ApiCommands.Text.Pieces

namespace ApiCommands

/-- A use of the command line that cannot be followed. -/
inductive UsageError where
  | noSpec
  | badClassName (name : String)
  | missingArgument (name : String)
  | unreadableFile (what path : String) (reason : FileError)
  | invalidJson (what : String) (problem : Json.Misreading)
  | badPair (pair : String)
  | unknownField (field : String) (allowed : List String)
  | bodyNotObject
  | bodyRequired
  deriving DecidableEq, Repr

/-- The words for a usage error. -/
def UsageError.message : UsageError → String
  | noSpec => "No spec given. Pass SPEC or set AWKGEN_SPEC."
  | badClassName name => "Invalid client class name '" ++ name ++ "'."
  | missingArgument name => "Missing <" ++ name ++ ">."
  | unreadableFile what path reason =>
    "Cannot read " ++ what ++ " file " ++ path ++ ": " ++ reason.about path
  | invalidJson what problem => "Invalid JSON for " ++ what ++ ": " ++ problem.message
  | badPair pair => "Invalid key/value '" ++ pair ++ "'. Use KEY=VALUE."
  | unknownField field allowed =>
    "Unknown body field '" ++ field ++ "'. Allowed: " ++ Text.joined ", " allowed ++ "."
  | bodyNotObject => "--set and --set-json need --body to be a JSON object."
  | bodyRequired => "Body is required."

/-- An API description that cannot be used. -/
inductive SpecError where
  | noInput
  | badStatus (status : Int) (url : String)
  | unreachable (url reason : String)
  | fileNotFound (path : String)
  | unreadableFile (path : String) (reason : FileError)
  | emptyFile (path : String)
  | invalidJson (problem : Json.Misreading)
  /-- Neither JSON, for the reason given if it was tried, nor YAML. -/
  | unparsable (json : Option Json.Misreading)
  | notMapping (kind : String)
  | swagger (version : String)
  | noVersion
  | unsupportedVersion (version : String)
  deriving DecidableEq, Repr

/-- The words for a spec error. -/
def SpecError.message : SpecError → String
  | noInput => "No spec received on stdin"
  | badStatus status url => "HTTP " ++ toString status ++ " fetching spec from " ++ url
  | unreachable url reason => "Failed to fetch spec from " ++ url ++ ": " ++ reason
  | fileNotFound path => "Spec file not found: " ++ path
  | unreadableFile path reason =>
    "Failed to read spec file " ++ path ++ ": " ++ reason.about path
  | emptyFile path => "Spec file is empty: " ++ path
  | invalidJson problem => "Invalid JSON: " ++ problem.message
  | unparsable json =>
    "Failed to parse spec as JSON or YAML\n  "
      ++ ((json.map fun problem => "JSON error: " ++ problem.message ++ "\n  ").getD "")
      ++ "YAML error"
  | notMapping kind => "Spec must be a JSON/YAML object (got " ++ kind ++ ")"
  | swagger version =>
    "Swagger " ++ version
      ++ " is not supported; convert the document to OpenAPI 3.x first."
  | noVersion => "Missing 'openapi' field. Is this an OpenAPI 3.x document?"
  | unsupportedVersion version =>
    "Unsupported OpenAPI version: " ++ version ++ ". Only OpenAPI 3.x is supported."

/-- Why a configuration file cannot be read. -/
inductive Unreadable where
  | file (reason : FileError) (path : String)
  | json (problem : Json.Misreading)
  | yaml
  deriving DecidableEq, Repr

/-- The reason behind a message, if one is given. -/
def Unreadable.suffix : Unreadable → String
  | file reason path => ": " ++ reason.about path
  | json problem => ": " ++ problem.message
  | yaml => ""

/-- A configuration that cannot be used. -/
inductive ConfigError where
  | project (path : String) (reason : Unreadable)
  | projectNotObject (path : String)
  | settings (report : Report)
  | tablesNotFound (path : String)
  | tables (path : String) (reason : Unreadable)
  | tablesNotMapping (path : String)
  | invalidTables (path : String) (report : Report)
  | noClient
  deriving DecidableEq, Repr

/-- The words for a configuration error. -/
def ConfigError.message : ConfigError → String
  | project path reason => "Invalid project config at " ++ path ++ reason.suffix
  | projectNotObject path =>
    "Invalid project config at " ++ path ++ ": expected a JSON object"
  | settings report => "Invalid generator settings: " ++ report.title
  | tablesNotFound path => "Naming tables file not found: " ++ path
  | tables path reason => "Cannot read naming tables " ++ path ++ reason.suffix
  | tablesNotMapping path => "Naming tables " ++ path ++ " must contain a mapping"
  | invalidTables path report => "Invalid naming tables " ++ path ++ ": " ++ report.title
  | noClient => "No API client configured for this command."

/-- The report a configuration error comes from. -/
def ConfigError.report? : ConfigError → Option Report
  | settings report => some report
  | invalidTables _ report => some report
  | _ => none

/-- A request that got no response. -/
structure ConnectionError where
  url : String
  timedOut : Bool
  reason : String
  deriving DecidableEq, Repr

/-- The words for a connection error. -/
def ConnectionError.message (e : ConnectionError) : String :=
  "Request to " ++ e.url ++ (if e.timedOut then " timed out: " else " failed: ") ++ e.reason

/-- Everything that ends a run early. -/
inductive Error where
  | usage (cause : UsageError)
  | connection (cause : ConnectionError)
  | spec (cause : SpecError)
  | unmappedTags (tags : List (String × List String))
  | staleArtifacts (directory : String) (names : List String)
  | config (cause : ConfigError)
  | invalid (report : Report)
  | fault (cause : Fault)
  deriving DecidableEq, Repr

namespace Error

/-- The words for an error, of the families that have words. -/
def message? : Error → Option String
  | usage cause => some cause.message
  | connection cause => some cause.message
  | spec cause => some cause.message
  | unmappedTags tags =>
    some ("Tags not mapped to any domain: "
      ++ Text.joined "; " (tags.map fun (tag, ids) =>
        "'" ++ tag ++ "' (operations: " ++ Text.joined ", " ids ++ ")")
      ++ ". Update the naming tables before generating.")
  | staleArtifacts directory names =>
    some ("Generated files in " ++ directory ++ " are out of date: " ++ Text.joined ", " names
      ++ ". Run: awkgen generate")
  | config cause => some cause.message
  | invalid _ => none
  | fault _ => none

/-- An account of any error, for a log. -/
def account (e : Error) : String :=
  match e with
  | invalid report => report.title
  | fault cause => cause.account
  | _ => e.message?.getD ""

/-- The exit code an error ends the program with. -/
def exitCode : Error → Nat
  | usage _ => 2
  | connection _ => 6
  | spec _ => 7
  | unmappedTags _ => 8
  | staleArtifacts _ _ => 9
  | config _ => 1
  | invalid _ => 1
  | fault _ => 1

end Error

end ApiCommands
