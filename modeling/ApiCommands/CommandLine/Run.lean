/-
Runs of the program.

A run reads what its invocation names, says what it does, and ends with an exit
code. Errors with words are told and end the run with their own code. Anything
else is a crash: it leaves a log behind, and only the place of the log is told. A
crash whose log cannot be written has no ending, and neither has a search that goes
on for ever.
-/
import ApiCommands.Artifact.Generation
import ApiCommands.CommandLine.Invocation
import ApiCommands.Settings

namespace ApiCommands

/-- What a run finds around it. -/
structure Machine extends Surroundings where
  home : DiskPath
  users : List (String × DiskPath)
  environment : List (String × String)
  workingDirectory : String
  /-- The time as the names of logs write it. -/
  time : String
  /-- The attributes that every model has, in the library that emitted sources import. -/
  modelAttributes : List String

/-- What a run leaves behind. -/
structure RunResult where
  disk : Disk
  transcript : Transcript
  exitCode : Nat

namespace Machine

/-- The version text. -/
def versionText : String := "awkgen 0.3.0"

/-- A short account of the command line. -/
def helpText : String :=
  "Usage: awkgen [--json | --plain] [--no-color] [-q] [-v] COMMAND\n\n"
    ++ "  generate [SPEC] [-o DIR] [--tables FILE] [--client-class NAME] [--check]\n"
    ++ "  inspect commands SPEC [--tables FILE]\n"
    ++ "  inspect tags SPEC [--tables FILE]"

/-- The disk and the home directories. -/
def workplace (m : Machine) : Workplace := ⟨m.disk, m.home, m.users⟩

/-- The tables in force. -/
def tables (m : Machine) (path : Option String) : Except Error Tables := do
  let t? ← m.workplace.tables? (path.getD "")
  return t?.getD Tables.standard

/-- The document of a source, in a supported version. -/
def document (m : Machine) (v : Voice) (source : String) : Told Value := do
  let document ← Told.ofNoted v (m.load source)
  match document.specVersion with
  | .error e => Told.fail e
  | .ok version =>
    Told.tell (v.say .debug ("Loaded OpenAPI " ++ version ++ " document from " ++ source))
    return document

-- ====================================================== generate

/-- The generator for tables and the name of a client class. -/
def generator (m : Machine) (tables : Tables) (clientClass : String) : Generator :=
  ⟨tables, clientClass, m.modelAttributes⟩

/-- The settings of a run. -/
def settings (m : Machine) (o : GenerateOptions) : Except Error Settings := do
  let project ← m.workplace.projectSettings (m.workingDirectory ++ "/" ++ Workplace.projectFile)
  Settings.resolve project m.environment
    [("spec", .optional o.spec), ("output_dir", .optional o.outputDir),
      ("tables", .optional o.tables), ("client_class", .optional o.clientClass)]

/-- The source that settings name. -/
def sourceOf (s : Settings) : Except Error String :=
  match s.spec with
  | none => .error (.usage .noSpec)
  | some source => if source = "" then .error (.usage .noSpec) else .ok source

/-- A name that a class may have. -/
def checkClassName (name : String) : Except Error Unit :=
  if Text.isIdentifier name.toList && !keywords.contains name then .ok ()
  else .error (.usage (.badClassName name))

/-- What a run of `generate` has to put into a directory; nothing for a document that is not
ready. -/
def prepare (m : Machine) (v : Voice) (o : GenerateOptions) :
    Told (Option (Generation × DiskPath)) := do
  let s ← Told.ofExcept (m.settings o)
  let source ← Told.ofExcept (sourceOf s)
  Told.ofExcept (checkClassName s.clientClass)
  let tables ← Told.ofExcept (m.tables s.tables)
  let document ← m.document v source
  match ← Told.ofNoted v ((m.generator tables s.clientClass).generate document) with
  | some g => return some (g, DiskPath.ofString s.outputDir)
  | none =>
    Told.tell (v.say .warning "Spec has no paths or component schemas yet; nothing generated.")
    return none

/-- The artifacts compared with what is on the disk. -/
def compare (d : Disk) (v : Voice) (g : Generation) (directory : DiskPath) : Told Unit :=
  match d.staleArtifacts directory g.artifacts with
  | .error fault => Told.fail (.fault fault)
  | .ok [] =>
    Told.tell (v.say .success ("Generated files in " ++ directory.text ++ " are up to date."))
  | .ok stale => Told.fail (.staleArtifacts directory.text stale)

/-- What is told of a generation that was written. -/
def summary (v : Voice) (g : Generation) (directory : DiskPath) : Transcript :=
  v.say .success ("Generated " ++ toString g.analysis.commands.length ++ " commands, "
    ++ toString g.analysis.operations.length ++ " client methods and "
    ++ toString g.modelCount ++ " models in " ++ directory.text)

/-- The artifacts written, and their paths printed. -/
def write (d : Disk) (v : Voice) (g : Generation) (directory : DiskPath) : Disk × Told Unit :=
  let (d, written) := d.writeArtifacts .none directory g.artifacts
  (d, do
    let paths ← Told.ofNoted v written
    Told.tell (.concat (paths.map fun p => .data p.text))
    Told.tell (summary v g directory))

/-- A run of `generate`. -/
def generate (m : Machine) (v : Voice) (o : GenerateOptions) : Disk × Told Unit :=
  let prepared := m.prepare v o
  match prepared.outcome with
  | .ok (some (g, directory)) =>
    let (d, delivered) := if o.check then (m.disk, compare m.disk v g directory)
      else write m.disk v g directory
    (d, prepared >>= fun _ => delivered)
  | _ => (m.disk, prepared >>= fun _ => pure ())

-- ====================================================== inspect

/-- The row of a command. -/
def commandRow (node : DomainNode) (branch : Branch) (c : Command) : List String :=
  [node.domain.name, branch.placement.branch.getD "", c.name, c.operation.method.verb,
    c.operation.path]

/-- A run of `inspect commands`. -/
def inspectCommands (m : Machine) (v : Voice) (spec : String) (tables : Option String) :
    Told Unit := do
  let t ← Told.ofExcept (m.tables tables)
  let document ← m.document v spec
  match ← Told.ofNoted v ((m.generator t "AworkClient").analyze document) with
  | none => Told.tell (v.say .warning "Spec has no paths or component schemas yet.")
  | some analysis =>
    Told.tellTable v ["Domain", "Branch", "Command", "Method", "Path"]
      (analysis.tree.rows.map fun (node, branch, c) => commandRow node branch c)

/-- The row of a tag. -/
def tagRow (p : Placement) : List String := [p.tag, p.domain.name, p.branch.getD "(root)"]

/-- A run of `inspect tags`, with its exit code. -/
def inspectTags (m : Machine) (v : Voice) (spec : String) (tables : Option String) :
    Told Nat := do
  let t ← Told.ofExcept (m.tables tables)
  let document ← m.document v spec
  let placements ← Told.ofNoted v ((m.generator t "AworkClient").tagPlacements document)
  Told.tellTable v ["Tag", "Domain", "Branch"] (placements.map tagRow)
  match (placements.filter (·.domain == .unmapped)).map (·.tag) with
  | [] =>
    Told.tell (v.say .info ("All " ++ toString placements.length ++ " tags are mapped."))
    return 0
  | unmapped =>
    Told.tell (v.say .error ("Tags not mapped to any domain: " ++ Text.joined ", " unmapped))
    Told.tell (v.say .suggestion "Map them under tag_domains in a file passed with --tables.")
    return 8

-- ====================================================== endings

/-- The directory of the program's data. -/
def dataDirectory (m : Machine) : DiskPath :=
  let base := (m.environment.lookup "XDG_DATA_HOME").getD ""
  let data := if base = "" then (m.home.child ".local").child "share" else DiskPath.ofString base
  data.child "awkgen"

/-- A disk with the log of a crash, and the place of the log. -/
def logCrash (m : Machine) (d : Disk) (e : Error) : Except Fault (Disk × String) := do
  let (d, made) := d.makeDirectories m.dataDirectory
  let _ ← made
  let directory := m.dataDirectory.child "logs"
  let (d, made) := d.makeDirectories directory
  let place ← made
  let name := "crash-" ++ m.time ++ ".log"
  return (d.set (place ++ [name]) (.file (e.account ++ "\n").toUTF8), (directory.child name).text)

/-- The end of a run. -/
def finish (m : Machine) (v : Voice) (d : Disk) (told : Told Nat) : Except Fault RunResult := do
  match told.outcome with
  | .ok code => return ⟨d, told.transcript, code⟩
  | .error (.fault .endlessSearch) => throw .endlessSearch
  | .error e =>
    match e.message? with
    | some words => return ⟨d, told.transcript ++ v.say .error words, e.exitCode⟩
    | none =>
      let (d, path) ← m.logCrash d e
      let words := "Unexpected error. Debug log: " ++ path
      return ⟨d, told.transcript ++ v.say .error words, e.exitCode⟩

/-- A run of the program. -/
def run (m : Machine) : Invocation → Except Fault RunResult
  | .version => .ok ⟨m.disk, .data versionText, 0⟩
  | .help => .ok ⟨m.disk, .data helpText, 0⟩
  | .generate v o =>
    let (d, told) := m.generate v o
    m.finish v d ((fun _ => 0) <$> told)
  | .inspectCommands v spec tables =>
    m.finish v m.disk ((fun _ => 0) <$> m.inspectCommands v spec tables)
  | .inspectTags v spec tables => m.finish v m.disk (m.inspectTags v spec tables)

/-- A run of the program on the words of a command line. -/
def runWords (m : Machine) (words : List String) : Except Fault RunResult :=
  match Invocation.read words with
  | some invocation => m.run invocation
  | none => .ok ⟨m.disk, .message helpText, 2⟩

end Machine

end ApiCommands
