/-
The program: a run between the real disk and the real streams.

What a run may look at is read first: the places that its words, its environment
and the project's file name, with the artifacts in them. The run itself is a
function of that. Afterwards what it wrote is put on the real disk. No address
can be reached from here.
-/
import ApiCommands.Calendar.DateTime
import ApiCommands.CommandLine.Run

namespace ApiCommands.Program

/-- The path of a place. -/
def pathOf : DiskPlace → String
  | [] => "."
  | "/" :: rest => "/" ++ Text.joined "/" rest
  | place => Text.joined "/" place

/-- The places a path leads through from `here`. -/
def placesOn (here : DiskPlace) : List String → List DiskPlace
  | [] => []
  | part :: rest =>
    let next := if part = ".." then Disk.around here else here ++ [part]
    next :: placesOn next rest

/-- The places a written path leads through, and those of artifacts in it. -/
def placesOf (w : Workplace) (s : String) : List DiskPlace :=
  match w.path s with
  | .error _ => []
  | .ok p =>
    let places := placesOn (Disk.startOf p) p.parts
    let last := places.getLast?.getD (Disk.startOf p)
    places ++ ["dtos.py", "client.py", "cli.py", "__init__.py"].map fun name => last ++ [name]

/-- The paths a word of a command line may hold. -/
def pathsIn (word : String) : List String :=
  [word, String.ofList (word.toList.drop 2),
    String.ofList ((word.toList.dropWhile (· != '=')).drop 1)]

/-- The texts of a JSON object's entries. -/
def textsIn : Value → List String
  | .map entries => entries.filterMap fun
    | (_, .text s) => some s
    | _ => none
  | _ => []

/-- What is at a place, if anything is that can be read. -/
def look (place : DiskPlace) : IO (Option DiskEntry) :=
  try
    let path ← IO.FS.realPath (pathOf place)
    if ← path.isDir then return some .directory else return some (.file (← IO.FS.readBinFile path))
  catch _ => return none

/-- The disk with what is really at some places. -/
def addPlaces (d : Disk) (places : List DiskPlace) : IO Disk :=
  places.foldlM (fun d place => do
    if (d.get? place).isSome then return d
    match ← look place with
    | some entry => return d.set place entry
    | none => return d) d

/-- Puts an entry on the real disk. -/
def store (place : DiskPlace) : DiskEntry → IO Unit
  | .directory => IO.FS.createDirAll (pathOf place)
  | .file bytes => do
    let path := pathOf place
    IO.FS.writeBinFile (path ++ ".tmp") bytes
    IO.FS.rename (path ++ ".tmp") path

/-- The entry is not the one that was there. -/
def isNew (before : Disk) (place : DiskPlace) (entry : DiskEntry) : Bool :=
  match before.get? place, entry with
  | some .directory, .directory => false
  | some (.file old), .file new => old != new
  | _, _ => true

/-- Seconds since the start of 1970, by the clock of the file system. -/
def secondsNow : IO Nat := do
  let (_, path) ← IO.FS.createTempFile
  let modified := (← path.metadata).modified
  IO.FS.removeFile path
  return modified.sec.toNat

/-- The variables of the environment that a run looks at. -/
def environment : IO (List (String × String)) :=
  ("XDG_DATA_HOME" :: Settings.environmentNames.map (·.2)).filterMapM fun name => do
    return (← IO.getEnv name).map fun value => (name, value)

/-- Standard input, if a word asks for it. -/
def readInput (words : List String) (given : List (String × String)) : IO String := do
  if words.contains "-" || given.any (·.2 == "-") then (← IO.getStdin).readToEnd else return ""

/-- The name and the home directory in a line of the system's list of users. -/
def userOf (line : String) : Option (String × DiskPath) :=
  match Text.splitOn ':' line.toList with
  | [name, _, _, _, _, home, _] => some (String.ofList name, .ofString (String.ofList home))
  | _ => none

/-- The home directories of all users. -/
def users : IO (List (String × DiskPath)) := do
  try
    return (← IO.FS.lines "/etc/passwd").toList.filterMap userOf
  catch _ => return []

/-- What a run finds around it. -/
def machine (words : List String) : IO Machine := do
  let given ← environment
  let w : Workplace := ⟨.empty, .ofString ((← IO.getEnv "HOME").getD "/"), ← users⟩
  let paths := words.flatMap pathsIn ++ given.map (·.2)
    ++ [Workplace.projectFile, "generated", "."]
  let d ← addPlaces .empty (paths.flatMap (placesOf w))
  let settings := match d.readText (.ofString Workplace.projectFile) with
    | .ok text => (Json.parse text).toOption.map textsIn
    | .error _ => none
  let d ← addPlaces d ((settings.getD []).flatMap (placesOf w))
  return { disk := d, input := ← readInput words given,
           fetch := fun _ => .failure false "no network", home := w.home, users := w.users,
           environment := given,
           workingDirectory := (← IO.currentDir).toString,
           time := Calendar.stamp (← secondsNow),
           modelAttributes := ModelNames.standardAttributes }

/-- A run of the program. -/
def run (words : List String) : IO UInt32 := do
  let m ← machine words
  match m.runWords words with
  | .error fault =>
    IO.eprintln fault.account
    return 1
  | .ok r =>
    for (place, entry) in r.disk.entries do
      if isNew m.disk place entry then store place entry
    IO.print r.transcript.output
    IO.eprint r.transcript.errors
    return r.exitCode.toUInt32

end ApiCommands.Program

/-- The program on the words of its command line. -/
def main (words : List String) : IO UInt32 := ApiCommands.Program.run words
