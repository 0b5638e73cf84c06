/-
The disk: files and directories.

A place on the disk is named by the directories that lead to it, from the
working directory, from one around it (`..`), or from the root of all files
(`/`). These anchors are always there; of their other contents only what is
listed is known. A path reaches its place step by step, and every step but the
last has to end in a directory, so `a/../b` needs `a`. A name has a limited
number of bytes.
-/
import ApiCommands.Storage.DiskPath
import ApiCommands.Text.Blank

namespace ApiCommands

/-- What may be at a place. -/
inductive DiskEntry where
  | file (bytes : ByteArray)
  | directory

/-- The names that lead to a place. -/
abbrev DiskPlace := List String

/-- Everything on the disk. -/
structure Disk where
  entries : List (DiskPlace × DiskEntry)

namespace Disk

/-- The empty disk. -/
def empty : Disk := ⟨[]⟩

/-- The working directory, one around it, or the root. -/
def isAnchor (place : DiskPlace) : Bool := place == ["/"] || place.all (· == "..")

/-- What is at a place; anchors are always there. -/
def get? (d : Disk) (place : DiskPlace) : Option DiskEntry :=
  if isAnchor place then some .directory else d.entries.lookup place

/-- The directory around a place; the root is its own. -/
def around (place : DiskPlace) : DiskPlace :=
  if place == ["/"] then place
  else if place.all (· == "..") then place ++ [".."]
  else place.dropLast

/-- Entries with one set: in place if it is there, else at the end. -/
def setIn (place : DiskPlace) (entry : DiskEntry) :
    List (DiskPlace × DiskEntry) → List (DiskPlace × DiskEntry)
  | [] => [(place, entry)]
  | (p, e) :: rest =>
    if p = place then (p, entry) :: rest else (p, e) :: setIn place entry rest

/-- The disk with an entry at a place. -/
def set (d : Disk) (place : DiskPlace) (entry : DiskEntry) : Disk :=
  ⟨setIn place entry d.entries⟩

/-- The disk without what is at a place. -/
def remove (d : Disk) (place : DiskPlace) : Disk :=
  ⟨d.entries.filter fun (p, _) => p != place⟩

/-- A place under the working directory. -/
def isInside (place : DiskPlace) : Bool := place.head? != some "/" && place.head? != some ".."

/-- The places of all files under the working directory, in the order of their paths. -/
def files (d : Disk) : List String :=
  (d.entries.filterMap fun
    | (place, .file _) => if isInside place then some (Text.joined "/" place) else none
    | (_, .directory) => none).mergeSort fun a b => decide (a ≤ b)

-- ====================================================== walking

/-- The bytes of a name at most. -/
def maxNameBytes : Nat := 255

/-- The name has too many bytes. -/
def isTooLong (name : String) : Bool := decide (maxNameBytes < name.utf8ByteSize)

/-- The place that the parts of a path lead to from `here`. -/
def walk (d : Disk) (here : DiskPlace) : List String → Except FileError DiskPlace
  | [] => .ok here
  | part :: rest =>
    match d.get? here with
    | none => .error .notFound
    | some (.file _) => .error .notDirectory
    | some .directory =>
      if part = ".." then walk d (around here) rest
      else if isTooLong part then .error .nameTooLong
      else
        match d.get? (here ++ [part]) with
        | none => .error .notFound
        | some _ => walk d (here ++ [part]) rest

/-- The place a path starts from. -/
def startOf (p : DiskPath) : DiskPlace := if p.isAbsolute then ["/"] else []

/-- The place of a path. -/
def place (d : Disk) (p : DiskPath) : Except Fault DiskPlace :=
  match p.flaw? with
  | some f => .error f
  | none => (d.walk (startOf p) p.parts).mapError .file

/-- What a path leads to. -/
def find (d : Disk) (p : DiskPath) : Except Fault DiskEntry := do
  match d.get? (← d.place p) with
  | some entry => return entry
  | none => throw (.file .notFound)

/-- The path leads to a file. Of what the system refuses only a name that is too long is an
error. -/
def isFile (d : Disk) (p : DiskPath) : Except Fault Bool :=
  match d.find p with
  | .ok (.file _) => .ok true
  | .error (.file .nameTooLong) => .error (.file .nameTooLong)
  | _ => .ok false

-- ====================================================== reading

/-- The bytes of a file. -/
def readBytes (d : Disk) (p : DiskPath) : Except Fault ByteArray := do
  match ← d.find p with
  | .file bytes => return bytes
  | .directory => throw (.file .isDirectory)

/-- The text of a file as it is. -/
def readRaw (d : Disk) (p : DiskPath) : Except Fault String := do
  match String.fromUTF8? (← d.readBytes p) with
  | some s => return s
  | none => throw .undecodable

/-- The text of a file, with its line ends unified. -/
def readText (d : Disk) (p : DiskPath) : Except Fault String := do
  return String.ofList (Text.unifyLineEnds (← d.readRaw p).toList)

-- ====================================================== directories

/-- The directories that parts lead through from `here`, made where they are missing, and the
place of the last one. A file in the way is left alone, and so is what comes after a directory that
the system refuses to make. -/
def makeFrom (refusal : DiskPlace → Option FileError) (d : Disk) (here : DiskPlace) :
    List String → Disk × Except FileError DiskPlace
  | [] => (d, .ok here)
  | part :: rest =>
    if part = ".." then makeFrom refusal d (around here) rest
    else if isTooLong part then (d, .error .nameTooLong)
    else
      match d.get? (here ++ [part]) with
      | some .directory => makeFrom refusal d (here ++ [part]) rest
      | some (.file _) =>
        (d, .error (if rest.isEmpty then .alreadyThere else .notDirectory))
      | none =>
        match refusal (here ++ [part]) with
        | some e => (d, .error e)
        | none => makeFrom refusal (d.set (here ++ [part]) .directory) (here ++ [part]) rest

/-- The directory of a path, made with all around it where they are missing, up to one that the
system refuses to make. -/
def makeAllowed (refusal : DiskPlace → Option FileError) (d : Disk) (p : DiskPath) :
    Disk × Except Fault DiskPlace :=
  match p.flaw? with
  | some f => (d, .error f)
  | none =>
    let (d, made) := d.makeFrom refusal (startOf p) p.parts
    (d, made.mapError .file)

/-- The directory of a path, made with all around it where they are missing. -/
def makeDirectories (d : Disk) (p : DiskPath) : Disk × Except Fault DiskPlace :=
  d.makeAllowed (fun _ => none) p

end Disk

end ApiCommands
