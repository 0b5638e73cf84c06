/-
Writing a file all at once.

The text goes to a scratch file beside the target, which then takes the target's
name; so at every moment the target holds its old content or the new one. The
system may refuse any step, and a text without bytes cannot be written. A scratch
file that did not become the target is closed and discarded; it stays only if the
system refuses one of these.
-/
import ApiCommands.Storage.Disk

namespace ApiCommands

/-- The steps of writing a file. -/
inductive WriteStep where
  /-- A missing directory made at its place. -/
  | makeDirectory (place : DiskPlace)
  | createScratch
  | write
  | flush
  | synchronize
  /-- The scratch file closed, after it was filled or when that failed. -/
  | close
  | rename
  /-- The scratch file taken away after a failure. -/
  | discard
  deriving DecidableEq, Repr

/-- The steps that the system refuses, with its reasons. -/
abbrev Trouble := WriteStep → Option FileError

/-- A system that refuses nothing. -/
def Trouble.none : Trouble := fun _ => Option.none

namespace Disk

/-- A number with eight digits at least. -/
def eightDigits (n : Nat) : String :=
  let digits := toString n
  String.ofList (List.replicate (8 - digits.length) '0') ++ digits

/-- The name of the `n`-th scratch file for a target. -/
def scratchName (name : String) (n : Nat) : String := "." ++ name ++ "." ++ eightDigits n ++ ".tmp"

/-- A name for a scratch file that nothing has. Among one more names than there are entries, one
is free. -/
def scratchPlace (d : Disk) (directory : DiskPlace) (name : String) : DiskPlace :=
  let places := (List.range (d.entries.length + 1)).map fun n =>
    directory ++ [scratchName name n]
  (places.find? fun place => (d.entries.lookup place).isNone).getD (directory ++ [name ++ ".tmp"])

/-- Why there can be no scratch file for a target. -/
def scratchFlaw? (directory : DiskPath) (name : String) : Option Fault :=
  let scratch := scratchName name 0
  if isTooLong scratch then some (.file .nameTooLong) else (directory.child scratch).flaw?

/-- The file at `source` under a name in a directory. A directory is not replaced. -/
def moveOver (d : Disk) (source directory : DiskPlace) (name : String) :
    Except FileError Disk :=
  if name = "" ∨ name = ".." then .error .busy
  else
    match d.get? source, d.get? (directory ++ [name]) with
    | _, some .directory => .error .isDirectory
    | some entry, _ => .ok ((d.remove source).set (directory ++ [name]) entry)
    | none, _ => .error .notFound

/-- A text put into the open scratch file, by the steps before it is closed. -/
def fill (trouble : Trouble) (text : String) : Except Fault Unit :=
  if Text.hasBytes text.toList then
    match [WriteStep.write, .flush, .synchronize].findSome? trouble with
    | some e => .error (.file e)
    | none => .ok ()
  else .error .unencodable

/-- The disk without a scratch file, if the system lets it go. A refusal is not told. -/
def discard (trouble : Trouble) (d : Disk) (scratch : DiskPlace) : Disk :=
  if (trouble .discard).isSome then d else d.remove scratch

/-- A text written to a file in a directory by way of a scratch file beside it. Where the scratch
file could not be filled, it is closed all the same, and nothing more happens if that is refused.
How much of the text such a file has got is left open: it is given all of it. -/
def replaceBy (trouble : Trouble) (d : Disk) (directory : DiskPlace) (name text : String) :
    Disk × Except Fault Unit :=
  let scratch := d.scratchPlace directory name
  let filled := d.set scratch (.file text.toUTF8)
  match fill trouble text, trouble .close with
  | .error _, some e => (filled, .error (.file e))
  | .error f, none => (filled.discard trouble scratch, .error f)
  | .ok _, some e => (filled.discard trouble scratch, .error (.file e))
  | .ok _, none =>
    match trouble .rename with
    | some e => (filled.discard trouble scratch, .error (.file e))
    | none =>
      match filled.moveOver scratch directory name with
      | .ok done => (done, .ok ())
      | .error e => (filled.discard trouble scratch, .error (.file e))

/-- A text written to the file of a path, with the directories around it. -/
def atomicWrite (trouble : Trouble) (d : Disk) (p : DiskPath) (text : String) :
    Disk × Except Fault Unit :=
  match d.makeAllowed (fun place => trouble (.makeDirectory place)) p.parent with
  | (d, .error f) => (d, .error f)
  | (d, .ok directory) =>
    match trouble .createScratch, scratchFlaw? p.parent p.name with
    | some e, _ => (d, .error (.file e))
    | none, some f => (d, .error f)
    | none, none => d.replaceBy trouble directory p.name text

end Disk

end ApiCommands
