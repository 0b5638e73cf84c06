/-
Artifacts on the disk.

Artifacts are named texts. They are written one after the other, each all at
once, and compared with what is on the disk: an artifact is stale if its file is
missing or reads otherwise.
-/
import ApiCommands.Outcome.Note
import ApiCommands.Storage.AtomicWrite

namespace ApiCommands

/-- A named text. -/
structure Artifact where
  name : String
  text : String
  deriving DecidableEq, Repr

/-- What the system refuses while an artifact is written. -/
abbrev ArtifactTrouble := String → Trouble

/-- A system that refuses nothing. -/
def ArtifactTrouble.none : ArtifactTrouble := fun _ => Trouble.none

namespace Disk

/-- Artifacts written into a directory, up to the first that fails, with their paths. -/
def writeArtifacts (trouble : ArtifactTrouble) (directory : DiskPath) :
    Disk → List Artifact → Disk × Noted (List DiskPath)
  | d, [] => (d, pure [])
  | d, a :: rest =>
    let path := directory.child a.name
    match d.atomicWrite (trouble a.name) path a.text with
    | (d, .error f) => (d, Noted.fail (.fault f))
    | (d, .ok ()) =>
      let (d, more) := writeArtifacts trouble directory d rest
      (d, do
        Noted.note (.wrote path.text a.text.utf8ByteSize)
        return path :: (← more))

/-- The artifact's file is missing or reads otherwise. -/
def isStale (d : Disk) (directory : DiskPath) (a : Artifact) : Except Fault Bool :=
  match d.readText (directory.child a.name) with
  | .ok current => .ok (current != a.text)
  | .error (.file .notFound) => .ok true
  | .error f => .error f

/-- The names of stale artifacts. -/
def staleArtifacts (d : Disk) (directory : DiskPath) : List Artifact → Except Fault (List String)
  | [] => .ok []
  | a :: rest => do
    let stale ← d.isStale directory a
    let more ← d.staleArtifacts directory rest
    return if stale then a.name :: more else more

end Disk

end ApiCommands
