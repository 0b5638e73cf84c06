/-
Paths to files.

A path is the row of its parts; empty parts and parts that stand for the place
itself are dropped when it is read, `..` is kept. What is left is written with
single slashes, and a path without parts as `.`. Two slashes at the front, no more
and no less, stay two, for a system may give them a meaning.
-/
import ApiCommands.Outcome.Error
import ApiCommands.Text.LetterCase
import ApiCommands.Text.Pieces

namespace ApiCommands

/-- Where a path starts. -/
inductive PathStart where
  | workingDirectory
  | root
  /-- The root, written with two slashes. -/
  | doubleRoot
  deriving DecidableEq, Repr

namespace PathStart

/-- Where a written path starts. -/
def ofSlashes : List Char → PathStart
  | '/' :: '/' :: '/' :: _ => root
  | '/' :: '/' :: _ => doubleRoot
  | '/' :: _ => root
  | _ => workingDirectory

/-- The slashes at the front. -/
def text : PathStart → String
  | workingDirectory => ""
  | root => "/"
  | doubleRoot => "//"

end PathStart

/-- A path, from the root of all files or from the working directory. -/
structure DiskPath where
  start : PathStart
  parts : List String
  deriving DecidableEq, Repr

namespace DiskPath

/-- The parts of a written path. -/
def partsOf (s : String) : List String :=
  ((Text.partsOn '/' s.toList).map String.ofList).filter (· != ".")

/-- A path as it is written. -/
def ofString (s : String) : DiskPath := ⟨.ofSlashes s.toList, partsOf s⟩

/-- The path starts at the root of all files. -/
def isAbsolute (p : DiskPath) : Bool := p.start != .workingDirectory

/-- The text of a path. -/
def text (p : DiskPath) : String :=
  let written := p.start.text ++ Text.joined "/" p.parts
  if written = "" then "." else written

/-- The last part. -/
def name (p : DiskPath) : String := p.parts.getLast?.getD ""

/-- The path without its last part. -/
def parent (p : DiskPath) : DiskPath := { p with parts := p.parts.dropLast }

/-- A written path, seen from `p`. -/
def child (p : DiskPath) (s : String) : DiskPath :=
  let q := ofString s
  if q.isAbsolute then q else { p with parts := p.parts ++ q.parts }

/-- The last point of a name and what follows it, unless the point is at either end. -/
def suffixOf (name : List Char) : List Char :=
  let extension := (name.reverse.takeWhile (· != '.')).reverse
  let length := extension.length + 1
  if extension.isEmpty || decide (name.length ≤ length) then [] else '.' :: extension

/-- The suffix of a path in lower case. -/
def suffix (p : DiskPath) : String := Text.lowered (String.ofList (suffixOf p.name.toList))

/-- The bytes of a path at most. -/
def maxBytes : Nat := 4095

/-- Why no system can follow the path, wherever it leads. Whoever meets a path asks for its flaw
first, so it is not unfolded with them. -/
@[irreducible]
def flaw? (p : DiskPath) : Option Fault :=
  let text := p.text
  if !Text.hasBytes text.toList then some .unencodable
  else if text.contains (Char.ofNat 0) then some .nullInPath
  else if maxBytes < text.utf8ByteSize then some (.file .nameTooLong)
  else none

end DiskPath

end ApiCommands
