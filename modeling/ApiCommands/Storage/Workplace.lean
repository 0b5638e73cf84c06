/-
Workplaces: the disk as somebody at a command line sees it.

A path may start at a home directory: `~` is one's own, and `~name` is that of
the user of this name.
-/
import ApiCommands.Storage.Disk

namespace ApiCommands

/-- Where the files of a command are found. -/
structure Workplace where
  disk : Disk
  home : DiskPath
  /-- The home directories of all users. -/
  users : List (String × DiskPath)

namespace Workplace

/-- The home directory that the first part of a path asks for; none if it does not ask for one. -/
def homeOf? (w : Workplace) (part : String) : Except Fault (Option DiskPath) :=
  match part.toList with
  | ['~'] => .ok (some w.home)
  | '~' :: name =>
    match w.users.lookup (String.ofList name) with
    | some home => .ok (some home)
    | none => .error .unknownUser
  | _ => .ok none

/-- A written path with the home directory it starts in. -/
def path (w : Workplace) (s : String) : Except Fault DiskPath := do
  let p := DiskPath.ofString s
  match p.isAbsolute, p.parts with
  | false, part :: rest =>
    match ← w.homeOf? part with
    | some home => return { home with parts := home.parts ++ rest }
    | none => return p
  | _, _ => return p

end Workplace

end ApiCommands
