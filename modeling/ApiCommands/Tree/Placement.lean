/-
Placement: where a tag lands in the command tree.

A root tag attaches its commands to its domain. Any other tag gets a branch
named after what is left of it when the domain's own noun is taken away from its
front and its end; a table of fixed names goes first.
-/
import ApiCommands.Naming.Slug
import ApiCommands.Naming.Words

namespace ApiCommands

/-- The place of a tag: a domain, and a branch of it unless the tag is the domain's own. -/
structure Placement where
  tag : String
  domain : Domain
  branch : Option String
  deriving DecidableEq, Repr

namespace Placement

/-- The tag's commands attach to the domain itself. -/
def isRoot (p : Placement) : Bool := p.branch.isNone

/-- What branches are sorted by: the branch name, or else the tag, in lower case. -/
def sortKey (p : Placement) : String :=
  Text.lowered (match p.branch with
    | some b => if b = "" then p.tag else b
    | none => p.tag)

end Placement

namespace Tables

/-- `s` without `noun` in front and a blank after it, in any case. -/
def withoutFront (noun : List Char) (s : List Char) : List Char :=
  if noun ≠ [] ∧ (Text.lower noun).isPrefixOf (Text.lower s) then
    match s.drop noun.length with
    | ' ' :: rest => rest
    | rest => rest
  else s

/-- `s` without `noun` at the end, in any case. A noun that is longer than `s`, since a capital
can have two small letters, takes only what it has more. -/
def withoutBack (noun : List Char) (s : List Char) : List Char :=
  if noun ≠ [] ∧ (Text.lower noun).isSuffixOf (Text.lower s) then
    s.take (s.length -
      (if noun.length ≤ s.length then noun.length else noun.length - s.length))
  else s

/-- What is left of a tag without the nouns of its domain. -/
def ownPart (t : Tables) (tag : String) (domain : Domain) : List Char :=
  let front := ((t.domainPrefixes.lookup domain).getD "").toList
  let back := ((t.domainSuffixes.lookup domain).getD "").toList
  Text.trim (withoutBack back (withoutFront front tag.toList))

/-- The branch of a tag inside a domain; none for a root. -/
def branchIn (t : Tables) (tag : String) (domain : Domain) : Except Fault (Option String) :=
  if t.isRootTag tag then .ok none
  else match t.branchOf? tag with
    | some b => .ok (some b)
    | none =>
      match t.ownPart tag domain with
      | [] => .ok none
      | own => do
        let name := Slug.ofChars (← Words.kebab t own)
        return if name = [] then none else some (String.ofList name)

/-- The place of a tag. -/
def place (t : Tables) (tag : String) : Except Fault Placement := do
  let domain := t.domainOf tag
  return ⟨tag, domain, ← t.branchIn tag domain⟩

end Tables

end ApiCommands
