/-
The command tree: domains, branches, commands, each in its order.

`CommandTree.ofCommands` refuses commands whose tag no table places. It puts
every tag into one branch, sorts the commands of a branch by name, branches by
their key and tag, and domains by the order of the tables; the domain of
authentication stands apart from the others.
-/
import ApiCommands.Naming.Grouping
import ApiCommands.Outcome.Note
import ApiCommands.Spec.Operation
import ApiCommands.Tree.Placement

namespace ApiCommands

/-- The commands of one tag, in its place. -/
structure Branch where
  placement : Placement
  commands : List Command
  deriving DecidableEq, Repr

/-- A domain with its branches. -/
structure DomainNode where
  domain : Domain
  description : String
  branches : List Branch
  deriving DecidableEq, Repr

namespace DomainNode

/-- The commands that attach to the domain itself. -/
def rootCommands (n : DomainNode) : List Command :=
  (n.branches.filter (·.placement.isRoot)).flatMap (·.commands)

/-- The branches below the domain. -/
def subBranches (n : DomainNode) : List Branch := n.branches.filter (!·.placement.isRoot)

end DomainNode

/-- The whole tree; `auth` is registered apart from `domains`. -/
structure CommandTree where
  domains : List DomainNode
  auth : Option DomainNode
  deriving DecidableEq, Repr

namespace CommandTree

/-- The tree without commands. -/
def empty : CommandTree := ⟨[], none⟩

/-- All domains, that of authentication last. -/
def nodes (t : CommandTree) : List DomainNode := t.domains ++ t.auth.toList

/-- All commands with their place, in order. -/
def rows (t : CommandTree) : List (DomainNode × Branch × Command) :=
  t.nodes.flatMap fun n => n.branches.flatMap fun b => b.commands.map fun c => (n, b, c)

/-- The tags no table places, in order, with the ids of their operations. -/
def unmapped (t : Tables) (commands : List Command) : List (String × List String) :=
  let lost := commands.filter fun c => t.domainOf c.tag == .unmapped
  ((grouped Command.tag lost).map fun (tag, cs) => (tag, cs.map (·.operation.id))).mergeSort
    fun a b => decide (a.1 ≤ b.1)

/-- The branch of one tag's commands. -/
def branchOf (t : Tables) (tag : String) (commands : List Command) : Except Fault Branch := do
  return ⟨← t.place tag, commands.mergeSort fun a b => decide (a.name ≤ b.name)⟩

/-- One branch for every tag. -/
def branches (t : Tables) (commands : List Command) : Except Fault (List Branch) :=
  (grouped Command.tag commands).mapM fun (tag, cs) => branchOf t tag cs

/-- The order of branches inside a domain. -/
def branchLe (a b : Branch) : Bool :=
  pairLe (a.placement.sortKey, a.placement.tag) (b.placement.sortKey, b.placement.tag)

/-- The order of domains. -/
def domainLe (t : Tables) (a b : Domain) : Bool :=
  let (i, m) := t.sortKey a
  let (j, n) := t.sortKey b
  decide (i < j) || (i == j && decide (m ≤ n))

/-- The node of one domain's branches. -/
def nodeOf (t : Tables) (domain : Domain) (branches : List Branch) : DomainNode :=
  ⟨domain, t.describe domain, branches.mergeSort branchLe⟩

/-- The nodes of all domains that have branches, in order. -/
def sortedNodes (t : Tables) (branches : List Branch) : List DomainNode :=
  ((grouped (·.placement.domain) branches).mergeSort
    fun a b => domainLe t a.1 b.1).map fun (domain, bs) => nodeOf t domain bs

/-- The tree of branches. -/
def arrange (t : Tables) (branches : List Branch) : CommandTree :=
  let nodes := sortedNodes t branches
  ⟨nodes.filter (·.domain != t.authDomain), nodes.find? (·.domain == t.authDomain)⟩

/-- Notes on tags of one domain that share a branch name: each with the first tag that has it. -/
def sharedBranchNotes (domain : Domain) : (seen : List (String × String)) → List Branch → List Note
  | _, [] => []
  | seen, b :: rest =>
    match b.placement.branch with
    | none => sharedBranchNotes domain seen rest
    | some name =>
      match seen.lookup name with
      | some first =>
        .sharedBranch first b.placement.tag name domain.name :: sharedBranchNotes domain seen rest
      | none => sharedBranchNotes domain ((name, b.placement.tag) :: seen) rest

/-- The tree of a list of commands. -/
def ofCommands (t : Tables) (commands : List Command) : Noted CommandTree :=
  match unmapped t commands with
  | [] => do
    let branches ← Noted.ofFault (branches t commands)
    Noted.noteAll ((sortedNodes t branches).flatMap fun n =>
      sharedBranchNotes n.domain [] n.branches)
    pure (arrange t branches)
  | lost => Noted.fail (.unmappedTags lost)

end CommandTree

end ApiCommands
