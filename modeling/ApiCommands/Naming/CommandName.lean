/-
Command names.

The base name of an operation comes from the rules, or from its id where no
rule gives one. Within a tag names are unique. Operations that share a base name
all take their parent's name in front; what still clashes tries, in this order,
the plain name, the parent's name in front, the method behind, the id behind,
and numbers. All these are made of words that are split into fragments, and where
that goes on for ever there is no name.
-/
import ApiCommands.Naming.Grouping
import ApiCommands.Naming.MethodName
import ApiCommands.Naming.Rule
import ApiCommands.Naming.Slug

namespace ApiCommands

/-- A table of rules over a vocabulary. -/
structure Namer where
  tables : Tables
  rules : List Rule := Rule.standard

/-- The name of an operation that nothing names. -/
def fallbackCommandName : String := "command"

/-- An operation id without the name of its tag in front, be it in the plural or in the
singular. -/
def Tables.withoutTag (t : Tables) (id tag : String) : String :=
  if Text.isBlank id.toList || Text.isBlank tag.toList then id
  else
    let plural := (t.pascal tag).toList
    let singular := if ['s'].isSuffixOf plural then dropEnd 1 plural else plural
    let rest := (Text.dropPrefix? plural id.toList).orElse fun _ =>
      Text.dropPrefix? singular id.toList
    (rest.map String.ofList).getD id

/-- A name from the operation id, without its verb and its tag. -/
def Tables.idName (t : Tables) (op : Operation) : Except Fault String :=
  let trimmed := t.withoutTag (withoutVerb op.id) op.tag
  if Text.isBlank trimmed.toList then t.kebab op.id else t.kebab trimmed

namespace Namer

/-- The name a rule gives and the name of the rule, if one applies and gives any. -/
def ruleName? (n : Namer) (collections : List String) (op : Operation) :
    Except Fault (Option (String × String)) :=
  Rule.nameOf? n.rules <$> n.tables.shape collections op

/-- The name of an operation by its id alone. -/
def fallbackName (n : Namer) (op : Operation) : Except Fault String := do
  let name := slug (← n.tables.idName op)
  return if name = "" then fallbackCommandName else name

/-- The name of an operation before clashes are looked at. -/
def baseName (n : Namer) (collections : List String) (op : Operation) : Except Fault String := do
  match ← n.ruleName? collections op with
  | some (name, _) => return name
  | none => n.fallbackName op

/-- A name behind that of the parent, the literal before the last; none without a parent. -/
def parentPrefixed? (n : Namer) (name : String) (op : Operation) :
    Except Fault (Option String) :=
  match (op.segments.filter (!PathTemplate.isParam ·)).dropLast.getLast? with
  | none => .ok none
  | some parent => do
    let prefixed := slug ((← n.tables.kebab parent) ++ "-" ++ name)
    return if prefixed = "" then none else some prefixed

/-- The operation id behind a name, without its verb. -/
def idSuffixed? (n : Namer) (name : String) (op : Operation) : Except Fault (Option String) := do
  let suffix := slug (← n.tables.kebab (withoutVerb op.id))
  return if suffix = "" then none else some (name ++ "-" ++ suffix)

/-- What is offered for a command name. A name that has its parent in front already is not given it
twice. -/
def commandOffers (n : Namer) (name : String) (op : Operation) (isPrefixed : Bool) :
    Offers Fault :=
  ⟨[.ok (some name), if isPrefixed then .ok none else n.parentPrefixed? name op,
      .ok (some (name ++ "-" ++ op.method.name)), n.idSuffixed? name op],
    name ++ "-"⟩

/-- The candidates for a command name, up to the first that cannot be made. -/
def commandCandidates (n : Namer) (name : String) (op : Operation) (isPrefixed : Bool) :
    Candidates :=
  (n.commandOffers name op isPrefixed).candidates

/-- The candidates for a handler name. -/
def handlerCandidates (n : Namer) (op : Operation) : Candidates :=
  n.tables.methodCandidates op.id op.path op.method

/-- What is offered to an operation in a group where `shared` says which base names occur more than
once. -/
def groupOffers (n : Namer) (shared : String → Bool) (op : Operation) (base : String) :
    Except Fault (Offers Fault) := do
  match ← (if shared base then n.parentPrefixed? base op else .ok none) with
  | some name => return n.commandOffers name op true
  | none => return n.commandOffers base op false

/-- The names of a group of operations with these base names, all different. -/
def resolveGroup (n : Namer) (ops : List Operation) (bases : List String) :
    Except Fault (List String) := do
  let shared (base : String) : Bool := decide (1 < bases.count base)
  let offers ← (ops.zip bases).mapM fun (op, base) => n.groupOffers shared op base
  Taken.empty.claimAllOffered offers

/-- The operations by tag, tags in order. -/
def tagGroups (ops : List Operation) : List (String × List Operation) :=
  (grouped (·.tag) ops).mergeSort fun a b =>
    pairLe (Text.lowered a.1, a.1) (Text.lowered b.1, b.1)

/-- The operations of a group with their command names. -/
def namedGroup (n : Namer) (collections : List String) (group : List Operation) :
    Except Fault (List (Operation × String)) := do
  let bases ← group.mapM (n.baseName collections)
  return group.zip (← n.resolveGroup group bases)

/-- The operations of each tag with their command names. -/
def namedGroups (n : Namer) (ops : List Operation) : Except Fault (List (Operation × String)) :=
  List.flatten <$> (tagGroups ops).mapM fun (_, group) => n.namedGroup (collectionPaths ops) group

/-- The commands of named operations. Their handler names are unique and avoid `reserved`. -/
def withHandlers (n : Namer) (named : List (Operation × String)) (reserved : List String) :
    List Command :=
  let handlers := (Taken.ofList reserved).claimAll (named.map fun (op, _) => n.handlerCandidates op)
  (named.zip handlers).map fun ((op, name), handler) => ⟨op, name, handler⟩

/-- A command for every operation. Handler names are unique over all of them and avoid
`reserved`. -/
def commands (n : Namer) (ops : List Operation) (reserved : List String) :
    Except Fault (List Command) := do
  return n.withHandlers (← n.namedGroups ops) reserved

end Namer

end ApiCommands
