/-
API documents and their references.

A reference is a text under `$ref`. One that starts with `#/` points into the
document; any other points elsewhere and leads nowhere here. Following
references is best effort: what leads nowhere is noted and gives no node.

References may run in circles. Whoever follows them carries the list of those
still fresh, follows fresh ones only, and strikes out each one followed. An
`Api` knows all references of its document, so the walk is bounded by their
number, and inside the document a reference is fresh exactly if it has not been
followed on the way.
-/
import ApiCommands.Outcome.Note
import ApiCommands.Schema.Pointer

namespace ApiCommands

namespace Value

/-- The reference of a node, if it is one. -/
def ref? (node : Value) : Option String := node.text? "$ref"

mutual

/-- All references in a value. -/
def references : Value → List String
  | scalar _ => []
  | list items => itemReferences items
  | map entries => entryReferences entries

/-- All references in the items of a list. -/
def itemReferences : List Value → List String
  | [] => []
  | v :: rest => v.references ++ itemReferences rest

/-- All references in the entries of a mapping. -/
def entryReferences : List (Scalar × Value) → List String
  | [] => []
  | (k, v) :: rest =>
    (match k, v with
      | .text "$ref", .text ref => [ref]
      | _, _ => []) ++ v.references ++ entryReferences rest

end

end Value

/-- A document with the list of its references. -/
structure Api where
  document : Value
  references : List String
  references_eq : references = document.references.eraseDups

namespace Api

/-- The API a document describes. -/
def ofDocument (document : Value) : Api := ⟨document, document.references.eraseDups, rfl⟩

/-- The schemas of the document by name, in its order. -/
def schemas (a : Api) : Entries :=
  match a.document.get? "components" with
  | some components =>
    match components.get? "schemas" with
    | some (.map entries) => entries
    | _ => []
  | none => []

/-- Where references to schemas start. -/
def schemaRefStart : String := "#/components/schemas/"

/-- The name of the schema a reference is to. -/
def refName? (ref : String) : Option String :=
  match Text.dropPrefix? schemaRefStart.toList ref.toList with
  | none => none
  | some written =>
    let name := Pointer.unescape written
    if name.isEmpty then none else some (String.ofList name)

/-- The node a reference leads to, if there is one. -/
def resolve (a : Api) (ref : String) : Noted (Option Value) :=
  match Text.dropPrefix? ['#', '/'] ref.toList with
  | none => do
    Noted.note (.externalReference ref)
    return none
  | some written =>
    match Pointer.follow (Pointer.segments written) a.document with
    | .error fault => Noted.fail (.fault fault)
    | .ok (some node) => pure (some node)
    | .ok none => do
      Noted.note (.danglingReference ref)
      return none

-- ====================================================== fresh references

/-- The references that a walk from `node` may meet, but for those `seen`. -/
def fresh (a : Api) (seen : List String) (node : Value) : List String :=
  let foreign := (node.references.filter (!a.references.contains ·)).eraseDups
  (foreign ++ a.references).filter (!seen.contains ·)

/-- A mapping reached by following a fresh reference, with those that are fresh after it. -/
structure Followed (fresh : List String) where
  target : Value
  remaining : List String
  fewer : remaining.length < fresh.length

/-- Striking a reference out of a list that has it shortens the list. -/
theorem length_erase_lt {refs : List String} {ref : String} (h : ref ∈ refs) :
    (refs.erase ref).length < refs.length := by
  have := List.length_erase_of_mem h
  have := List.length_pos_of_mem h
  omega

/-- The mapping that the reference of a node leads to, if the reference is fresh. -/
def follow? (a : Api) (fresh : List String) (node : Value) : Noted (Option (Followed fresh)) :=
  match node.ref? with
  | none => pure none
  | some ref =>
    if h : ref ∈ fresh then do
      match ← a.resolve ref with
      | some (.map entries) => return some ⟨.map entries, fresh.erase ref, length_erase_lt h⟩
      | _ => return none
    else pure none

/-- The mapping at the end of a chain of references. -/
def derefWith (a : Api) (fresh : List String) (node : Value) : Noted (Option Value) :=
  match node.ref? with
  | none => pure (if node.isMap then some node else none)
  | some ref =>
    if h : ref ∈ fresh then do
      have := length_erase_lt h
      match ← a.resolve ref with
      | some target => a.derefWith (fresh.erase ref) target
      | none => return none
    else pure none
termination_by fresh.length

/-- The mapping a node is or leads to. Nothing for another node, for a chain that leads nowhere,
and for one that runs in a circle or through a reference that counts as `seen`. -/
def deref (a : Api) (node : Value) (seen : List String := []) : Noted (Option Value) :=
  a.derefWith (a.fresh seen node) node

end Api

end ApiCommands
