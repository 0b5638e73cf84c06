/-
Compositions: a schema made of parts, as one schema.

The parts are merged from left to right, composed ones after merging their own
parts. Properties of later parts replace earlier ones in place, required names
are united, and what the schema says itself comes last. Parts that lead nowhere
are left out.

A composition may contain itself. The walk strikes out the reference by which
it enters a composed part; entering by the same reference twice on one way
means that the way never ends.
-/
import ApiCommands.Schema.BodyFields

namespace ApiCommands

/-- What the parts of a composition contribute. -/
structure Contribution where
  properties : Entries
  required : List String

namespace Contribution

/-- Nothing yet. -/
def empty : Contribution := ⟨[], []⟩

/-- A name required as well. -/
def require (names : List String) (name : String) : List String :=
  if names.contains name then names else names ++ [name]

/-- The contribution with the properties and required names of one more schema. -/
def absorb (c : Contribution) (schema : Value) : Except Fault Contribution := do
  let names ← schema.requiredNames
  return ⟨c.properties.insertAll (schema.properties?.getD []), names.foldl require c.required⟩

/-- The properties of a schema laid over others; a value that is no mapping is refused. -/
def ownProperties (base : Entries) (schema : Value) : Except Fault Entries :=
  match schema.get? "properties" with
  | some (.map own) => .ok (base.insertAll own)
  | some v => if v.isTruthy then .error .notMapping else .ok base
  | none => .ok base

/-- The required names of the parts, then what the schema requires itself. -/
def ownRequired (names : List String) (schema : Value) : Except Fault (List Value) := do
  let own ← schema.requiredElements
  return names.map Value.text ++ own.filter fun
    | .text s => !names.contains s
    | _ => true

/-- The entries of a composed schema in one piece, with what its parts contribute. -/
def close (c : Contribution) (entries : Entries) : Except Fault Entries := do
  let rest := entries.erase (.text "allOf")
  let typed := if (rest.find? (.text "type")).isSome then rest
    else rest ++ [(.text "type", .text "object")]
  let properties ← ownProperties c.properties (.map entries)
  let required ← ownRequired c.required (.map entries)
  return (typed.insert (.text "properties") (.map properties)).insert (.text "required")
    (.list required)

end Contribution

namespace Api

mutual

/-- A schema in one piece. Chains of references start with `start`, and composed parts are
entered through `fresh` references. -/
def mergedWith (a : Api) (start fresh : List String) (schema : Value) : Noted Value :=
  match h : schema.parts? with
  | none => pure schema
  | some parts => do
    have := Value.sizeOf_parts?_lt h
    let gathered ← a.gatherWith start fresh .empty parts
    match schema with
    | .map entries =>
      match gathered.close entries with
      | .ok whole => return .map whole
      | .error fault => Noted.fail (.fault fault)
    | _ => return schema
termination_by (fresh.length, sizeOf schema, 0)

/-- What parts contribute, one after the other. -/
def gatherWith (a : Api) (start fresh : List String) (gathered : Contribution)
    (parts : List Value) : Noted Contribution :=
  match parts with
  | [] => pure gathered
  | part :: rest => do
    match ← a.partWith start fresh part with
    | none => a.gatherWith start fresh gathered rest
    | some schema =>
      match gathered.absorb schema with
      | .error fault => Noted.fail (.fault fault)
      | .ok gathered => a.gatherWith start fresh gathered rest
termination_by (fresh.length, sizeOf parts, 0)

/-- A part in one piece. -/
def partWith (a : Api) (start fresh : List String) (part : Value) : Noted (Option Value) :=
  match part.ref? with
  | none => if part.isMap then some <$> a.mergedWith start fresh part else pure none
  | some ref => do
    match ← a.derefWith start part with
    | none => return none
    | some schema =>
      if schema.parts?.isNone then return some schema
      else if h : ref ∈ fresh then
        have := length_erase_lt h
        some <$> a.mergedWith start (fresh.erase ref) schema
      else Noted.fail (.fault .endlessComposition)
termination_by (fresh.length, sizeOf part, 1)

end

/-- A schema in one piece. -/
def merged (a : Api) (schema : Value) (seen : List String := []) : Noted Value :=
  a.mergedWith (a.fresh seen schema) (a.fresh [] schema) schema

end Api

end ApiCommands
