/-
The properties at the top of a request body.

A reference is followed and the properties of all parts of a composition are
collected. Of two properties whose names differ at most in case the later one
stays, at its own place. A schema of another type than `object` has none.
-/
import ApiCommands.Schema.Kind
import ApiCommands.Text.LetterCase

namespace ApiCommands

namespace Value

/-- What there is to go through in a value: the items of a list, the characters of a text, the
keys of a mapping, and nothing in an empty or missing value. -/
def elements : Value → Except Fault (List Value)
  | list items => .ok items
  | text s => .ok (s.toList.map fun c => text (String.ofList [c]))
  | map entries => .ok (entries.map fun (k, _) => scalar k)
  | scalar (.bytes bs) => .ok (bs.map fun b => int b.toNat)
  | v => if v.isTruthy then .error .notIterable else .ok []

/-- The values under `required`. -/
def requiredElements (schema : Value) : Except Fault (List Value) :=
  match schema.get? "required" with
  | some v => v.elements
  | none => .ok []

/-- The names a schema requires. -/
def requiredNames (schema : Value) : Except Fault (List String) :=
  schema.requiredElements.map typeNames

/-- The properties of a schema, if it has a mapping of them. -/
def properties? (schema : Value) : Option Entries :=
  match schema.get? "properties" with
  | some (map entries) => some entries
  | _ => none

end Value

/-- The property takes the place of those with its name; it stands last. -/
def BodyProperty.override (properties : List BodyProperty) (p : BodyProperty) :
    List BodyProperty :=
  properties.filter (fun q => Text.lowered q.name != Text.lowered p.name) ++ [p]

namespace Api

/-- The body properties of declared ones, whose required names are given in lower case. -/
def ownFields (a : Api) (fresh : List String) (required : List String) :
    Entries → Noted (List BodyProperty)
  | [] => pure []
  | (key, schema) :: rest => do
    let kind ← a.kindWith fresh schema
    match key with
    | .text name =>
      return ⟨name, kind, required.contains (Text.lowered name)⟩
        :: (← a.ownFields fresh required rest)
    | _ => Noted.fail (.fault .notText)

/-- The properties a schema declares itself. -/
def declaredFields (a : Api) (fresh : List String) (schema : Value) :
    Noted (List BodyProperty) :=
  if schema.type?.any (· != "object") then pure []
  else match schema.properties? with
    | none => pure []
    | some properties =>
      match schema.requiredNames with
      | .error fault => Noted.fail (.fault fault)
      | .ok required => a.ownFields fresh (required.map Text.lowered) properties

mutual

/-- The properties of a body schema, with the references that are fresh. -/
def bodyFieldsWith (a : Api) (fresh : List String) (schema : Value) :
    Noted (List BodyProperty) := do
  match ← a.follow? fresh schema with
  | some next =>
    have := next.fewer
    a.bodyFieldsWith next.remaining next.target
  | none =>
    match h : schema.parts? with
    | none => a.declaredFields fresh schema
    | some parts =>
      have := Value.sizeOf_parts?_lt h
      return (← a.partFieldsWith fresh parts).foldl BodyProperty.override []
termination_by (fresh.length, sizeOf schema)

/-- The properties of all parts, in a row. -/
def partFieldsWith (a : Api) (fresh : List String) (parts : List Value) :
    Noted (List BodyProperty) :=
  match parts with
  | [] => pure []
  | part :: rest => do
    let fields ← a.bodyFieldsWith fresh part
    return fields ++ (← a.partFieldsWith fresh rest)
termination_by (fresh.length, sizeOf parts)

end

/-- The properties of a body schema. -/
def bodyFields (a : Api) (schema : Value) (seen : List String := []) :
    Noted (List BodyProperty) :=
  a.bodyFieldsWith (a.fresh seen schema) schema

end Api

end ApiCommands
