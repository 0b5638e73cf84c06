/-
The catalog: an API whose schemas have class names, and the types of its schema
nodes.

A reference to an object schema is typed by its class; another schema is typed
by what it says, and a reference to one by what stands there. A chain of
references comes to an end because each is followed once: the first component
of the measure is the number of references that may still be followed, the
second the size of the node. Types are best effort: a reference that leads
nowhere is typed as anything.
-/
import ApiCommands.Artifact.Model.Field
import ApiCommands.Artifact.Model.Names
import ApiCommands.Naming.Taken
import ApiCommands.Schema.Composition

namespace ApiCommands

/-- An API with the class names of its schemas, and the attributes that every model has. -/
structure Catalog where
  attributes : List String
  tables : Tables
  api : Api
  classNames : List (Scalar × String)

namespace Catalog

/-- The schemas of an API with a class name for each, in order; no two are the same, and none is
the name of an import. -/
def ofApi (attributes : List String) (t : Tables) (a : Api) : Except Fault Catalog := do
  let keys := a.schemas.map (·.1)
  let bases ← keys.mapM (ModelNames.classBase t)
  let names := (Taken.ofList ModelNames.imports).claimAll (bases.map (Candidates.numbered · ""))
  return ⟨attributes, t, a, keys.zip names⟩

/-- The class of the schema that a reference names, and the schema. -/
def target? (c : Catalog) (ref : String) : Option (String × Value) := do
  let name ← Api.refName? ref
  let (_, className) ← c.classNames.find? fun (key, _) => key.sameKey (.text name)
  return (className, (c.api.schemas.find? (.text name)).getD .null)

/-- The schema describes an object: by its type, or else by having properties or parts. -/
def isObject (schema : Value) : Bool :=
  match schema.type? with
  | some type => type == "object"
  | none => schema.properties?.isSome || schema.parts?.isSome

/-- A type that may be missing, if the schema is marked so. -/
def markNullable (schema : Value) (type : String) : String :=
  if schema.isMarkedNullable && type != TypeText.any then TypeText.optional type else type

/-- The type of a text in the schema's format. -/
def textType (schema : Value) : Except Fault String :=
  match schema.get? "format" with
  | some (.text format) => .ok (TypeText.ofFormat format)
  | some (.list _) => .error .notKey
  | some (.map _) => .error .notKey
  | _ => .ok (TypeText.ofFormat "")

/-- The type of a schema that says what it is by itself; `none` for a list or an object. -/
def plainType (schema : Value) : Except Fault (Option String) :=
  match schema.type? with
  | some "string" => (textType schema).map some
  | some "integer" => .ok (some "int")
  | some "number" =>
    .ok (some (if schema.text? "format" = some "decimal" then "decimal.Decimal" else "float"))
  | some "boolean" => .ok (some "bool")
  | some "array" => .ok none
  | some "object" => .ok none
  | _ =>
    if schema.properties?.isSome then .ok none
    else if schema.has "enum" then .ok (some "str")
    else .ok (some TypeText.any)

/-- A type or, if the schema may be null, nothing. -/
def withNull (schema : Value) (type : String) : String :=
  if schema.isNullable && type != TypeText.any then TypeText.optional type else type

/-- The type of a schema. A schema that is no object is followed through `fresh` references. -/
def typeWith (c : Catalog) (fresh : List String) (schema : Value) : Noted String :=
  if !schema.isMap then pure TypeText.any
  else match schema.ref? with
  | some ref =>
    match c.target? ref with
    | none => do
      Noted.note (.untypedReference ref)
      return TypeText.any
    | some (className, target) =>
      if isObject target then pure className
      else if h : ref ∈ fresh then
        have := Api.length_erase_lt h
        c.typeWith (fresh.erase ref) target
      else pure TypeText.any
  | none =>
    match h : schema.parts? with
    | some [part] => do
      have := Value.sizeOf_parts?_lt h
      return markNullable schema (← c.typeWith fresh part)
    | some _ => pure (markNullable schema (TypeText.mapOf TypeText.any))
    | none =>
      if schema.has "oneOf" || schema.has "anyOf" then pure TypeText.any
      else match plainType schema with
        | .error fault => Noted.fail (.fault fault)
        | .ok (some type) => pure (withNull schema type)
        | .ok none =>
          if schema.type? = some "array" then
            match h : schema.get? "items" with
            | some items => do
              have := Value.sizeOf_get?_lt h
              return withNull schema (TypeText.listOf (← c.typeWith fresh items))
            | none => pure (withNull schema (TypeText.listOf TypeText.any))
          else
            match h : schema.get? "additionalProperties" with
            | some extra =>
              if extra.isMap then do
                have := Value.sizeOf_get?_lt h
                return withNull schema (TypeText.mapOf (← c.typeWith fresh extra))
              else pure (withNull schema (TypeText.mapOf TypeText.any))
            | none => pure (withNull schema (TypeText.mapOf TypeText.any))
termination_by (fresh.length, sizeOf schema)
decreasing_by
  · exact Prod.Lex.left _ _ this
  · apply Prod.Lex.right
    simp only [List.cons.sizeOf_spec] at this
    omega
  · exact Prod.Lex.right _ this
  · exact Prod.Lex.right _ this

/-- The type of a schema. -/
def typeOf (c : Catalog) (schema : Value) (seen : List String := []) : Noted String :=
  c.typeWith (c.api.fresh seen schema) schema

end Catalog

end ApiCommands
