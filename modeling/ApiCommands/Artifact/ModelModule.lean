/-
The model module: a data model for every schema.

An object schema becomes a model with a field for each of its properties, those
of its parts included. Another schema becomes a model with the single field
`value`.
-/
import ApiCommands.Artifact.DocText
import ApiCommands.Artifact.Model.Catalog

namespace ApiCommands

-- ====================================================== models

namespace Catalog

/-- The text of a description; a value that is there and is no text is refused. -/
def descriptionText (schema : Value) : Except Fault (Option String) :=
  match schema.get? "description" with
  | some (.text s) => .ok (some s)
  | some v => if v.isTruthy then .error .notText else .ok none
  | none => .ok none

/-- The wire names of properties; one that is no text is refused. -/
def wireName : Scalar → Except Fault String
  | .text name => .ok name
  | _ => .error .notText

/-- The fields of properties, in order. -/
def fieldsOf (c : Catalog) (required : List String) (taken : Taken) :
    Entries → Noted (List ModelField)
  | [] => pure []
  | (key, schema) :: rest =>
    match wireName key with
    | .error fault => Noted.fail (.fault fault)
    | .ok wire => do
      let (name, taken) :=
        taken.claim (.numbered (ModelNames.fieldBase c.attributes c.tables wire) "_")
      let type ← c.typeOf schema
      return ⟨name, wire, type, required.contains wire⟩ :: (← c.fieldsOf required taken rest)

/-- The fields of an object schema. -/
def objectFields (c : Catalog) (schema : Value) : Noted (List ModelField) := do
  let whole ← c.api.merged schema
  match whole.properties? with
  | none => return []
  | some properties =>
    match whole.requiredNames with
    | .error fault => Noted.fail (.fault fault)
    | .ok required => c.fieldsOf required .empty properties

/-- The single field of the schema of a name, if it is no object. -/
def valueField (c : Catalog) (name : String) (schema : Value) : Noted (List ModelField) := do
  let type ← c.typeOf schema [Api.schemaRefStart ++ name]
  return [⟨"value", "value", type, true⟩]

/-- The model of a schema. -/
def modelOf (c : Catalog) (key : Scalar) (node : Value) (className : String) :
    Noted DataModel := do
  let schema := (← c.api.deref node).getD (.map [])
  let name ← Noted.ofFault key.display
  let text ← Noted.ofFault (descriptionText schema)
  let isObject := isObject schema
  let fields ← if isObject then c.objectFields schema else c.valueField name schema
  return {
    className := className
    schemaName := key
    description := DocText.summary text ("Schema \x60\x60" ++ name ++ "\x60\x60.")
    fields := fields
    isWrapper := !isObject }

/-- The models of schemas with their class names. -/
def modelsOf (c : Catalog) : List ((Scalar × Value) × String) → Noted (List DataModel)
  | [] => pure []
  | ((key, node), className) :: rest => do
    let model ← c.modelOf key node className
    return model :: (← c.modelsOf rest)

/-- A model for every schema, in order. -/
def models (c : Catalog) : Noted (List DataModel) :=
  c.modelsOf (c.api.schemas.zip (c.classNames.map (·.2)))

end Catalog

-- ====================================================== the module

/-- The lines of a model. -/
def DataModel.lines (m : DataModel) : List String :=
  ["", "",
    "class " ++ m.className ++ "(pydantic.BaseModel):",
    DocText.quotedLine "    " m.description,
    "",
    "    model_config = pydantic.ConfigDict(populate_by_name=True, extra=\"allow\", "
      ++ "protected_namespaces=())"]
  ++ if m.fields.isEmpty then [] else "" :: m.fields.map fun f => "    " ++ f.declaration

/-- The model module. -/
def modelModule (models : List DataModel) : String :=
  Text.unlines (
    ["\"\"\"Data transfer objects for the API schemas.",
      "",
      "Generated by awkgen; regenerate instead of editing by hand.",
      "\"\"\"",
      "",
      "from __future__ import annotations",
      "",
      "import datetime",
      "import decimal",
      "import typing",
      "import uuid",
      "",
      "import pydantic",
      "",
      "__all__ = ["]
    ++ models.map (fun m => "    " ++ Text.quoted m.className ++ ",")
    ++ ["]"]
    ++ models.flatMap (·.lines)
    ++ if models.isEmpty then [] else
      ["", ""] ++ models.map fun m => m.className ++ ".model_rebuild()")

end ApiCommands
