/-
Names of models and fields.

A class is named by the words of its schema, a field by the words of its
property. Neither starts with an underscore, and a field is no keyword, no
attribute of every model, and no name its type may need. Which attributes every
model has is for the library to say that the emitted source imports.
-/
import ApiCommands.Naming.Identifier
import ApiCommands.Naming.Words
import ApiCommands.Outcome.Error

namespace ApiCommands

namespace ModelNames

/-- Modules that the model module imports. -/
def imports : List String := ["datetime", "decimal", "typing", "uuid", "pydantic"]

/-- Types that need no import. -/
def builtinTypes : List String := ["bool", "bytes", "dict", "float", "int", "list", "str"]

/-- The attributes of every model in one release of the library. -/
def standardAttributes : List String :=
  ["construct", "copy", "dict", "from_orm", "json", "model_computed_fields", "model_config",
    "model_construct", "model_copy", "model_dump", "model_dump_json", "model_extra",
    "model_fields", "model_fields_set", "model_json_schema", "model_parametrized_name",
    "model_post_init", "model_rebuild", "model_validate", "model_validate_json",
    "model_validate_strings", "parse_file", "parse_obj", "parse_raw", "schema", "schema_json",
    "update_forward_refs", "validate"]

/-- Names no field may take, if every model has the attributes. -/
def reservedFields (attributes : List String) : List String :=
  attributes ++ imports ++ builtinTypes

/-- A class name that does not start with an underscore. -/
def guardUnderscore (name : String) : String :=
  if ['_'].isPrefixOf name.toList then
    "Model" ++ String.ofList (name.toList.dropWhile (· == '_'))
  else name

/-- The class name of a schema before clashes are looked at. A missing name counts as blank. -/
def classBase (t : Tables) : Scalar → Except Fault String
  | .text name => .ok (guardUnderscore (Identifier.ofString (t.pascal name)))
  | key =>
    if (Value.scalar key).isTruthy then .error .notText
    else .ok (guardUnderscore Identifier.placeholder)

/-- The field of a property without words. -/
def placeholder : String := "field"

/-- The name of a field before clashes are looked at. -/
def fieldBase (attributes : List String) (t : Tables) (wireName : String) : String :=
  let usable := (t.snake wireName).toList.filter Identifier.isWordChar
  match Text.trimBy (· == '_') usable with
  | [] => placeholder
  | c :: rest =>
    let name := String.ofList (if c.isDigit then 'f' :: '_' :: c :: rest else c :: rest)
    if keywords.contains name || (reservedFields attributes).contains name then name ++ "_"
    else name

end ModelNames

end ApiCommands
