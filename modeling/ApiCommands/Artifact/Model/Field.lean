/-
Data models and their fields.

A field keeps the wire name of its property as an alias, so its own name may be
any identifier. Types are the texts that stand in the emitted source.
-/
import ApiCommands.Document.Display

namespace ApiCommands

-- Types as they are written in emitted source.
namespace TypeText

/-- Any value at all. -/
def any : String := "typing.Any"

/-- A type or nothing. -/
def optional (type : String) : String := "typing.Optional[" ++ type ++ "]"

/-- A list of a type. -/
def listOf (type : String) : String := "list[" ++ type ++ "]"

/-- A mapping from texts to a type. -/
def mapOf (type : String) : String := "dict[str, " ++ type ++ "]"

/-- The type of texts in a format. -/
def ofFormat : String → String
  | "date-time" => "datetime.datetime"
  | "date" => "datetime.date"
  | "uuid" => "uuid.UUID"
  | "byte" => "bytes"
  | "binary" => "bytes"
  | _ => "str"

end TypeText

/-- A field of a model. -/
structure ModelField where
  name : String
  wireName : String
  type : String
  required : Bool
  deriving DecidableEq, Repr

namespace ModelField

/-- The type as it is declared: an optional field admits nothing as its value. -/
def declaredType (f : ModelField) : String :=
  if !f.required && f.type != TypeText.any
      && !"typing.Optional[".toList.isPrefixOf f.type.toList then
    TypeText.optional f.type
  else f.type

/-- The declaration of a field. -/
def declaration (f : ModelField) : String :=
  let front := f.name ++ ": " ++ f.declaredType
  let default := if f.required then [] else ["default=None"]
  let wire := if f.wireName = f.name then [] else ["alias=" ++ Text.quoted f.wireName]
  if wire.isEmpty then front ++ (if f.required then "" else " = None")
  else front ++ " = pydantic.Field(" ++ Text.joined ", " (default ++ wire) ++ ")"

end ModelField

/-- A data model. -/
structure DataModel where
  className : String
  schemaName : Scalar
  description : String
  fields : List ModelField
  /-- The model holds the value of a schema that is no object. -/
  isWrapper : Bool
  deriving DecidableEq, Repr

end ApiCommands
