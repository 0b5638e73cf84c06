/-
Payloads: what the body of a call is sent as.

A body is sent as JSON text under its media type, unless the media type is that
of a form: then each of its fields is a part of its own, texts as they are and
other values as JSON in ASCII. A JSON text that has no bytes cannot be sent.
-/
import ApiCommands.Call.Exchange
import ApiCommands.Document.Json.Writer
import ApiCommands.Spec.Operation

namespace ApiCommands.Payload

/-- The media type of forms. -/
def formType : String := "multipart/form-data"

/-- The key of a field. -/
def fieldName : Scalar → Except Fault String
  | .text s => .ok s
  | k => k.display

/-- The value of a field. -/
def fieldText : Value → Except Fault String
  | .text s => .ok s
  | v => Json.encode .asciiLine v

/-- The fields of a body: those of a mapping but for nothings, else one named `value`. -/
def fields : Value → Except Fault (List (String × String))
  | .map entries =>
    (entries.filter fun | (_, .null) => false | _ => true).mapM fun (k, v) => do
      return (← fieldName k, ← fieldText v)
  | v => return [("value", ← fieldText v)]

/-- The media type that is meant, where it may be left open. -/
def mediaType (contentType : Option String) : String :=
  (contentType.filter (· != "")).getD defaultContentType

/-- The body is a form. -/
def isForm (contentType : Option String) : Bool :=
  Text.lowered (mediaType contentType) == formType

/-- The payload that carries a value. -/
def ofValue (contentType : Option String) : Value → Except Fault Payload
  | .null => .ok .empty
  | v => do
    if isForm contentType then return .form (← fields v)
    let text ← Json.encode .line v
    if !Text.hasBytes text.toList then throw .unencodable
    return .content text (mediaType contentType)

end ApiCommands.Payload
