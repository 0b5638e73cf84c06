/-
Checking the models: operations with their parameters and body properties,
placements and envelopes.

The fields of each model, in the order issues are reported in. Entries that are
no field are ignored. A field of an envelope goes by its name on the wire; where
that is missing, by its name in snake case. An issue names the key that was found.
-/
import ApiCommands.Call.Envelope
import ApiCommands.Spec.Operation
import ApiCommands.Tree.Placement
import ApiCommands.Validation.Checked

namespace ApiCommands.Checked

-- ====================================================== operations and placements

/-- The check of a parameter's entries. -/
def parameter (e : Entries) : Checked Parameter :=
  Parameter.mk <$> required e "name" text
    <*> required e "location" (member Location.ofName?)
    <*> withDefault e "required" false bool
    <*> withDefault e "is_array" false bool
    <*> withDefault e "description" none optionalText

/-- The check of a body property's entries. -/
def bodyProperty (e : Entries) : Checked BodyProperty :=
  BodyProperty.mk <$> required e "name" text
    <*> withDefault e "kind" .unknown (member PropertyKind.ofName?)
    <*> withDefault e "required" false bool

/-- The check of an operation's entries. -/
def operation (e : Entries) : Checked Operation :=
  Operation.mk <$> required e "tag" text
    <*> required e "http_method" (member Method.ofName?)
    <*> required e "path_template" text
    <*> required e "operation_id" text
    <*> required e "generated_method_name" text
    <*> withDefault e "summary" none optionalText
    <*> withDefault e "parameters" [] (tuple (model parameter))
    <*> withDefault e "has_request_body" false bool
    <*> withDefault e "request_body_required" false bool
    <*> withDefault e "request_content_type" defaultContentType text
    <*> withDefault e "body_properties" [] (tuple (model bodyProperty))

/-- The check of a placement's entries. -/
def placement (e : Entries) : Checked Placement :=
  Placement.mk <$> required e "tag" text
    <*> required e "domain" (member Domain.ofName?)
    <*> withDefault e "sub_tag" none optionalText

-- ====================================================== envelopes

/-- The value under the first of two keys that is there, checked. -/
def eitherField? (entries : Entries) (first second : String) (check : Value → Checked α) :
    Option (Checked α) :=
  (field? entries first check).orElse fun _ => field? entries second check

/-- The check of an envelope's entries. -/
def envelope (e : Entries) : Checked Envelope :=
  Envelope.mk <$> (eitherField? e "statusCode" "status_code" int).getD
      ((fault .missing).under (.name "statusCode"))
    <*> (eitherField? e "traceId" "trace_id" optionalText).getD (valid none)
    <*> (field? e "response" valid).getD (valid .null)

end ApiCommands.Checked
