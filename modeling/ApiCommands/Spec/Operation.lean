/-
Operations: what an API description offers under a path and a method.

Everything the emitters and the namer need of an operation is here, read off
the description once. Parameters come in two orders: as declared, and as the
path template needs them (`Operation.pathParameters`).
-/
import ApiCommands.Spec.PathTemplate
import ApiCommands.Text.LetterCase

namespace ApiCommands

/-- The method of a request. -/
inductive Method where
  | get
  | post
  | put
  | patch
  | delete
  | head
  | options
  | trace
  deriving DecidableEq, Repr, Inhabited

namespace Method

/-- All methods. -/
def all : List Method := [get, post, put, patch, delete, head, options, trace]

/-- The name of a method. -/
def name : Method → String
  | get => "get"
  | post => "post"
  | put => "put"
  | patch => "patch"
  | delete => "delete"
  | head => "head"
  | options => "options"
  | trace => "trace"

/-- The method of a name in lower case. -/
def ofName? (s : String) : Option Method := all.find? (·.name == s)

/-- The name in upper case, as a request spells it. -/
def verb (m : Method) : String := String.ofList (m.name.toList.map Char.toUpper)

end Method

/-- Where a parameter is sent. -/
inductive Location where
  | path
  | query
  deriving DecidableEq, Repr, Inhabited

namespace Location

/-- The name of a location. -/
def name : Location → String
  | path => "path"
  | query => "query"

/-- The location of a name in lower case. -/
def ofName? (s : String) : Option Location := [path, query].find? (·.name == s)

end Location

/-- The shape of a property of a request body. -/
inductive PropertyKind where
  | scalar
  | array
  | object
  | unknown
  deriving DecidableEq, Repr, Inhabited

namespace PropertyKind

/-- The name of a kind. -/
def name : PropertyKind → String
  | scalar => "scalar"
  | array => "array"
  | object => "object"
  | unknown => "unknown"

/-- The kind of a name. -/
def ofName? (s : String) : Option PropertyKind :=
  [scalar, array, object, unknown].find? (·.name == s)

end PropertyKind

/-- A path or query parameter. -/
structure Parameter where
  name : String
  location : Location
  required : Bool := false
  isArray : Bool := false
  description : Option String := none
  deriving DecidableEq, Repr

/-- A property at the top of a request body. -/
structure BodyProperty where
  name : String
  kind : PropertyKind := .unknown
  required : Bool := false
  deriving DecidableEq, Repr

/-- The media type of a body that declares none. -/
def defaultContentType : String := "application/json"

/-- An operation of the API. `methodName` names its method on the emitted client. -/
structure Operation where
  tag : String
  method : Method
  path : String
  id : String
  methodName : String
  summary : Option String := none
  parameters : List Parameter := []
  hasBody : Bool := false
  bodyRequired : Bool := false
  contentType : String := defaultContentType
  bodyProperties : List BodyProperty := []
  deriving DecidableEq, Repr

namespace Operation

/-- The segments of the path. -/
def segments (op : Operation) : List String := PathTemplate.segments op.path

/-- The placeholders of the path. -/
def placeholders (op : Operation) : List String := PathTemplate.placeholders op.path

/-- The declared path parameters. -/
def declaredPath (op : Operation) : List Parameter := op.parameters.filter (·.location == .path)

/-- The query parameters, as declared. -/
def queryParameters (op : Operation) : List Parameter :=
  op.parameters.filter (·.location == .query)

/-- The placeholders in lower case, each once, at its first place. -/
def placeholderKeys (op : Operation) : List String :=
  (op.placeholders.map Text.lowered).eraseDups

/-- The path parameters in the order of the placeholders they fill, and then, as declared, those
that fill none. Of several declarations for one placeholder the last counts. -/
def pathParameters (op : Operation) : List Parameter :=
  op.placeholderKeys.filterMap
      (fun key => op.declaredPath.reverse.find? fun p => Text.lowered p.name == key)
    ++ op.declaredPath.filter fun p => !op.placeholderKeys.contains (Text.lowered p.name)

end Operation

/-- An operation with its names in the command line: `name` within its tag, and the name of the
function that handles it. -/
structure Command where
  operation : Operation
  name : String
  handler : String
  deriving DecidableEq, Repr

/-- The tag of a command. -/
def Command.tag (c : Command) : String := c.operation.tag

end ApiCommands
