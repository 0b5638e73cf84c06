/-
The operations of an API document.

Every method under every path is an operation if it has an id. A path that ends
in a name for the caller (`/users/me`) is left out where the bare path (`/me`)
is there too: both address the same thing. Method names are claimed after the
reading, in the order of the document, so what follows an operation never
changes it.
-/
import ApiCommands.Naming.MethodName
import ApiCommands.Schema.BodyFields
import ApiCommands.Spec.Parameters

namespace ApiCommands

/-- What an operation says about its request body. -/
structure BodyDeclaration where
  present : Bool
  required : Bool
  /-- The first media type it declares. -/
  contentType : Scalar
  schema : Value

namespace BodyDeclaration

/-- An operation without a request body. -/
def absent : BodyDeclaration := ⟨false, false, .text defaultContentType, .null⟩

/-- The declaration of a request body by its resolved node. -/
def ofNode (body : Value) : BodyDeclaration :=
  match body.get? "content" with
  | some (.map ((contentType, media) :: _)) =>
    ⟨true, body.isMarked "required", contentType, (media.get? "schema").getD .null⟩
  | _ => ⟨true, body.isMarked "required", .text defaultContentType, .null⟩

end BodyDeclaration

/-- The path is a second way to what a bare path addresses. `known` holds all paths in lower
case. -/
def Tables.isShadowed (t : Tables) (known : List String) (path : String) : Bool :=
  match PathTemplate.segments path with
  | first :: second :: more =>
    let last := (second :: more).getLast?.getD first
    t.isCurrentEntity last && known.contains (Text.lowered ("/" ++ last))
  | _ => false

/-- The first tag of an operation that is not blank, or the tag of those without one. -/
def Tables.tagOf (t : Tables) (operation : Value) : String :=
  ((operation.itemsAt "tags").findSome? fun
    | .text tag => if Text.isBlank tag.toList then none else some tag
    | _ => none).getD t.fallbackTag

/-- The operations with method names of their own; none takes a reserved name. -/
def Tables.claimMethodNames (t : Tables) (reserved : List String) (ops : List Operation) :
    List Operation :=
  let names := (Taken.ofList reserved).claimAll
    (ops.map fun op => t.methodCandidates op.id op.path op.method)
  (ops.zip names).map fun (op, name) => { op with methodName := name }

namespace Api

/-- What an operation says about its request body, references followed. -/
def bodyDeclaration (a : Api) (operation : Value) : Noted BodyDeclaration :=
  match operation.get? "requestBody" with
  | none => pure .absent
  | some node => do return .ofNode ((← a.deref node).getD (.map []))

/-- The operation a node describes. Its method name is its id until names are claimed. -/
def operation (a : Api) (t : Tables) (path : String) (item : Value) (method : Method) (id : String)
    (node : Value) : Noted Operation := do
  let body ← a.bodyDeclaration node
  let parameters ← a.parameters path item node
  let fields ← a.bodyFields body.schema
  match body.contentType with
  | .text contentType =>
    return {
      tag := t.tagOf node
      method := method
      path := path
      id := id
      methodName := id
      summary := node.text? "summary"
      parameters := parameters
      hasBody := body.present
      bodyRequired := body.required
      contentType := contentType
      bodyProperties := fields }
  | _ => Noted.fail (.fault .notText)

/-- The operation under a key of a path item, if the key is a method and the operation has an
id. -/
def operation? (a : Api) (t : Tables) (path : String) (item : Value) :
    Scalar × Value → Noted (Option Operation)
  | (.text key, node) =>
    match Method.ofName? (Text.lowered key) with
    | none => pure none
    | some method =>
      if !node.isMap then pure none
      else match node.filledText? "operationId" with
        | some id => some <$> a.operation t path item method id node
        | none => do
          Noted.note (.unnamedOperation (Text.uppered key) path)
          return none
  | _ => Noted.fail (.fault .notText)

/-- The operations under keys of a path item. -/
def itemOperations (a : Api) (t : Tables) (path : String) (item : Value) :
    Entries → Noted (List Operation)
  | [] => pure []
  | entry :: rest => do
    let operation ← a.operation? t path item entry
    return operation.toList ++ (← a.itemOperations t path item rest)

/-- The operations of one path. -/
def pathOperations (a : Api) (t : Tables) (known : List String) (path : String) (item : Value) :
    Noted (List Operation) :=
  match item with
  | .map entries =>
    if t.isShadowed known path then do
      Noted.note (.shadowedPath path)
      return []
    else a.itemOperations t path item entries
  | _ => pure []

/-- The operations of paths, read but not named. -/
def readOperations (a : Api) (t : Tables) (known : List String) :
    List (String × Value) → Noted (List Operation)
  | [] => pure []
  | (path, item) :: rest => do
    let operations ← a.pathOperations t known path item
    return operations ++ (← a.readOperations t known rest)

end Api

/-- The entries of a mapping by name; none if a key is no text. -/
def Entries.named? (entries : Entries) : Option (List (String × Value)) :=
  entries.mapM fun
    | (.text name, v) => some (name, v)
    | _ => none

namespace Api

/-- The operations of a mapping of paths, with method names that avoid `reserved`. -/
def collect (a : Api) (t : Tables) (reserved : List String) (paths : Entries) :
    Noted (List Operation) :=
  match paths.named? with
  | none => Noted.fail (.fault .notText)
  | some named => do
    let known := named.map fun (path, _) => Text.lowered path
    return t.claimMethodNames reserved (← a.readOperations t known named)

/-- The paths of the document. -/
def paths (a : Api) : Entries :=
  match a.document.get? "paths" with
  | some (.map entries) => entries
  | _ => []

/-- The operations of the document. -/
def operations (a : Api) (t : Tables) (reserved : List String) : Noted (List Operation) :=
  a.collect t reserved a.paths

end Api

end ApiCommands
