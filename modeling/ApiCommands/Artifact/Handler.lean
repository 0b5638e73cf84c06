/-
Handlers: the functions behind the commands.

A handler declares the path parameters as arguments, the query parameters as
options, and, where the operation has a body, options for the body as a whole
and for each of its fields that is a single value or a list. All identifiers of
a handler are different, and so are its option flags.
-/
import ApiCommands.Artifact.ClientModule
import ApiCommands.Naming.Slug

namespace ApiCommands

/-- A declared parameter of a handler. -/
inductive HandlerParameter where
  | context
  | argument (identifier help : String)
  | option (identifier : String) (isList required : Bool) (flag help : String)
  | body
  | bodyFields
  | bodyJsonFields
  deriving DecidableEq, Repr

namespace HandlerParameter

/-- The name an argument goes by in a usage line. -/
def metavar (identifier : String) : String :=
  match Text.trimBy (· == '_') identifier.toList with
  | [] => "VALUE"
  | shown => String.ofList (Text.upper shown)

/-- The type of an option and its value where it is not given. -/
def optionType (isList required : Bool) : String × String :=
  let type := if isList then "List[str]" else "str"
  if required then (type, "...") else ("Optional[" ++ type ++ "]", "None")

/-- A flag with its dashes. -/
def dashed (flag : String) : String := "--" ++ flag

/-- The declaration of a parameter. -/
def text : HandlerParameter → String
  | context => "ctx: typer.Context"
  | argument identifier help =>
    identifier ++ ": str = typer.Argument(..., metavar=" ++ Text.quoted (metavar identifier)
      ++ ", help=" ++ Text.quoted help ++ ", show_default=False)"
  | option identifier isList required flag help =>
    let (type, default) := optionType isList required
    identifier ++ ": " ++ type ++ " = typer.Option(" ++ default ++ ", "
      ++ Text.quoted (dashed flag) ++ ", help=" ++ Text.quoted help ++ ")"
  | body =>
    "body: Optional[str] = typer.Option(None, '--body', "
      ++ "help='Request body as JSON, or @file to read it from a file.')"
  | bodyFields =>
    "set_: Optional[List[str]] = typer.Option(None, '--set', "
      ++ "help='Body field as KEY=VALUE; dotted keys nest. Repeatable.')"
  | bodyJsonFields =>
    "set_json: Optional[List[str]] = typer.Option(None, '--set-json', "
      ++ "help='Body field as KEY=JSON or KEY=@file. Repeatable.')"

end HandlerParameter

/-- An argument of the call that a handler makes. -/
inductive CallArgument where
  | path (identifier : String)
  | body (fields : List Binding) (allowed : List String) (required : Bool)
  | query (fields : List Binding)
  deriving DecidableEq, Repr

namespace CallArgument

/-- Texts as a literal of a row. -/
def row : List String → String
  | [s] => "(" ++ Text.quoted s ++ ",)"
  | ss => "(" ++ Text.joined ", " (ss.map Text.quoted) ++ ")"

/-- The argument as it is written. -/
def text : CallArgument → String
  | path identifier => identifier
  | body fields allowed required =>
    "body=rt.body_from_options(body, set_, set_json, " ++ bindingsLiteral fields ++ ", allowed="
      ++ row allowed ++ ", required=" ++ (if required then "True" else "False") ++ ")"
  | query fields => "query=rt.query_from_options(" ++ bindingsLiteral fields ++ ")"

end CallArgument

/-- A handler. -/
structure Handler where
  function : String
  command : String
  help : String
  parameters : List HandlerParameter
  callArguments : List CallArgument
  method : String
  deriving DecidableEq, Repr

namespace Handler

/-- Names inside a handler that no parameter may take. -/
def reservedParameters : List String :=
  ["ctx", "client", "_call", "body", "set_", "set_json", "rt", "typer", "Any", "List", "Optional"]

/-- The flag of a wire name before clashes are looked at. -/
def flagBase (t : Tables) (name : String) : String :=
  let flag := slug (t.wordKebab name)
  if flag = "" then "value" else flag

/-- The candidates for a flag: as it is, behind a word, and with numbers. -/
def flagCandidates (front flag : String) : Candidates :=
  ⟨[flag, front ++ "-" ++ flag], front ++ "-" ++ flag ++ "-"⟩

/-- The body properties that have an option of their own. -/
def optionProperties (op : Operation) : List BodyProperty :=
  if op.hasBody then op.bodyProperties.filter fun p => p.kind == .scalar || p.kind == .array else []

/-- The wire names of all parameters, in order. -/
def wireNames (op : Operation) : List String :=
  op.pathParameters.map (·.name) ++ op.queryParameters.map (·.name)
    ++ (optionProperties op).map (·.name)

/-- The identifiers of all parameters, in order. -/
def identifiers (t : Tables) (op : Operation) : List String :=
  t.parameterNames reservedParameters (wireNames op)

/-- The flags that are taken before any parameter has one. -/
def takenFlags (t : Tables) : Taken := Taken.ofList (t.reservedOptionNames ++ ["help"])

/-- The flags of the query parameters and then of the body properties, in order. -/
def flags (t : Tables) (op : Operation) : List String :=
  (takenFlags t).claimAll
    (op.queryParameters.map (fun p => flagCandidates "param" (flagBase t p.name))
      ++ (optionProperties op).map fun p => flagCandidates "body" (flagBase t p.name))

/-- The declarations of path parameters. -/
def argumentsOf (parameters : List Parameter) (identifiers : List String) :
    List HandlerParameter :=
  (parameters.zip identifiers).map fun (p, identifier) =>
    .argument identifier (DocText.firstLine p.description p.name)

/-- The declarations of query parameters. -/
def queryOptions (parameters : List Parameter) (identifiers flags : List String) :
    List HandlerParameter :=
  ((parameters.zip identifiers).zip flags).map fun ((p, identifier), flag) =>
    .option identifier p.isArray p.required flag (DocText.firstLine p.description p.name)

/-- The declarations of body properties. -/
def bodyOptions (properties : List BodyProperty) (identifiers flags : List String) :
    List HandlerParameter :=
  ((properties.zip identifiers).zip flags).map fun ((p, identifier), flag) =>
    .option identifier (p.kind == .array) false flag ("Body field '" ++ p.name ++ "'.")

/-- The handler of a command. -/
def ofCommand (t : Tables) (c : Command) : Handler :=
  let op := c.operation
  let pathCount := op.pathParameters.length
  let queryCount := op.queryParameters.length
  let names := identifiers t op
  let pathNames := names.take pathCount
  let queryNames := (names.drop pathCount).take queryCount
  let fieldNames := names.drop (pathCount + queryCount)
  let fields := optionProperties op
  let queryItems := (op.queryParameters.map (·.name)).zip queryNames
  { function := c.handler
    command := c.name
    help := DocText.summary op.summary op.route
    parameters :=
      [.context] ++ argumentsOf op.pathParameters pathNames
        ++ queryOptions op.queryParameters queryNames (flags t op)
        ++ (if op.hasBody then [.body, .bodyFields, .bodyJsonFields] else [])
        ++ bodyOptions fields fieldNames ((flags t op).drop queryCount)
    callArguments :=
      pathNames.map .path
        ++ (if op.hasBody then
            [.body ((fields.map (·.name)).zip fieldNames) (op.bodyProperties.map (·.name))
              op.bodyRequired]
          else [])
        ++ (if queryItems.isEmpty then [] else [.query queryItems])
    method := op.methodName }

/-- The lines of a handler. -/
def lines (h : Handler) : List String :=
  ["", "", "def " ++ h.function ++ "("]
    ++ h.parameters.map (fun p => "    " ++ p.text ++ ",")
    ++ [") -> None:",
      DocText.quotedLine "    " h.help,
      "",
      "    def _call(client: Any) -> Any:",
      "        return client." ++ h.method ++ "("]
    ++ h.callArguments.map (fun a => "            " ++ a.text ++ ",")
    ++ ["        )", "", "    rt.run(ctx, _call)"]

end Handler

end ApiCommands
