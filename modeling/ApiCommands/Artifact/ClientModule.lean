/-
The client module: a class with one method per operation.

A method takes the path parameters in the order of the template, then the body
if the operation has one, then the query. The values it passes on are keyed by
the placeholders as the template spells them.

The name of a parameter on the wire becomes an identifier of words in lower case;
names that clash with each other or with reserved ones are numbered. The emitted
commands use the same names, with reserved ones of their own.
-/
import ApiCommands.Artifact.DocText
import ApiCommands.Naming.Identifier
import ApiCommands.Naming.Taken
import ApiCommands.Naming.Words
import ApiCommands.Spec.Operation
import ApiCommands.Text.Quoted

namespace ApiCommands

namespace Tables

/-- The identifier of a wire name before clashes are looked at. -/
def parameterBase (t : Tables) (name : String) : String :=
  let words := t.snake name
  Identifier.ofString (if words = "" then name else words)

/-- The candidates for the identifier of a wire name. -/
def parameterCandidates (t : Tables) (name : String) : Candidates :=
  .numbered (t.parameterBase name) "_"

/-- Identifiers for wire names, all different and none of them reserved. -/
def parameterNames (t : Tables) (reserved : List String) (names : List String) : List String :=
  (Taken.ofList reserved).claimAll (names.map t.parameterCandidates)

end Tables

/-- A wire name and the identifier that holds its value. -/
abbrev Binding := String × String

/-- Bindings as a literal of a mapping. -/
def bindingsLiteral (fields : List Binding) : String :=
  Text.braced (Text.joined ", " (fields.map fun (name, identifier) =>
    Text.quoted name ++ ": " ++ identifier))

/-- An argument of a client method and the placeholder it is for. -/
structure PathArgument where
  identifier : String
  placeholder : String
  deriving DecidableEq, Repr

/-- A method of the client. -/
structure ClientMethod where
  name : String
  method : Method
  path : String
  summary : String
  arguments : List PathArgument
  hasBody : Bool
  bodyRequired : Bool
  contentType : String
  deriving DecidableEq, Repr

/-- The route of an operation in words. -/
def Operation.route (op : Operation) : String := op.method.verb ++ " " ++ op.path

/-- The placeholder a parameter is for, as the template spells it last; its own name if there is
none. -/
def Operation.placeholderOf (op : Operation) (p : Parameter) : String :=
  ((op.placeholders.reverse.find? fun name => Text.lowered name == Text.lowered p.name)).getD p.name

namespace ClientMethod

/-- The arguments that every method has. -/
def reservedArguments : List String := ["self", "body", "query"]

/-- The arguments for the path parameters of an operation. -/
def argumentsOf (t : Tables) (op : Operation) : List PathArgument :=
  let names := t.parameterNames reservedArguments (op.pathParameters.map (·.name))
  (op.pathParameters.zip names).map fun (p, identifier) => ⟨identifier, op.placeholderOf p⟩

/-- The method of an operation. -/
def ofOperation (t : Tables) (op : Operation) : ClientMethod :=
  { name := op.methodName
    method := op.method
    path := op.path
    summary := DocText.summary op.summary op.route
    arguments := argumentsOf t op
    hasBody := op.hasBody
    bodyRequired := op.bodyRequired
    contentType := op.contentType }

/-- The parameters of the method as they are declared. -/
def signature (m : ClientMethod) : String :=
  let body :=
    if m.hasBody then [if m.bodyRequired then "body: Any" else "body: Any = None"] else []
  Text.joined ", " (["self"] ++ m.arguments.map (fun a => a.identifier ++ ": Any") ++ body
    ++ ["query: Optional[dict[str, Any]] = None"])

/-- The values of the placeholders as they are passed on. -/
def pathValues (m : ClientMethod) : String :=
  bindingsLiteral (m.arguments.map fun a => (a.placeholder, a.identifier))

/-- The lines of the method. -/
def lines (m : ClientMethod) : List String :=
  ["",
    "    def " ++ m.name ++ "(" ++ m.signature ++ ") -> ResponseEnvelope:",
    DocText.quotedLine "        " m.summary,
    "        return self.call(",
    "            " ++ Text.quoted m.method.verb ++ ",",
    "            self.expand_path(" ++ Text.quoted m.path ++ ", " ++ m.pathValues ++ "),",
    "            query,",
    "            " ++ (if m.hasBody then "body" else "None") ++ ",",
    "            " ++ Text.quoted m.contentType ++ ",",
    "        )"]

end ClientMethod

/-- The client module. -/
def clientModule (t : Tables) (clientClass : String) (ops : List Operation) : String :=
  Text.unlines ([
    "\"\"\"Typed HTTP client for the API, one method per operation.",
    "",
    "Generated by awkgen; regenerate instead of editing by hand.",
    "\"\"\"",
    "",
    "from __future__ import annotations",
    "",
    "from typing import Any, Optional",
    "",
    "from awkgen.client import ApiClient, ResponseEnvelope",
    "",
    "__all__ = [" ++ Text.quoted clientClass ++ "]",
    "",
    "",
    "class " ++ clientClass ++ "(ApiClient):",
    "    \"\"\"API client generated from the OpenAPI document.\"\"\""]
    ++ ops.flatMap fun op => (ClientMethod.ofOperation t op).lines)

end ApiCommands
