/-
The command module: the emitted command line.

Every domain becomes a block with the commands attached to it and its branches.
Inside a block no two names are the same: a branch whose name is taken by a
command or an earlier branch is numbered. The domain of authentication is a
block of its own.
-/
import ApiCommands.Artifact.Handler
import ApiCommands.Tree.CommandTree

namespace ApiCommands

/-- A branch of a block. -/
structure BranchBlock where
  variableName : String
  name : String
  help : String
  handlers : List Handler
  deriving DecidableEq, Repr

/-- A domain as it is emitted. -/
structure DomainBlock where
  variableName : String
  name : String
  help : String
  handlers : List Handler
  branches : List BranchBlock
  deriving DecidableEq, Repr

/-- Names the command module has for itself; no handler may take them. -/
def commandModuleNames : List String :=
  ["annotations", "Any", "List", "Optional", "typer", "rt", "DEFAULT_BASE_URL", "register",
    "register_auth", "build_app"]

/-- Names no handler may take beside a client class. -/
def reservedHandlers (clientClass : String) : List String := commandModuleNames ++ [clientClass]

/-- The name of a branch before clashes are looked at. -/
def Branch.baseName (b : Branch) : String :=
  match b.placement.branch with
  | some name => if name = "" then slug b.placement.tag else name
  | none => slug b.placement.tag

namespace DomainBlock

/-- The names of branches beside commands with the given names. -/
def branchNames (commandNames : List String) (branches : List Branch) : List String :=
  (Taken.ofList commandNames).claimAll (branches.map fun b => .numbered b.baseName "-")

/-- The variable of the branch at a place. -/
def branchVariable (variableName : String) (index : Nat) : String :=
  variableName ++ "_" ++ toString index

/-- The branches of a block. -/
def branchBlocks (t : Tables) (variableName : String) (node : DomainNode) : List BranchBlock :=
  let names := branchNames (node.rootCommands.map (·.name)) node.subBranches
  (node.subBranches.zip names).mapIdx fun i (b, name) =>
    { variableName := branchVariable variableName i
      name := name
      help := b.placement.tag ++ " commands."
      handlers := b.commands.map (Handler.ofCommand t) }

/-- The block of a domain. -/
def ofNode (t : Tables) (variableName : String) (node : DomainNode) : DomainBlock :=
  { variableName := variableName
    name := node.domain.name
    help := node.description
    handlers := node.rootCommands.map (Handler.ofCommand t)
    branches := branchBlocks t variableName node }

/-- All handlers of a block: those of the domain, then those of its branches. -/
def allHandlers (b : DomainBlock) : List Handler :=
  b.handlers ++ b.branches.flatMap (·.handlers)

/-- The lines that attach a handler to the command line in a variable. -/
def attachLine (variableName : String) (h : Handler) : String :=
  "    " ++ variableName ++ ".command(" ++ Text.quoted h.command ++ ")(" ++ h.function ++ ")"

/-- The line that opens a command line in a variable. -/
def openLine (variableName help : String) : String :=
  "    " ++ variableName ++ " = typer.Typer(help=" ++ Text.quoted help ++ ", no_args_is_help=True)"

/-- The line that mounts one command line under another. -/
def mountLine (parent variableName name : String) : String :=
  "    " ++ parent ++ ".add_typer(" ++ variableName ++ ", name=" ++ Text.quoted name ++ ")"

/-- The lines that fill the command line of a block. -/
def fillLines (b : DomainBlock) : List String :=
  b.handlers.map (attachLine b.variableName)
    ++ b.branches.flatMap (fun branch =>
      openLine branch.variableName branch.help
        :: branch.handlers.map (attachLine branch.variableName)
        ++ [mountLine b.variableName branch.variableName branch.name])
    ++ [""]

end DomainBlock

/-- The blocks of a tree. -/
structure CommandBlocks where
  domains : List DomainBlock
  auth : Option DomainBlock
  deriving DecidableEq, Repr

namespace CommandBlocks

/-- The variable of the domain at a place. -/
def domainVariable (index : Nat) : String := "_d" ++ toString index

/-- The variable of the command line that the authentication commands are attached to. -/
def authVariable : String := "app"

/-- The blocks of a tree. -/
def ofTree (t : Tables) (tree : CommandTree) : CommandBlocks :=
  { domains := tree.domains.mapIdx fun i node => DomainBlock.ofNode t (domainVariable i) node
    auth := tree.auth.map (DomainBlock.ofNode t authVariable) }

/-- The name that the authentication commands are mounted under. -/
def authName : String := "auth"

/-- All blocks, that of authentication last. -/
def all (b : CommandBlocks) : List DomainBlock := b.domains ++ b.auth.toList

/-- All handlers, in the order they are emitted. -/
def handlers (b : CommandBlocks) : List Handler := b.all.flatMap (·.allHandlers)

/-- The names mounted at the top, in order. -/
def topNames (b : CommandBlocks) : List String := b.domains.map (·.name) ++ [authName]

/-- The command module. -/
def render (clientClass : String) (b : CommandBlocks) : String :=
  Text.unlines (
    ["\"\"\"Command-line interface for the API, grouped by domain.",
      "",
      "Generated by awkgen; regenerate instead of editing by hand.",
      "\"\"\"",
      "",
      "from __future__ import annotations",
      "",
      "from typing import Any, List, Optional",
      "",
      "import typer",
      "",
      "from awkgen.client import commands as rt",
      "from awkgen.client.api_client import DEFAULT_BASE_URL",
      "",
      "from .client import " ++ clientClass,
      "",
      "__all__ = [\"build_app\", \"register\", \"register_auth\"]"]
    ++ b.handlers.flatMap (·.lines)
    ++ ["",
      "",
      "def register(app: typer.Typer) -> None:",
      "    \"\"\"Attach every API domain, with its commands and sub-branches, to *app*.\"\"\""]
    ++ b.domains.flatMap (fun d =>
      DomainBlock.openLine d.variableName d.help :: d.fillLines
        ++ [DomainBlock.mountLine authVariable d.variableName d.name])
    ++ ["",
      "",
      "def register_auth(app: typer.Typer) -> None:",
      "    \"\"\"Attach the authentication commands to *app*.\"\"\""]
    ++ ((b.auth.map (·.fillLines)).getD [])
    ++ ["",
      "",
      "def build_app() -> typer.Typer:",
      "    \"\"\"Return a typer app with the API tree and ``auth`` mounted.\"\"\"",
      "    app = typer.Typer(help=\"API command line.\", no_args_is_help=True)",
      "",
      "    @app.callback()",
      "    def main(",
      "        ctx: typer.Context,",
      "        token: Optional[str] = typer.Option(None, \"--token\", envvar=\"AWORK_TOKEN\", "
        ++ "help=\"Bearer token.\"),",
      "        base_url: str = typer.Option(DEFAULT_BASE_URL, \"--base-url\", "
        ++ "envvar=\"AWORK_BASE_URL\", help=\"API base URL.\"),",
      "    ) -> None:",
      "        obj = ctx.ensure_object(dict)",
      "        if \"client\" not in obj and \"client_factory\" not in obj:",
      "            obj[\"client_factory\"] = lambda: " ++ clientClass ++ "(base_url, token)",
      "",
      "    register(app)",
      "    auth_app = typer.Typer(help=\"Authentication commands.\", no_args_is_help=True)",
      "    register_auth(auth_app)",
      "    app.add_typer(auth_app, name=\"" ++ authName ++ "\")",
      "    return app"])

end CommandBlocks

end ApiCommands
