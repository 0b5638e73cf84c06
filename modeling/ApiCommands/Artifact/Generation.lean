/-
Generation: from a document to its artifacts.

A document without paths or schemas is not ready, and nothing comes of it. Else
its operations are collected, named and arranged in a tree, which fails if a tag
has no place; only then is anything emitted, in the order models, client,
commands, package. `tagPlacements` shows where tags land without failing.
-/
import ApiCommands.Artifact.CommandModule
import ApiCommands.Artifact.ModelModule
import ApiCommands.Naming.CommandName
import ApiCommands.Spec.Collection
import ApiCommands.Storage.ArtifactFiles

namespace ApiCommands

/-- A vocabulary, the name of the emitted client class, and the attributes that every model has. -/
structure Generator where
  tables : Tables
  clientClass : String
  modelAttributes : List String

/-- What is known of a document before anything is emitted. -/
structure Analysis where
  operations : List Operation
  commands : List Command
  tree : CommandTree
  deriving DecidableEq, Repr

/-- An analysis with all that is emitted. -/
structure Generation where
  analysis : Analysis
  modelCount : Nat
  artifacts : List Artifact
  deriving DecidableEq, Repr

/-- Names of the client that no operation's method may take. -/
def reservedMethods : List String :=
  ["__init__", "__enter__", "__exit__", "base_url", "call", "close", "expand_path", "from_env",
    "max_attempts", "retry_delay"]

namespace Namer

/-- The notes on operations that a rule names, in the order they are named. -/
def notes (n : Namer) (ops : List Operation) : Except Fault (List Note) := do
  let named ← ((tagGroups ops).flatMap (·.2)).mapM fun op => do
    return (op, ← n.ruleName? (collectionPaths ops) op)
  return named.filterMap fun (op, found) => found.map fun (name, rule) =>
    .commandNamed op.method.verb op.path name rule

end Namer

/-- The document has paths and schemas. -/
def Value.isReady (document : Value) : Bool :=
  (document.get? "paths").any Value.isMap &&
    (document.get? "components").any fun components => (components.get? "schemas").any Value.isMap

/-- The package file. -/
def packageModule (clientClass : String) : String :=
  Text.unlines
    ["\"\"\"Generated API package: DTOs, client, and command tree.",
      "",
      "Generated by awkgen; regenerate instead of editing by hand.",
      "\"\"\"",
      "",
      "from . import dtos",
      "from .cli import build_app, register, register_auth",
      "from .client import " ++ clientClass,
      "",
      "__all__ = [\"" ++ clientClass
        ++ "\", \"build_app\", \"dtos\", \"register\", \"register_auth\"]"]

namespace Generator

/-- The namer over the generator's vocabulary. -/
def namer (g : Generator) : Namer := ⟨g.tables, Rule.standard⟩

/-- The commands of operations. -/
def commands (g : Generator) (ops : List Operation) : Except Fault (List Command) :=
  g.namer.commands ops (reservedHandlers g.clientClass)

/-- The analysis of a document that is ready. -/
def analyzeReady (g : Generator) (a : Api) : Noted Analysis := do
  let ops ← a.operations g.tables reservedMethods
  let commands ← Noted.ofFault (g.commands ops)
  Noted.noteAll (← Noted.ofFault (g.namer.notes ops))
  let tree ← CommandTree.ofCommands g.tables commands
  Noted.note (.collected ops.length tree.domains.length)
  return ⟨ops, commands, tree⟩

/-- The analysis of a document, if it is ready. -/
def analyze (g : Generator) (document : Value) : Noted (Option Analysis) :=
  if document.isReady then some <$> g.analyzeReady (.ofDocument document)
  else do
    Noted.note .notReady
    return none

/-- The artifacts of an analysis with the given models. -/
def artifacts (g : Generator) (analysis : Analysis) (models : List DataModel) : List Artifact :=
  [⟨"dtos.py", modelModule models⟩,
    ⟨"client.py", clientModule g.tables g.clientClass analysis.operations⟩,
    ⟨"cli.py", (CommandBlocks.ofTree g.tables analysis.tree).render g.clientClass⟩,
    ⟨"__init__.py", packageModule g.clientClass⟩]

/-- Everything that comes of a document, if it is ready. -/
def generate (g : Generator) (document : Value) : Noted (Option Generation) := do
  match ← g.analyze document with
  | none => return none
  | some analysis =>
    match Catalog.ofApi g.modelAttributes g.tables (.ofDocument document) with
    | .error fault => Noted.fail (.fault fault)
    | .ok catalog =>
      let models ← catalog.models
      return some ⟨analysis, models.length, g.artifacts analysis models⟩

/-- The places of all tags of a document, each at its first occurrence. -/
def tagPlacements (g : Generator) (document : Value) : Noted (List Placement) := do
  let ops ← (Api.ofDocument document).operations g.tables []
  Noted.ofFault ((keysOf (·.tag) ops).mapM g.tables.place)

end Generator

end ApiCommands
