/-
Invocations: what the program is asked to do.

The program has the command `generate` and the group `inspect` with two
commands. Options of the whole program stand before the command; asking for the
version or for help outranks everything behind it.
-/
import ApiCommands.CommandLine.Options
import ApiCommands.CommandLine.Report

namespace ApiCommands

/-- What a run of `generate` is given. -/
structure GenerateOptions where
  spec : Option String
  outputDir : Option String
  tables : Option String
  clientClass : Option String
  check : Bool
  deriving DecidableEq, Repr

/-- What the program is asked to do. -/
inductive Invocation where
  | version
  | help
  | generate (voice : Voice) (options : GenerateOptions)
  | inspectCommands (voice : Voice) (spec : String) (tables : Option String)
  | inspectTags (voice : Voice) (spec : String) (tables : Option String)
  deriving DecidableEq, Repr

namespace Invocation

/-- Asks for help. -/
def helpRule : OptionRule := ⟨"help", none, false⟩

/-- Options of the whole program. -/
def programRules : List OptionRule :=
  [⟨"version", none, false⟩, ⟨"json", none, false⟩, ⟨"plain", none, false⟩,
    ⟨"no-color", none, false⟩, ⟨"quiet", some 'q', false⟩, ⟨"verbose", some 'v', false⟩, helpRule]

/-- Options of `generate`. -/
def generateRules : List OptionRule :=
  [⟨"output-dir", some 'o', true⟩, ⟨"tables", none, true⟩, ⟨"client-class", none, true⟩,
    ⟨"check", none, false⟩, helpRule]

/-- Options of the commands of `inspect`. -/
def inspectRules : List OptionRule := [⟨"tables", none, true⟩, helpRule]

/-- The voice that options ask for. -/
def voiceOf (line : ReadLine) : Voice :=
  ⟨if line.has "json" then .json else .plain, line.has "quiet", line.has "verbose"⟩

/-- The arguments of `generate`. -/
def readGenerate (voice : Voice) (words : List String) : Option Invocation := do
  let line ← OptionRule.readLine generateRules true words
  if line.has "help" then return .help
  let options (spec : Option String) : GenerateOptions :=
    ⟨spec, line.value? "output-dir", line.value? "tables", line.value? "client-class",
      line.has "check"⟩
  match line.operands with
  | [] => some (.generate voice (options none))
  | [spec] => some (.generate voice (options (some spec)))
  | _ => none

/-- The arguments of a command of `inspect`. -/
def readInspected (make : String → Option String → Invocation) (words : List String) :
    Option Invocation := do
  let line ← OptionRule.readLine inspectRules true words
  if line.has "help" then return .help
  match line.operands with
  | [spec] => some (make spec (line.value? "tables"))
  | _ => none

/-- A command of `inspect`. -/
def readInspect (voice : Voice) (words : List String) : Option Invocation := do
  let line ← OptionRule.readLine [helpRule] false words
  if line.has "help" then return .help
  match line.operands with
  | "commands" :: words => readInspected (inspectCommands voice) words
  | "tags" :: words => readInspected (inspectTags voice) words
  | _ => none

/-- What outranks any command. -/
def urgent? (line : ReadLine) : Option Invocation :=
  line.options.findSome? fun given =>
    if given.name = "version" then some version
    else if given.name = "help" then some help
    else none

/-- What the words of a command line ask for, if they can be understood. -/
def read (words : List String) : Option Invocation := do
  let line ← OptionRule.readLine programRules false words
  match urgent? line with
  | some invocation => return invocation
  | none =>
    match line.operands with
    | "generate" :: words => readGenerate (voiceOf line) words
    | "inspect" :: words => readInspect (voiceOf line) words
    | _ => none

end Invocation

end ApiCommands
