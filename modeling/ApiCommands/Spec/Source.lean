/-
API documents by their source.

A document comes from standard input, from an address or from a file. Whether it
is JSON or YAML is told by the file's suffix or the media type of the reply;
where nothing tells, JSON is tried first and YAML second. A document is a
mapping, and only version 3 of its format is supported.
-/
import ApiCommands.Call.Exchange
import ApiCommands.Document.Display
import ApiCommands.Document.Yaml.Reader
import ApiCommands.Outcome.Error
import ApiCommands.Outcome.Note
import ApiCommands.Storage.Disk

namespace ApiCommands

/-- A format of documents. -/
inductive Format where
  | json
  | yaml
  deriving DecidableEq, Repr

namespace Format

/-- The format a lower-case suffix stands for. -/
def ofSuffix? (suffix : String) : Option Format :=
  if suffix = ".json" then some json
  else if suffix = ".yaml" ∨ suffix = ".yml" then some yaml
  else none

/-- The text holds `part`. -/
def mentions (part text : List Char) : Bool :=
  match text with
  | [] => part.isEmpty
  | c :: rest => part.isPrefixOf (c :: rest) || mentions part rest

/-- The format a media type stands for. -/
def ofMediaType? (mediaType : String) : Option Format :=
  let holds (part : String) : Bool := mentions part.toList mediaType.toList
  if holds "json" then some json
  else if holds "yaml" || holds "yml" then some yaml
  else none

end Format

/-- A value that is a mapping. -/
def requireMapping : Value → Except Error Value
  | .map entries => .ok (.map entries)
  | .null => .error (.spec (.notMapping "empty document"))
  | v => .error (.spec (.notMapping v.kindName))

/-- A text as YAML, after it was refused as JSON or without that. -/
def readYaml (content : String) (json : Option Json.Misreading) : Except Error Value :=
  match Yaml.parse content with
  | .ok v => requireMapping v
  | .error e => .error (((Fault.ofRefusal? e).map .fault).getD (.spec (.unparsable json)))

/-- A text as a document. A text said to be JSON is not tried as YAML, nor the other way round. -/
def readDocument (content : String) (format : Option Format) : Except Error Value :=
  match format with
  | some .yaml => readYaml content none
  | _ =>
    match Json.parse content with
    | .ok v => requireMapping v
    | .error (.beyond l) => .error (.fault (.ofLimit l))
    | .error (.misread m) =>
      if format = some .json then .error (.spec (.invalidJson m)) else readYaml content (some m)

namespace Value

/-- The version of the format a document says it is in, if it is supported. -/
def specVersion (document : Value) : Except Error String :=
  match document.get? "swagger" with
  | some v => do
    let version ← v.display.mapError .fault
    throw (.spec (.swagger version))
  | none =>
    match document.get? "openapi" with
    | none => .error (.spec .noVersion)
    | some .null => .error (.spec .noVersion)
    | some v => do
      let version ← v.display.mapError .fault
      if "3.".toList.isPrefixOf version.toList then return version
      else throw (.spec (.unsupportedVersion version))

end Value

/-- Where documents come from: the disk, standard input, and addresses. -/
structure Surroundings where
  disk : Disk
  input : String
  fetch : String → Exchange

namespace Surroundings

/-- The document on standard input. -/
def readInput (s : Surroundings) : Except Error Value :=
  if Text.isBlank s.input.toList then .error (.spec .noInput) else readDocument s.input none

/-- The document a reply holds. -/
def readReply (url : String) (r : Reply) : Except Error Value := do
  if !isSuccess r.status then throw (.spec (.badStatus r.status url))
  readDocument (← r.text.mapError .fault)
    (Format.ofMediaType? ((r.header? "content-type").getD ""))

/-- The document at an address. -/
def readAddress (s : Surroundings) (url : String) : Except Error Value :=
  match s.fetch url with
  | .reply r => readReply url r
  | .failure _ reason => .error (.spec (.unreachable url reason))
  | .refusal cause =>
    match cause.ofRequest? with
    | some reason => .error (.spec (.unreachable url reason))
    | none => .error (.fault cause)

/-- The document in a file. -/
def readFile (s : Surroundings) (path : DiskPath) : Except Error Value := do
  if !(← (s.disk.isFile path).mapError .fault) then throw (.spec (.fileNotFound path.text))
  match s.disk.readText path with
  | .error (.file e) => throw (.spec (.unreadableFile path.text e))
  | .error f => throw (.fault f)
  | .ok content =>
    if Text.isBlank content.toList then throw (.spec (.emptyFile path.text))
    readDocument content (Format.ofSuffix? path.suffix)

/-- An address rather than a path. -/
def isAddress (source : String) : Bool :=
  "http://".toList.isPrefixOf source.toList || "https://".toList.isPrefixOf source.toList

/-- The document of a source; `-` is standard input. -/
def load (s : Surroundings) (source : String) : Noted Value :=
  if source = "-" then do
    Noted.note .readingInput
    Noted.ofExcept s.readInput
  else if isAddress source then do
    Noted.note (.fetching source)
    Noted.ofExcept (s.readAddress source)
  else do
    Noted.note (.readingFile source)
    Noted.ofExcept (s.readFile (DiskPath.ofString source))

end Surroundings

end ApiCommands
