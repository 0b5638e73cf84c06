/-
Reports: what a command says, and where.

Data goes to the output and nothing else does; messages go to the error stream.
A `Voice` fixes the form of tables and which messages are left out: quiet ones
drop what is merely nice to know, and only talkative ones tell how things were
found. A `Told` value is an answer or an error, together with all that was said
before it.
-/
import ApiCommands.Document.Json.Writer
import ApiCommands.Outcome.Note

namespace ApiCommands

/-- The form of data. -/
inductive DataForm where
  | plain
  | json
  deriving DecidableEq, Repr

/-- The name of a form. -/
def DataForm.name : DataForm → String
  | plain => "plain"
  | json => "json"

/-- How a command speaks. -/
structure Voice where
  form : DataForm
  quiet : Bool
  verbose : Bool
  deriving DecidableEq, Repr

/-- What a message is for. -/
inductive Tone where
  | info
  | success
  | warning
  | error
  | suggestion
  | debug
  deriving DecidableEq, Repr

/-- What stands before a message. -/
def Tone.lead : Tone → String
  | info => ""
  | success => ""
  | warning => "Warning: "
  | error => "Error: "
  | suggestion => "→ "
  | debug => "[debug] "

/-- What was written to the output and to the error stream. -/
structure Transcript where
  output : String
  errors : String
  deriving DecidableEq, Repr

namespace Transcript

/-- Nothing written. -/
def empty : Transcript := ⟨"", ""⟩

/-- One transcript after the other. -/
protected def append (a b : Transcript) : Transcript := ⟨a.output ++ b.output, a.errors ++ b.errors⟩

instance : Append Transcript := ⟨Transcript.append⟩

/-- A line on the output. -/
def data (text : String) : Transcript := ⟨text ++ "\n", ""⟩

/-- A line on the error stream. -/
def message (text : String) : Transcript := ⟨"", text ++ "\n"⟩

/-- Transcripts one after the other. -/
def concat : List Transcript → Transcript
  | [] => empty
  | t :: rest => t ++ concat rest

end Transcript

namespace Voice

/-- A message of this tone is heard. -/
def hears (v : Voice) : Tone → Bool
  | .info | .success | .suggestion => !v.quiet
  | .warning | .error => true
  | .debug => v.verbose

/-- A message. -/
def say (v : Voice) (tone : Tone) (text : String) : Transcript :=
  if v.hears tone then .message (tone.lead ++ text) else .empty

/-- A value as data. -/
def printValue (value : Value) : Except Fault Transcript :=
  return .data (← Json.encode .indented value)

/-- A row of a table by its headers; a header that comes twice keeps its first place and takes the
later cell. -/
def record (headers row : List String) : Value :=
  .map (Entries.ofList ((headers.zip row).map fun (h, cell) => (.text h, .text cell)))

/-- A table: one record for each row, or lines of cells under a line of headers. -/
def printTable (v : Voice) (headers : List String) (rows : List (List String)) :
    Except Fault Transcript :=
  match v.form with
  | .json => printValue (.list (rows.map (record headers)))
  | .plain => .ok <| .concat ((headers :: rows).map fun cells => .data (Text.joined "\t" cells))

/-- A note, where it is heard. -/
def tellNote (v : Voice) (n : Note) : Transcript :=
  if v.verbose || n.level == .warning then
    .message (n.level.name ++ " " ++ n.channel ++ ": " ++ n.message)
  else .empty

end Voice

/-- An answer or an error, with what was said before it. -/
structure Told (α : Type u) where
  transcript : Transcript
  outcome : Except Error α

namespace Told

/-- An answer without a word. -/
protected def pure (a : α) : Told α := ⟨.empty, .ok a⟩

/-- One computation after the other. -/
protected def bind (x : Told α) (f : α → Told β) : Told β :=
  match x.outcome with
  | .error e => ⟨x.transcript, .error e⟩
  | .ok a => ⟨x.transcript ++ (f a).transcript, (f a).outcome⟩

instance : Monad Told where
  pure := Told.pure
  bind := Told.bind

/-- A transcript and no answer. -/
def tell (t : Transcript) : Told Unit := ⟨t, .ok ()⟩

/-- The computation that fails. -/
def fail (e : Error) : Told α := ⟨.empty, .error e⟩

/-- A computation from an answer or an error. -/
def ofExcept (x : Except Error α) : Told α := ⟨.empty, x⟩

/-- A computation with its notes told. -/
def ofNoted (v : Voice) (x : Noted α) : Told α :=
  ⟨.concat (x.notes.map v.tellNote), x.outcome⟩

/-- A table told. -/
def tellTable (v : Voice) (headers : List String) (rows : List (List String)) : Told Unit := do
  tell (← ofExcept ((v.printTable headers rows).mapError .fault))

@[simp]
theorem outcome_pure (a : α) : (pure a : Told α).outcome = .ok a := rfl

@[simp]
theorem outcome_bind (x : Told α) (f : α → Told β) :
    (x >>= f).outcome = x.outcome.bind fun a => (f a).outcome := by
  show (Told.bind x f).outcome = _
  unfold Told.bind
  cases x.outcome <;> rfl

end Told

end ApiCommands
