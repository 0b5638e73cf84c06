/-
Sessions: the commands of one run share one client.

The client is given, or made by the first command that needs one, or there is
none, which is an error of every command. A client made on demand belongs to the
session and is closed with it; a given one is left open. A command prints its
envelope, that of an error included, and ends with an exit code.
-/
import ApiCommands.Call.Client

namespace ApiCommands

/-- Where the commands of a session get their client from. -/
inductive ClientSource where
  | absent
  | given (c : Client)
  | onDemand (c : Client)

/-- A session, with the client made in it so far. -/
structure Session where
  source : ClientSource
  made : Option Client
  closed : Bool

/-- What a command leaves behind. -/
structure CommandResult where
  output : String
  exitCode : Nat
  conversation : Conversation

namespace Session

/-- A session before its first command. -/
def start (source : ClientSource) : Session := ⟨source, none, false⟩

/-- The client that is there. -/
def client? (s : Session) : Option Client :=
  match s.source with
  | .absent => none
  | .given c => some c
  | .onDemand _ => s.made

/-- The session with its client made, if one can be. -/
def prepare (s : Session) : Session :=
  match s.source with
  | .onDemand c => { s with made := some (s.made.getD c) }
  | _ => s

/-- The session ended: the client made in it is closed. -/
def close (s : Session) : Session := { s with closed := s.made.isSome }

/-- An envelope as it is printed. -/
def printed (e : Envelope) : Except Error String :=
  match e.shown.bind (Json.encode .indented) with
  | .ok text => .ok (text ++ "\n")
  | .error f => .error (.fault f)

/-- The output and the exit code of an outcome. An error without words stays one. -/
def report : Except Error Envelope → Except Error (String × Nat)
  | .ok e => do return (← printed e, if e.ok then 0 else 1)
  | .error e =>
    match e.message? with
    | some message => do return (← printed (.ofError message), e.exitCode)
    | none => .error e

/-- The conversation of an action with the client, if there is one. -/
def converse (s : Session) (action : Client → Conversation) : Conversation :=
  match s.client? with
  | some c => action c
  | none => ⟨[], [], .error (.config .noClient)⟩

/-- One command of a session. -/
def run (s : Session) (action : Client → Conversation) : Session × Except Error CommandResult :=
  let s := s.prepare
  let conversation := s.converse action
  (s, (report conversation.outcome).map fun (output, code) => ⟨output, code, conversation⟩)

end Session

namespace Client

/-- A call to the path of a template, which is not made if an argument is missing. -/
def callTemplate (c : Client) (net : Network) (template : String) (args : Arguments)
    (method : String) : Conversation :=
  match PathTemplate.expand template args with
  | .error e => ⟨[], [], .error e⟩
  | .ok path => c.call net ⟨method, path, [], .null, none⟩

end Client

end ApiCommands
