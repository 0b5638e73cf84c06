/-
Envelopes: what a call gives back, whatever became of it.

An envelope holds the status, the trace the server left in one of its headers,
and the reply: its JSON value, or its text where it is no JSON, or nothing where
it is blank. An error that kept a request from being made is an envelope of
status 0. An envelope is shown as a document, unless it is nested too deep.
-/
import ApiCommands.Call.Exchange
import ApiCommands.Document.Json.Reader

namespace ApiCommands

/-- The outcome of a call. -/
structure Envelope where
  status : Int
  traceId : Option String
  response : Value
  deriving Repr

namespace Envelope

/-- Headers that may hold the trace, the first one found counts. -/
def traceHeaders : List String := ["trace-id", "traceparent", "x-correlation-id", "request-id"]

/-- The call succeeded. -/
def ok (e : Envelope) : Bool := isSuccess e.status

/-- The envelope of an error on this side. -/
def ofError (message : String) : Envelope := ⟨0, none, .object [("error", .text message)]⟩

/-- The value of a reply's text. -/
def payload (body : String) : Except Fault Value :=
  if Text.isBlank body.toList then .ok .null
  else
    match Json.parse body with
    | .ok v => .ok v
    | .error (.beyond l) => .error (.ofLimit l)
    | .error (.misread _) => .ok (.text body)

/-- The envelope of a reply. -/
def ofReply (r : Reply) : Except Fault Envelope := do
  return ⟨r.status, traceHeaders.findSome? r.header?, ← payload (← r.text)⟩

mutual

/-- A value with nothing in place of numbers that JSON has no form for. -/
def finiteOnly : Value → Value
  | .scalar (.float .nan) => .null
  | .scalar (.float (.infinity _)) => .null
  | .scalar s => .scalar s
  | .list items => .list (finiteItems items)
  | .map entries => .map (finiteEntries entries)

/-- The items of a list, likewise. -/
def finiteItems : List Value → List Value
  | [] => []
  | v :: rest => finiteOnly v :: finiteItems rest

/-- The entries of a mapping, likewise. -/
def finiteEntries : Entries → Entries
  | [] => []
  | (k, v) :: rest => (k, finiteOnly v) :: finiteEntries rest

end

/-- The envelope as a document. -/
def toValue (e : Envelope) : Value :=
  .object [("statusCode", .int e.status), ("traceId", .optional e.traceId),
    ("response", finiteOnly e.response)]

/-- How deep a response that is shown may be. -/
def maxShownDepth : Nat := 255

/-- The envelope as it is shown. -/
def shown (e : Envelope) : Except Fault Value :=
  if maxShownDepth < e.response.depth then .error .tooDeepToShow else .ok e.toValue

end Envelope

end ApiCommands
