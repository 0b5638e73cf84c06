/-
The client: calls that are repeated while the server asks for patience.

A call makes one order out and gives it to the library, again and again as long as
the reply is "too many requests" and attempts are left; what the last exchange gives
is what the call gives. Everything that happened on the way, the orders and the
waits, is kept in the `Conversation`. A call that no order can be made of is
answered before anything is sent, and a wait that cannot be told or made ends the call.
-/
import ApiCommands.Call.Arguments
import ApiCommands.Call.Envelope
import ApiCommands.Call.Payload
import ApiCommands.Call.RetryDelay
import ApiCommands.Outcome.Error

namespace ApiCommands

/-- What a client leaves to others in a call: a library and a server, which settle what becomes of
an order each time it is given, the time at which each exchange ends, and the waiting. -/
structure Network where
  outcome : Order → Nat → Exchange
  clock : Nat → Moment
  sleep : Binary64 → Except Fault Unit

/-- What happened in a call. -/
structure Conversation where
  orders : List Order
  waits : List Binary64
  outcome : Except Error Envelope

/-- The conversation after a first order and a wait, which is left out if it is none. -/
def Conversation.after (order : Order) (wait : Binary64) (c : Conversation) : Conversation :=
  ⟨order :: c.orders, (if wait.isPositive then [wait] else []) ++ c.waits, c.outcome⟩

/-- A client of one server. -/
structure Client where
  baseUrl : String
  /-- The headers that go with all requests. -/
  headers : List (String × String)
  maxAttempts : Nat
  maxAttempts_pos : 0 < maxAttempts

/-- What a call asks for. -/
structure Call where
  method : String
  path : String
  query : Arguments
  body : Value
  contentType : Option String

namespace Client

/-- The server that is meant when none is named. -/
def defaultBaseUrl : String := "https://api.awork.com/api/v1"

/-- How often a request is sent when nothing is said. -/
def defaultAttempts : Int := 3

/-- The headers of all requests: the media type that replies are asked for, and the token. -/
def headersOf (token : Option String) : List (String × String) :=
  ("Accept", "application/json")
    :: ((token.filter (· != "")).map fun t => ("Authorization", "Bearer " ++ t)).toList

/-- A client; slashes at the end of its address do not count, and it makes at least one attempt. Its
headers are checked by the library that is to send them. -/
def create (check : List (String × String) → Except Fault Unit) (baseUrl : String)
    (token : Option String) (maxAttempts : Int := defaultAttempts) : Except Fault Client := do
  check (headersOf token)
  return {
    baseUrl := String.ofList ((baseUrl.toList.reverse.dropWhile (· == '/')).reverse)
    headers := headersOf token
    maxAttempts := max 1 maxAttempts.toNat
    maxAttempts_pos := by omega }

/-- A client as the variables `<stem>_BASE_URL` and `<stem>_TOKEN` say. -/
def ofEnvironment (check : List (String × String) → Except Fault Unit)
    (environment : List (String × String)) (stem : String := "AWORK")
    (maxAttempts : Int := defaultAttempts) : Except Fault Client :=
  let base := (environment.lookup (stem ++ "_BASE_URL")).getD ""
  create check (if base = "" then defaultBaseUrl else base)
    (environment.lookup (stem ++ "_TOKEN")) maxAttempts

/-- A path that is an address of its own. -/
def isAbsolute (path : String) : Bool :=
  let low := Text.lower path.toList
  "http://".toList.isPrefixOf low || "https://".toList.isPrefixOf low

/-- The address of a path as it is written. -/
def urlOf (c : Client) (path : String) : String :=
  if isAbsolute path then path else c.baseUrl ++ path

/-- The order a call gives. -/
def order (c : Client) (call : Call) : Except Fault Order := do
  let query ← call.query.queryPairs
  let payload ← Payload.ofValue call.contentType call.body
  return ⟨String.ofList (Text.upper call.method.toList), c.urlOf call.path, query, payload⟩

/-- The status that asks for patience. -/
def tooManyRequests : Int := 429

/-- The envelope of a reply that is not waited on. -/
def conclude (r : Reply) : Except Error Envelope := (Envelope.ofReply r).mapError .fault

/-- What comes of the last exchange. -/
def answer (url : String) : Exchange → Except Error Envelope
  | .reply r => conclude r
  | .failure timedOut reason => .error (.connection ⟨url, timedOut, reason⟩)
  | .refusal cause => .error (.fault cause)

/-- The wait after a reply to a given attempt, made if it is one. -/
def waitAfter (net : Network) (made : Nat) (r : Reply) : Except Fault Binary64 := do
  let wait ← RetryDelay.afterReply (net.clock made) r (made + 1)
  if wait.isPositive then net.sleep wait
  return wait

/-- The conversation after `made` attempts, with so many retries left. -/
def converse (net : Network) (order : Order) (made : Nat) : Nat → Conversation
  | 0 => ⟨[order], [], answer order.url (net.outcome order made)⟩
  | retries + 1 =>
    match net.outcome order made with
    | .reply r =>
      if r.status = tooManyRequests then
        match waitAfter net made r with
        | .error f => ⟨[order], [], .error (.fault f)⟩
        | .ok wait => (converse net order (made + 1) retries).after order wait
      else ⟨[order], [], conclude r⟩
    | exchange => ⟨[order], [], answer order.url exchange⟩

/-- The conversation a call leads to. -/
def call (c : Client) (net : Network) (call : Call) : Conversation :=
  match c.order call with
  | .error f => ⟨[], [], .error (.fault f)⟩
  | .ok order => converse net order 0 (c.maxAttempts - 1)

end Client

end ApiCommands
