/-
Exchanges with a server: what is asked for, and what comes back.

Requests are sent by a library, which is given an order and gives a reply. What it does
for that is its own matter: it may send more than one message, as where a server
leads on to another place, unpacks what it gets and tells a text from its bytes. An
order that gets no reply failed on the way or took too long, or the library ended
it with another error.
-/
import ApiCommands.Outcome.Fault

namespace ApiCommands

/-- What goes into a request besides its address. -/
inductive Payload where
  | empty
  /-- A text, with the media type it is sent under. -/
  | content (text mediaType : String)
  /-- The fields of a form. -/
  | form (fields : List (String × String))
  deriving DecidableEq, Repr

/-- What is asked of a library: one request, without the headers that go with all of them. -/
structure Order where
  method : String
  url : String
  query : List (String × String)
  payload : Payload
  deriving DecidableEq, Repr

/-- What a server answers, as the library tells it. -/
structure Reply where
  status : Int
  /-- The value of a header. -/
  header? : String → Option String
  /-- The text, unless it cannot be told. -/
  text : Except Fault String

/-- What becomes of an order. -/
inductive Exchange where
  | reply (r : Reply)
  /-- Nothing came back. -/
  | failure (timedOut : Bool) (reason : String)
  /-- An error of another kind. -/
  | refusal (cause : Fault)

/-- A status of success. -/
def isSuccess (status : Int) : Bool := decide (200 ≤ status) && decide (status < 300)

end ApiCommands
