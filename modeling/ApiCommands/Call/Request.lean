/-
Requests: the messages a library sends for an order.

The address is brought into normal form, and the query of the order stands in it. The
parts of a form are told apart by a boundary line; a form without fields is no body
at all. What the address says about a user comes before the header that goes with all
requests. A request whose texts have no bytes cannot be made.
-/
import ApiCommands.Call.Address
import ApiCommands.Call.Exchange

namespace ApiCommands

/-- What is sent to a server. -/
structure Request where
  method : String
  url : String
  accept : Option String
  authorization : Option String
  contentType : Option String
  body : String
  deriving DecidableEq, Repr

/-- A body with its media type. -/
structure RequestBody where
  contentType : String
  text : String
  deriving DecidableEq, Repr

namespace RequestBody

/-- One character of a field name between quotes. -/
def nameChar (c : Char) : List Char :=
  if c = '"' then ['%', '2', '2']
  else if c = '\\' then ['\\', '\\']
  else if c.toNat < 32 && c.toNat != 27 then Text.Percent.encodeChar c
  else [c]

/-- One part of a form. -/
def part (boundary name value : String) : String :=
  "--" ++ boundary ++ "\r\nContent-Disposition: form-data; name=\""
    ++ String.ofList (name.toList.flatMap nameChar) ++ "\"\r\n\r\n" ++ value ++ "\r\n"

/-- A form. -/
def form (boundary : String) (fields : List (String × String)) : RequestBody :=
  ⟨"multipart/form-data; boundary=" ++ boundary,
    String.join (fields.map fun (k, v) => part boundary k v) ++ "--" ++ boundary ++ "--\r\n"⟩

/-- The body of a payload, if it has one. -/
def ofPayload? (boundary : String) : Payload → Option RequestBody
  | .empty => none
  | .content text mediaType => some ⟨mediaType, text⟩
  | .form [] => none
  | .form fields => some (form boundary fields)

end RequestBody

namespace Request

/-- Headers that can go with all requests: their values are ASCII. -/
def checkHeaders (headers : List (String × String)) : Except Fault Unit :=
  if headers.all (Text.isAscii ·.2.toList) then .ok () else .error .unencodable

/-- The request of an order, and whether it leads to a host. -/
def ofOrder (headers : List (String × String)) (boundary : String) (o : Order) :
    Except Fault (Request × Bool) := do
  let body? := RequestBody.ofPayload? boundary o.payload
  let address ← Address.read o.url.toList
  if body?.any (!Text.isAscii ·.contentType.toList) then throw .unencodable
  Address.checkQuery o.query
  if body?.any (!Text.hasBytes ·.text.toList) then throw .unencodable
  let request : Request :=
    { method := o.method
      url := address.text o.query
      accept := headers.lookup "Accept"
      authorization := address.credentials?.orElse fun _ => headers.lookup "Authorization"
      contentType := body?.map (·.contentType)
      body := (body?.map (·.text)).getD "" }
  return (request, address.hasHost)

end Request

namespace Order

/-- The request that is sent for the order, if one can be made. -/
def request? (headers : List (String × String)) (boundary : String) (o : Order) : Option Request :=
  (Request.ofOrder headers boundary o).toOption.map (·.1)

/-- What becomes of the order if the server meets its request with `answer`. A reply from no host
is none. -/
def exchange (headers : List (String × String)) (boundary : String) (o : Order)
    (answer : Exchange) : Exchange :=
  match Request.ofOrder headers boundary o, answer with
  | .error f, _ => .refusal f
  | .ok (_, false), .reply _ => .refusal .noHost
  | .ok _, answer => answer

end Order

end ApiCommands
