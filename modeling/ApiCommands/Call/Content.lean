/-
Messages of servers: from what is sent to a text.

What a message carries is unpacked as one of its headers says. Its text is read in
the encoding that its media type names, if that one is known, else in UTF-8.

A media type says what kind of data a message carries. It may have parameters behind
semicolons, and one of them names the encoding of a text. A semicolon inside quotes
ends no parameter; a quote with a backslash before it opens and closes nothing.
-/
import ApiCommands.Call.Exchange
import ApiCommands.Charset
import ApiCommands.Compression.ContentCoding
import ApiCommands.Text.Blank
import ApiCommands.Text.LetterCase
import ApiCommands.Text.Pieces

namespace ApiCommands.MediaType

/-- The items of a text between its semicolons, where `last` is the character before the text. -/
def items (inQuotes : Bool) (last : Char) : List Char → List (List Char)
  | [] => [[]]
  | c :: rest =>
    if c = ';' ∧ inQuotes = false then [] :: items false c rest
    else
      match items (if c = '"' ∧ last ≠ '\\' then !inQuotes else inQuotes) c rest with
      | first :: more => (c :: first) :: more
      | [] => [[c]]

/-- The name and the value of a parameter. -/
def parameter (item : List Char) : List Char × List Char :=
  let (name, value) := (Text.cutAt '=' item).getD (item, [])
  (Text.lower (Text.trim name), Text.trim value)

/-- A value without the quotes or the angles around it. -/
def bare (value : List Char) : List Char :=
  let ends (a b : Char) : Bool := value.head? == some a && value.getLast? == some b
  if 1 < value.length && (ends '"' '"' || ends '<' '>') then value.tail.dropLast else value

/-- The encoding that a media type names. -/
def charset? (mediaType : String) : Option String :=
  (((items false ';' mediaType.toList).map parameter).lookup "charset".toList).map
    fun value => String.ofList (bare value)

end ApiCommands.MediaType

namespace ApiCommands

/-- What a server sends back. -/
structure Message where
  status : Int
  headers : List (String × String)
  body : String
  deriving DecidableEq, Repr

namespace Message

/-- The value of a header. Names do not depend on case, and a header that is given more than once
counts as one with its values in a row. -/
def header? (m : Message) (name : String) : Option String :=
  match m.headers.filter fun (n, _) => Text.lowered n == Text.lowered name with
  | [] => none
  | found => some (Text.joined ", " (found.map (·.2)))

/-- What a message carries, unpacked. -/
def content (m : Message) : Except Fault (List Nat) :=
  (Compression.unpack ((m.header? "content-encoding").getD "")
    (m.body.toUTF8.toList.map UInt8.toNat)).mapError .badCompression

/-- The encoding of a message's text. -/
def charset (m : Message) : Charset :=
  let named? := (m.header? "content-type").bind MediaType.charset?
  (named?.bind Charset.find?).getD (.utf8 false)

/-- The text of what a message carries. -/
def textOf (m : Message) : List Nat → Except Fault String
  | [] => .ok ""
  | bytes =>
    match Charset.decode m.charset bytes with
    | some s => .ok (String.ofList s)
    | none => .error .noByteOrder

/-- What a message tells, which is nothing if it cannot be unpacked. -/
def exchange (m : Message) : Exchange :=
  match m.content with
  | .ok bytes => .reply ⟨m.status, m.header?, m.textOf bytes⟩
  | .error f => .refusal f

end Message

end ApiCommands
