/-
Addresses in normal form.

The scheme and the host are written in small letters, the service number that the
scheme implies is left out, steps to the same or the next outer directory are taken,
and whatever may not stand where it stands is written in escapes. A request
brings its own query, so that of the address it is made from is dropped. An
address without a scheme or without a host is only a path. A text that is too
long, or that holds a control character, is no address.
-/
import ApiCommands.Call.Host
import ApiCommands.Charset.Utf8
import ApiCommands.Document.Json.Reader
import ApiCommands.Text.Base64
import ApiCommands.Text.Digits
import ApiCommands.Text.Half

namespace ApiCommands

/-- An address without its query. -/
structure Address where
  scheme : List Char
  user : List Char
  host : List Char
  service? : Option Int
  path : List Char
  fragment? : Option (List Char)
  deriving DecidableEq, Repr

namespace Address

/-- The length of an address and of each of its parts at most. -/
def maxLength : Nat := 65536

-- ====================================================== parts

/-- A character of a scheme. -/
def isSchemeChar (c : Char) : Bool := c.isAlphanum || c == '+' || c == '.' || c == '-'

/-- The scheme before the first colon, if the text starts with one, and the rest. -/
def cutScheme (s : List Char) : List Char × List Char :=
  let scheme := s.takeWhile isSchemeChar
  match s.drop scheme.length with
  | ':' :: rest => if (scheme.head?.map Char.isAlpha).getD true then (scheme, rest) else ([], s)
  | _ => ([], s)

/-- The authority after two slashes, and the rest. -/
def cutAuthority : List Char → List Char × List Char
  | '/' :: '/' :: rest =>
    let ends (c : Char) : Bool := c == '/' || c == '?' || c == '#'
    (rest.takeWhile (!ends ·), rest.dropWhile (!ends ·))
  | s => ([], s)

/-- User and host with its service number, at the last `@`. -/
def cutUser (authority : List Char) : List Char × List Char :=
  let host := (authority.reverse.takeWhile (· != '@')).reverse
  (authority.take (authority.length - host.length - 1), host)

/-- Host and service number, at the first colon outside brackets. -/
def cutService (s : List Char) : List Char × List Char :=
  let outside := (s.reverse.takeWhile (· != ']')).reverse
  let host := if s.head? == some '[' && s.contains ']' then s.take (s.length - outside.length)
    else s.takeWhile (· != ':')
  let rest := s.drop host.length
  (host, if rest.head? == some ':' then rest.drop 1 else rest)

/-- The service number a scheme implies. -/
def impliedService? (scheme : List Char) : Option Int :=
  [("ftp", 21), ("http", 80), ("https", 443), ("ws", 80), ("wss", 443)].lookup
    (String.ofList scheme)

/-- The service number of a text, unless it is the one that the scheme implies. -/
def readService (scheme s : List Char) : Except Fault (Option Int) :=
  if s.isEmpty then .ok none
  else
    match Numeral.readInteger? s with
    | some n => .ok (if impliedService? scheme = some n then none else some n)
    | none => .error .invalidAddress

/-- A part of an address with escapes for the characters outside `keep`. -/
def escape (keep : Char → Bool) (s : List Char) : Except Fault (List Char) :=
  if Text.hasBytes s then .ok (Text.Percent.escapeExcept keep s) else .error .unencodable

-- ====================================================== paths

/-- The pieces of a path with the steps in it taken, innermost piece first. -/
def takeSteps : List (List Char) → List (List Char) → List (List Char)
  | taken, [] => taken
  | taken, piece :: rest =>
    if piece = ['.'] then takeSteps taken rest
    else if piece = ['.', '.'] then
      takeSteps (if taken = [[]] then taken else taken.tail) rest
    else takeSteps (piece :: taken) rest

/-- A path with the steps in it taken. -/
def normalPath (path : List Char) : List Char :=
  let pieces := Text.splitOn '/' path
  if pieces.contains ['.'] || pieces.contains ['.', '.'] then
    Text.join ['/'] (takeSteps [] pieces).reverse
  else path

-- ====================================================== whole addresses

/-- The text can be taken apart. -/
def isLegible (s : List Char) : Bool :=
  decide (s.length ≤ maxLength) && s.all fun c => decide (32 ≤ c.toNat) && c.toNat != 127

/-- A path that would be taken for something else at the start of an address. -/
def isMisleading (path : List Char) : Bool :=
  ['/', '/'].isPrefixOf path || [':'].isPrefixOf path

/-- The address of a text. -/
def read (s : List Char) : Except Fault Address := do
  if !isLegible s then throw .invalidAddress
  let (scheme, rest) := cutScheme s
  let (authority, rest) := cutAuthority rest
  let (path, rest) := rest.span fun c => c != '?' && c != '#'
  let (query, rest) := rest.span (· != '#')
  let scheme := scheme.map Char.toLower
  let (user, machine) := cutUser authority
  let (host, service) := cutService machine
  let user ← escape Text.Percent.mayStandInUser user
  let host ← Host.read host
  let service? ← readService scheme service
  let isBare := scheme.isEmpty && user.isEmpty && host.isEmpty && service?.isNone
  if isBare && isMisleading path then throw .invalidAddress
  let path ← escape Text.Percent.mayStandInPath (if isBare then path else normalPath path)
  let query ← escape Text.Percent.mayStandInQuery (query.drop 1)
  let fragment ← escape Text.Percent.mayStandInFragment (rest.drop 1)
  let isRelative := scheme.isEmpty || host.isEmpty
  let others := if isRelative then [query] else [user ++ host, fragment]
  if (path :: others).any (maxLength < ·.length) then throw .invalidAddress
  if !isRelative && !Text.isAscii host then throw .unencodable
  if isRelative then return ⟨[], [], [], none, '/' :: path.dropWhile (· == '/'), none⟩
  return ⟨scheme, user, host, service?, path, if rest.isEmpty then none else some fragment⟩

/-- The address leads to a host. -/
def hasHost (a : Address) : Bool := !a.scheme.isEmpty

/-- The name and the password of the user, if one of them is given, the way a request carries
them. -/
def credentials? (a : Address) : Option String :=
  let plain (s : List Char) : List UInt8 :=
    (Charset.Utf8.decode ((Text.Percent.bytesOf s).map UInt8.toNat)).flatMap String.utf8EncodeChar
  let (name, password) := (Text.cutAt ':' a.user).getD (a.user, [])
  if name.isEmpty && password.isEmpty then none
  else some ("Basic " ++ String.ofList (Text.Base64.encode (plain name ++ 58 :: plain password)))

/-- The text of user, host and service number. -/
def authority (a : Address) : List Char :=
  (if a.user.isEmpty then [] else a.user ++ ['@']) ++ a.host
    ++ (a.service?.map fun n => ':' :: (toString n).toList).getD []

/-- A query, each part form-encoded. -/
def queryText (pairs : List (String × String)) : List Char :=
  Text.join ['&'] (pairs.map fun (k, v) =>
    Text.Percent.encodeForm k.toList ++ '=' :: Text.Percent.encodeForm v.toList)

/-- The pairs make a query. -/
def checkQuery (pairs : List (String × String)) : Except Fault Unit :=
  if !pairs.all fun (k, v) => Text.hasBytes k.toList && Text.hasBytes v.toList then
    .error .unencodable
  else if maxLength < (queryText pairs).length then .error .invalidAddress
  else .ok ()

/-- The text of an address with a query. -/
def text (a : Address) (query : List (String × String)) : String :=
  String.ofList ((if a.hasHost then a.scheme ++ ':' :: '/' :: '/' :: a.authority else []) ++ a.path
    ++ (if query.isEmpty then [] else '?' :: queryText query)
    ++ (match a.fragment? with | some f => '#' :: f | none => []))

end Address

end ApiCommands
