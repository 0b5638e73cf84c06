/-
Hosts: the machines that addresses lead to.

A host is a row of four octets, a row of eight groups in brackets, or a name. Of
the groups a run of zeros may be left out, the last two may be written as four
octets, and a scope may follow. What looks like octets has to be four of them. A
name in ASCII is written in small letters with escapes, any other as a domain
name.
-/
import ApiCommands.DomainName
import ApiCommands.Number.Numeral
import ApiCommands.Outcome.Error
import ApiCommands.Text.Percent

namespace ApiCommands.Host

-- ====================================================== octets

/-- A number below 256, without zeros in front. -/
def isOctet (s : List Char) : Bool :=
  !s.isEmpty && decide (s.length ≤ 3) && s.all Char.isDigit
    && (s.length == 1 || s.head? != some '0') && decide (Numeral.valueOf s < 256)

/-- Four octets with points between them. -/
def isOctets (s : List Char) : Bool :=
  let octets := Text.splitOn '.' s
  octets.length == 4 && octets.all isOctet

/-- Four rows of digits, with one character of any kind between two of them. A digit with digits
on both sides can be such a character too. -/
def looksLikeOctets (s : List Char) : Bool :=
  let rows := Text.splitWhere (!Char.isDigit ·) s
  let between := rows.length - 1
  let inside := (rows.map fun row => (row.length - 1) / 2).foldl (· + ·) 0
  !rows.any List.isEmpty && decide (between ≤ 3) && decide (3 ≤ between + inside)

-- ====================================================== groups

/-- A hexadecimal number of four digits at most. -/
def isGroup (s : List Char) : Bool :=
  !s.isEmpty && decide (s.length ≤ 4) && s.all (Text.hexValue? · |>.isSome)

/-- How many groups there are in a row, if there is nothing else. -/
def countGroups? (s : List Char) : Option Nat :=
  if s.isEmpty then some 0
  else
    let groups := Text.splitOn ':' s
    if groups.all isGroup then some groups.length else none

/-- As `countGroups?`, but four octets may stand for the last two groups. -/
def countLastGroups? (s : List Char) : Option Nat :=
  let groups := Text.splitOn ':' s
  if groups.getLast?.any isOctets then
    if groups.dropLast.all isGroup then some (groups.length + 1) else none
  else countGroups? s

/-- What is before and after the first two colons in a row. -/
def cutAtGap : List Char → Option (List Char × List Char)
  | ':' :: ':' :: rest => some ([], rest)
  | c :: rest => (cutAtGap rest).map fun (before, after) => (c :: before, after)
  | [] => none

/-- Eight groups, some of which may be left out in one place. -/
def isGroups (s : List Char) : Bool :=
  match cutAtGap s with
  | none => countLastGroups? s == some 8
  | some (before, after) =>
    match countGroups? before, countLastGroups? after with
    | some m, some n => decide (m + n ≤ 7)
    | _, _ => false

/-- Groups, with or without a scope. -/
def isScopedGroups (s : List Char) : Bool :=
  match Text.cutAt '%' s with
  | none => isGroups s
  | some (groups, scope) => isGroups groups && !scope.isEmpty && !scope.contains '%'

-- ====================================================== names

/-- A character that a name in ASCII holds as it is. -/
def mayStandInName (c : Char) : Bool :=
  Text.Percent.isUnreserved c
    || ['!', '$', '&', '\'', '(', ')', '*', '+', ',', ';', '=', '"', '\x60', '{', '}', '%', '|',
      '\\'].contains c

/-- A name in ASCII in normal form. -/
def plainName (s : List Char) : List Char :=
  (Text.Percent.escapeExcept mayStandInName (s.map Char.toLower)).map Char.toLower

/-- Brackets around a text. -/
def isBracketed (s : List Char) : Bool :=
  decide (2 ≤ s.length) && s.head? == some '[' && s.getLast? == some ']'

/-- A host in normal form. -/
def read (s : List Char) : Except Fault (List Char) :=
  if s.isEmpty then .ok []
  else if looksLikeOctets s then
    if isOctets s then .ok s else .error .invalidAddress
  else if isBracketed s then
    if isScopedGroups s.tail.dropLast then .ok s else .error .invalidAddress
  else if Text.isAscii s then .ok (plainName s)
  else
    match DomainName.encode? (Text.lower s) with
    | some name => .ok name
    | none => .error .invalidAddress

end ApiCommands.Host
