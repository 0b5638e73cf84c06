/-
A document value in running text.

`Value.display` is the value as a message shows it: text as it is, truth values
and nothing by their capitalised words, numbers in their shortest form, and
lists and mappings with their parts in literal form (`Value.literal`), where
text is quoted. An integer with too many digits is not written, and neither is a
value with such an integer in it.
-/
import ApiCommands.Document.Value
import ApiCommands.Number.Shortest
import ApiCommands.Outcome.Fault
import ApiCommands.Text.Quoted
import ApiCommands.Text.Pieces

namespace ApiCommands

/-- One byte inside a literal of bytes. -/
def byteLiteral (quote : Char) (b : UInt8) : List Char :=
  let c := Char.ofNat b.toNat
  if c = quote ∨ c = '\\' then ['\\', c]
  else if c = '\t' then ['\\', 't']
  else if c = '\n' then ['\\', 'n']
  else if c = '\r' then ['\\', 'r']
  else if 32 ≤ b.toNat ∧ b.toNat < 127 then [c]
  else '\\' :: 'x' :: Text.hexadecimal 2 b.toNat

/-- Bytes as a literal. -/
def bytesLiteral (bs : List UInt8) : String :=
  let quote := Text.Quoted.quoteFor (bs.map fun b => Char.ofNat b.toNat)
  String.ofList ('b' :: quote :: bs.flatMap (byteLiteral quote) ++ [quote])

/-- Numbers in parentheses behind a name. -/
def numbersLiteral (name : String) (parts : List String) : String :=
  name ++ "(" ++ Text.joined ", " parts ++ ")"

/-- A date in literal form. -/
def dateLiteral (d : Calendar.Date) : String :=
  numbersLiteral "datetime.date" ([d.year, d.month, d.day].map toString)

/-- How far a clock is ahead, in literal form: whole days, which may be negative, and seconds. -/
def offsetLiteral (minutes : Int) : String :=
  let seconds := 60 * minutes
  if seconds = 0 then "datetime.timezone.utc"
  else
    numbersLiteral "datetime.timezone"
      [numbersLiteral "datetime.timedelta"
        ((if seconds < 0 then ["days=-1"] else [])
          ++ ["seconds=" ++ toString (seconds % 86400)])]

/-- A point in time in literal form, without the seconds and their fractions where these are
zero. -/
def dateTimeLiteral (t : Calendar.DateTime) : String :=
  let seconds :=
    if t.microsecond = 0 then (if t.second = 0 then [] else [t.second])
    else [t.second, t.microsecond]
  numbersLiteral "datetime.datetime"
    (([t.date.year, t.date.month, t.date.day, t.hour, t.minute] ++ seconds).map toString
      ++ (t.offset?.map fun n => "tzinfo=" ++ offsetLiteral n).toList)

/-- The digits of an integer, if they are not too many. -/
def integerLiteral (n : Int) : Except Fault String :=
  if Numeral.maxDigits < (toString n.natAbs).length then .error .badNumeral
  else .ok (toString n)

section

variable [Text.Halves]

/-- A scalar in literal form. -/
def Scalar.literal : Scalar → Except Fault String
  | null => .ok "None"
  | bool true => .ok "True"
  | bool false => .ok "False"
  | int n => integerLiteral n
  | float x => .ok x.text
  | text s => .ok (Text.quoted s)
  | bytes bs => .ok (bytesLiteral bs)
  | date d => .ok (dateLiteral d)
  | dateTime t => .ok (dateTimeLiteral t)

/-- A scalar as a message shows it. -/
def Scalar.display : Scalar → Except Fault String
  | text s => .ok s
  | date d => .ok d.iso
  | dateTime t => .ok (t.text " ")
  | s => s.literal

namespace Value

mutual

/-- A value in literal form. -/
def literal : Value → Except Fault String
  | scalar s => s.literal
  | list items => return "[" ++ Text.joined ", " (← literals items) ++ "]"
  | map entries => return Text.braced (Text.joined ", " (← entryLiterals entries))

/-- The items of a list in literal form. -/
def literals : List Value → Except Fault (List String)
  | [] => .ok []
  | v :: rest => return (← v.literal) :: (← literals rest)

/-- The entries of a mapping in literal form. -/
def entryLiterals : List (Scalar × Value) → Except Fault (List String)
  | [] => .ok []
  | (k, v) :: rest =>
    return ((← k.literal) ++ ": " ++ (← v.literal)) :: (← entryLiterals rest)

end

/-- A value as a message shows it. -/
def display : Value → Except Fault String
  | scalar s => s.display
  | v => v.literal

end Value

end

namespace Value

/-- The word for the kind of a value. -/
def kindName : Value → String
  | scalar .null => "NoneType"
  | scalar (.bool _) => "bool"
  | scalar (.int _) => "int"
  | scalar (.float _) => "float"
  | scalar (.text _) => "str"
  | scalar (.bytes _) => "bytes"
  | scalar (.date _) => "date"
  | scalar (.dateTime _) => "datetime"
  | list _ => "list"
  | map _ => "dict"

end Value

end ApiCommands
