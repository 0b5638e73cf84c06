/-
Integers written in a text.

Blanks around the number do not count, nor do zeros in front of it, a plus sign,
or zeros behind a point. A single underscore may stand between two digits. A
number of too many digits is refused apart from texts that are no number.
-/
import ApiCommands.Number.Numeral
import ApiCommands.Outcome.Issue
import ApiCommands.Text.Pieces

namespace ApiCommands.WrittenInt

/-- A blank around a number. The separators of information are none. -/
def isAround (c : Char) : Bool :=
  Text.isBlankChar c && !(decide (28 ≤ c.toNat) && decide (c.toNat < 32))

/-- The text behind its leading zeros, of which `last` is the one read last: from the first other
digit on, with the last zero before a point, and never empty. -/
def afterZeros (last : Char) : List Char → Option (List Char)
  | [] => some [last]
  | c :: rest =>
    if c = '0' ∨ c = '_' then afterZeros c rest
    else if c.isDigit then some (c :: rest)
    else if c = '.' then some (last :: c :: rest)
    else none

/-- The text without leading zeros. It has to start with a digit or a minus sign, and behind a
minus sign zeros stay. -/
def withoutZeros : List Char → Option (List Char)
  | '0' :: rest => afterZeros '0' rest
  | c :: rest => if c.isDigit || c == '-' then some (c :: rest) else none
  | [] => none

/-- The text before a point that only zeros follow. -/
def beforePoint (s : List Char) : List Char :=
  match Text.cutAt '.' s with
  | some (whole, zeros) => if zeros.all (· == '0') then whole else s
  | none => s

/-- The text without underscores, each of which has to stand alone inside it. -/
def ungrouped (s : List Char) : Option (List Char) :=
  let groups := Text.splitOn '_' s
  if groups.any (·.isEmpty) then none else some groups.flatten

/-- The digits of a text with what has no meaning left out. -/
def core? (s : List Char) : Option (List Char) :=
  let unsigned := match Text.trimBy isAround s with
    | '+' :: '-' :: _ => none
    | '+' :: rest => some rest
    | s => some s
  (unsigned.bind withoutZeros).bind fun s => ungrouped (beforePoint s)

/-- Most characters of a number, its sign included. -/
def maxLength : Nat := 4300

/-- The sign and the digits at the front, if the first digit is no zero. -/
def run (s : List Char) : List Char :=
  let sign := s.takeWhile (· == '-') |>.take 1
  let digits := (s.drop sign.length).takeWhile Char.isDigit
  if digits.head? = some '0' then [] else sign ++ digits

/-- The number in its canonical form: `0`, or a sign and digits that do not start with a zero. -/
def canonical? (s : List Char) : Option Int :=
  let (negative, digits) := match s with
    | '-' :: rest => (true, rest)
    | s => (false, s)
  if digits = ['0'] then some 0
  else if digits.isEmpty || run s != s then none
  else
    let size : Int := Numeral.valueOf digits
    some (if negative then -size else size)

/-- The integer a text stands for, or what is wrong with it. -/
def read (s : List Char) : Except IssueKind Int :=
  if maxLength < (run s).length then .error .intParsingSize
  else match core? s with
    | none => .error .intParsing
    | some digits =>
      if maxLength < (run digits).length then .error .intParsingSize
      else match canonical? digits with
        | some n => .ok n
        | none => .error .intParsing

end ApiCommands.WrittenInt
