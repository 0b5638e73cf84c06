/-
Reading decimal numbers.

`readNumber?` reads a whole text as a number the way a header value is read: blanks
around it, a sign, single underscores between digits, a point with digits on at least
one side, an exponent, and the words for infinity and for no number. The digits may
be those of any script. `readInteger?` reads a whole text as an integer; one with too
many digits is none.
-/
import ApiCommands.Number.Binary64
import ApiCommands.Text.Blank
import ApiCommands.Text.Digits
import ApiCommands.Text.LetterCase

namespace ApiCommands.Numeral

/-- Most digits an integer may have. -/
def maxDigits : Nat := 4300

/-- The value of a text of decimal digits. -/
def valueOf (digits : List Char) : Nat :=
  digits.foldl (fun n c => 10 * n + (c.toNat - 48)) 0

/-- Further digits, each after at most one underscore. -/
def moreDigits : List Char → List Char × List Char
  | '_' :: c :: rest =>
    if c.isDigit then
      let (digits, rest) := moreDigits rest
      (c :: digits, rest)
    else ([], '_' :: c :: rest)
  | c :: rest =>
    if c.isDigit then
      let (digits, rest) := moreDigits rest
      (c :: digits, rest)
    else ([], c :: rest)
  | [] => ([], [])

/-- Digits with single underscores between them; at least one digit. -/
def groupedDigits? : List Char → Option (List Char × List Char)
  | c :: rest =>
    if c.isDigit then
      let (digits, rest) := moreDigits rest
      some (c :: digits, rest)
    else none
  | [] => none

/-- The sign at the front, if any: whether it is a minus. -/
def sign : List Char → Bool × List Char
  | '-' :: rest => (true, rest)
  | '+' :: rest => (false, rest)
  | s => (false, s)

/-- A text with the decimal digits of every script in ASCII. -/
def plain (s : List Char) : List Char :=
  s.map fun c => ((Text.decimalValue? c).map fun n => Char.ofNat (48 + n)).getD c

/-- A whole text as an integer: a sign, and digits with single underscores between them. -/
def readInteger? (s : List Char) : Option Int :=
  let (negative, body) := sign (plain (Text.trim s))
  match groupedDigits? body with
  | some (digits, []) =>
    let size : Int := valueOf digits
    if maxDigits < digits.length then none else some (if negative then -size else size)
  | _ => none

/-- An exponent that ends the text, or nothing at all. -/
def exponent? : List Char → Option Int
  | [] => some 0
  | c :: rest =>
    if c = 'e' ∨ c = 'E' then
      let (negative, rest) := sign rest
      match groupedDigits? rest with
      | some (digits, []) => some (if negative then -(valueOf digits : Int) else valueOf digits)
      | _ => none
    else none

/-- The number with these digits before and after the point. -/
def ofDigits (negative : Bool) (whole fraction : List Char) (exponent : Int) : Binary64 :=
  Binary64.ofDecimal negative (valueOf (whole ++ fraction)) (exponent - fraction.length)

/-- An unsigned number in digits. -/
def readDigits? (negative : Bool) (s : List Char) : Option Binary64 :=
  match groupedDigits? s with
  | some (whole, '.' :: rest) =>
    let (fraction, rest) := (groupedDigits? rest).getD ([], rest)
    (exponent? rest).map (ofDigits negative whole fraction)
  | some (whole, rest) => (exponent? rest).map (ofDigits negative whole [])
  | none =>
    match s with
    | '.' :: rest =>
      match groupedDigits? rest with
      | some (fraction, rest) => (exponent? rest).map (ofDigits negative [] fraction)
      | none => none
    | _ => none

/-- A whole text as a number. -/
def readNumber? (s : List Char) : Option Binary64 :=
  let (negative, body) := sign (plain (Text.trim s))
  let word := String.ofList (Text.lower body)
  if word = "inf" ∨ word = "infinity" then some (.infinity negative)
  else if word = "nan" then some .nan
  else readDigits? negative body

end ApiCommands.Numeral
