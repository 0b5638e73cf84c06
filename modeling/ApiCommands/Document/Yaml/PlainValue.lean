/-
What a plain scalar stands for.

A plain scalar is a truth value, a number, nothing, a date or, failing all of
these, its own text. Numbers may be grouped by underscores, be written in base
two, eight or sixteen, or have parts to base sixty between colons. The forms are
tried in a fixed order, so each text has one meaning.
-/
import ApiCommands.Document.Value
import ApiCommands.Document.Json.Reader
import ApiCommands.Document.Yaml.Cursor
import ApiCommands.Number.Numeral
import ApiCommands.Text.Pieces

namespace ApiCommands.Yaml

/-- A form that a text has, with what it stands for: a value, or no value where the form admits
texts that stand for none. -/
abbrev Meaning := Option (Except Unit Value)

/-- A digit or an underscore. -/
def isGrouped (p : Char → Bool) (c : Char) : Bool := p c || c == '_'

/-- A text without its underscores. -/
def ungroup (s : List Char) : List Char := s.filter (· != '_')

/-- A digit other than zero. -/
def isNonZeroDigit (c : Char) : Bool := c.isDigit && c != '0'

/-- A first digit, then digits and underscores. -/
def isDigitRun (first : Char → Bool) : List Char → Bool
  | c :: rest => first c && rest.all (isGrouped Char.isDigit)
  | [] => false

/-- A part to base sixty: one or two digits, at most 59. -/
def isSixtieth : List Char → Bool
  | [c] => c.isDigit
  | [c, d] => decide ('0' ≤ c) && decide (c ≤ '5') && d.isDigit
  | _ => false

/-- The value of digits to a base; none without digits. -/
def valueIn? (base : Nat) (digits : List Char) : Option Nat :=
  if digits.isEmpty then none
  else digits.foldl (fun n c => do some (base * (← n) + (← Text.hexValue? c))) (some 0)

/-- The value of decimal digits, unless they are too many. -/
def decimal? (digits : List Char) : Option Nat :=
  if Numeral.maxDigits < digits.length then none else some (Numeral.valueOf digits)

/-- The value of parts to base sixty. -/
def sexagesimal? (first : List Char) (others : List (List Char)) : Option Nat :=
  (decimal? first).map fun n => others.foldl (fun n part => 60 * n + Numeral.valueOf part) n

/-- The truth value a word stands for. -/
def truth? (s : List Char) : Option Bool :=
  let word := String.ofList s
  if ["yes", "Yes", "YES", "true", "True", "TRUE", "on", "On", "ON"].contains word then some true
  else if ["no", "No", "NO", "false", "False", "FALSE", "off", "Off", "OFF"].contains word then
    some false
  else none

/-- An exponent with its sign, or nothing at all. -/
def isExponent : List Char → Bool
  | [] => true
  | e :: sign :: digits =>
    (e == 'e' || e == 'E') && (sign == '+' || sign == '-') && !digits.isEmpty &&
      digits.all Char.isDigit
  | _ => false

/-- Digits around a point and an exponent, without a sign. -/
def isDecimal (s : List Char) : Bool :=
  let whole := s.takeWhile (isGrouped Char.isDigit)
  isDigitRun Char.isDigit whole &&
    match s.drop whole.length with
    | '.' :: rest => isExponent (rest.dropWhile (isGrouped Char.isDigit))
    | _ => false

/-- A point, digits and an exponent. -/
def isFraction : List Char → Bool
  | '.' :: c :: rest => c.isDigit && isExponent (rest.dropWhile (isGrouped Char.isDigit))
  | _ => false

/-- Parts to base sixty, of which the last has a point. -/
def isSixtiethDecimal (s : List Char) : Bool :=
  match s.dropWhile (· != '.') with
  | '.' :: fraction =>
    fraction.all (isGrouped Char.isDigit) &&
      match Text.splitOn ':' (s.takeWhile (· != '.')) with
      | first :: second :: more =>
        isDigitRun Char.isDigit first && (second :: more).all isSixtieth
      | _ => false
  | _ => false

/-- The sum of parts to base sixty, the last one counting once; it is rounded at every step, the
last part first. -/
def sixtieths (parts : List Binary64) : Binary64 :=
  (parts.reverse.foldl (fun (sum, base) part =>
    (sum.add (part.mul (.ofInt base)), 60 * base)) (Binary64.zero false, (1 : Int))).1

/-- A floating-point number. -/
def float? (s : List Char) : Option Binary64 :=
  let (negative, body) := Numeral.sign s
  let word := String.ofList body
  if [".inf", ".Inf", ".INF"].contains word then some (.infinity negative)
  else if [".nan", ".NaN", ".NAN"].contains (String.ofList s) then some .nan
  else if isDecimal body || isFraction s then
    Numeral.readDigits? negative (ungroup body)
  else if isSixtiethDecimal body then
    let parts := (Text.splitOn ':' (ungroup body)).filterMap (Numeral.readDigits? false)
    let size := sixtieths parts
    some (if negative then size.neg else size)
  else none

/-- The size of an integer in one of its forms; the inner `none` is a form
without digits, or with too many. -/
def natural? (s : List Char) : Option (Option Nat) :=
  match s with
  | '0' :: 'b' :: digits =>
    if !digits.isEmpty && digits.all (isGrouped fun c => c == '0' || c == '1') then
      some (valueIn? 2 (ungroup digits))
    else none
  | '0' :: 'x' :: digits =>
    if !digits.isEmpty && digits.all (isGrouped fun c => (Text.hexValue? c).isSome) then
      some (valueIn? 16 (ungroup digits))
    else none
  | '0' :: digits =>
    if digits.all (isGrouped fun c => decide ('0' ≤ c) && decide (c ≤ '7')) then
      some (valueIn? 8 ('0' :: ungroup digits))
    else none
  | _ =>
    if isDigitRun isNonZeroDigit s then some (decimal? (ungroup s))
    else
      match Text.splitOn ':' s with
      | first :: second :: more =>
        if isDigitRun isNonZeroDigit first && (second :: more).all isSixtieth then
          some (sexagesimal? (ungroup first) (second :: more))
        else none
      | _ => none

/-- An integer. -/
def int? (s : List Char) : Meaning :=
  let (negative, body) := Numeral.sign s
  match natural? body with
  | none => none
  | some none => some (.error ())
  | some (some n) =>
    let size : Int := n
    some (.ok (.int (if negative then -size else size)))

/-- A word for nothing. -/
def isNull (s : List Char) : Bool := ["~", "null", "Null", "NULL", ""].contains (String.ofList s)

/-- A run of `least` to `most` digits at the front, all there are, and the rest. -/
def digits? (least most : Nat) (s : List Char) : Option (Nat × List Char) :=
  let run := s.takeWhile Char.isDigit
  if decide (least ≤ run.length) && decide (run.length ≤ most) then
    some (Numeral.valueOf run, s.drop run.length)
  else none

/-- What follows a character. -/
def after? (c : Char) : List Char → Option (List Char)
  | d :: rest => if d = c then some rest else none
  | [] => none

/-- Millionths of a second from the digits behind the point: six of them count. -/
def microseconds (digits : List Char) : Nat :=
  let counted := digits.take 6
  Numeral.valueOf counted * Nat.pow 10 (6 - counted.length)

/-- How far a clock is ahead, as the end of a text: nothing, universal time, or signed hours with
minutes or without. -/
def offset? (s : List Char) : Option (Option Int) :=
  match s, s.dropWhile isBlank with
  | [], _ => some none
  | _, ['Z'] => some (some 0)
  | _, sign :: rest => do
    if sign != '+' && sign != '-' then none
    else
      let (hours, rest) ← digits? 1 2 rest
      let minutes ← match rest with
        | [] => some 0
        | ':' :: rest =>
          (digits? 2 2 rest).bind fun (n, rest) => if rest.isEmpty then some n else none
        | _ => none
      let size : Int := 60 * hours + minutes
      return some (if sign = '-' then -size else size)
  | _, [] => none

/-- A date by its parts, if their lengths fit one of the two forms. -/
def datePart? (alone : Bool) (s : List Char) : Option (Calendar.Date × List Char) := do
  let least := if alone then 2 else 1
  let (year, rest) ← digits? 4 4 s
  let (month, rest) ← digits? least 2 (← after? '-' rest)
  let (day, rest) ← digits? least 2 (← after? '-' rest)
  return (⟨year, month, day⟩, rest)

/-- The time of a point in time, behind its date. -/
def timePart? (date : Calendar.Date) (s : List Char) : Option Calendar.DateTime := do
  let rest := match s with
    | 'T' :: rest => rest
    | 't' :: rest => rest
    | s => s.dropWhile isBlank
  if rest.length = s.length then none
  else
    let (hour, rest) ← digits? 1 2 rest
    let (minute, rest) ← digits? 2 2 (← after? ':' rest)
    let (second, rest) ← digits? 2 2 (← after? ':' rest)
    let (fraction, rest) := match rest with
      | '.' :: rest => (rest.takeWhile Char.isDigit, rest.dropWhile Char.isDigit)
      | rest => ([], rest)
    return ⟨date, hour, minute, second, microseconds fraction, ← offset? rest⟩

/-- A date, whose month and day have two digits each. -/
def date? (s : List Char) : Meaning :=
  match datePart? true s with
  | some (d, []) => some (if d.isReal then .ok (.scalar (.date d)) else .error ())
  | _ => none

/-- A point in time, whose month and day have one digit or two. -/
def dateTime? (s : List Char) : Meaning :=
  ((datePart? false s).bind fun (date, rest) => timePart? date rest).map fun t =>
    if t.isReal then .ok (.scalar (.dateTime t)) else .error ()

/-- What a plain scalar stands for. -/
def plainValue (s : List Char) : Except Unit Value :=
  match truth? s with
  | some b => .ok (.bool b)
  | none =>
    match float? s with
    | some x => .ok (.float x)
    | none =>
      if isNull s then .ok .null
      else
        let other? := ((int? s).orElse fun _ => date? s).orElse fun _ => dateTime? s
        other?.getD (.ok (.text (String.ofList s)))

end ApiCommands.Yaml
