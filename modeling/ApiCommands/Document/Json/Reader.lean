/-
Reading JSON text.

The reader keeps the order of members, tells integers from floating-point
numbers, and accepts the three number words `NaN`, `Infinity` and `-Infinity`.
What it refuses it refuses with a `Problem` at a position: each message names
the line, the column and the index, all counted in characters. Two limits stand
apart: integers of too many digits and values nested too deep are not read.

A position is the number of characters read so far, so the readers below take
the rest of the text together with it.
-/
import ApiCommands.Document.Value
import ApiCommands.Number.Numeral
import ApiCommands.Text.Digits
import ApiCommands.Text.Half

namespace ApiCommands.Json

/-- Why a text is no JSON. -/
inductive Problem where
  | expectingValue
  | expectingName
  | expectingColon
  | expectingComma
  | extraData
  | controlCharacter
  | invalidEscape
  | invalidUnicodeEscape
  | unterminatedString
  | byteOrderMark
  deriving DecidableEq, Repr

/-- The words for a problem. -/
def Problem.text : Problem → String
  | expectingValue => "Expecting value"
  | expectingName => "Expecting property name enclosed in double quotes"
  | expectingColon => "Expecting ':' delimiter"
  | expectingComma => "Expecting ',' delimiter"
  | extraData => "Extra data"
  | controlCharacter => "Invalid control character at"
  | invalidEscape => "Invalid \\escape"
  | invalidUnicodeEscape => "Invalid \\uXXXX escape"
  | unterminatedString => "Unterminated string starting at"
  | byteOrderMark => "Unexpected UTF-8 BOM (decode using utf-8-sig)"

/-- A limit of the reader. -/
inductive Limit where
  /-- The digits of an integer. -/
  | digits
  /-- The values around a value. -/
  | depth
  deriving DecidableEq, Repr

/-- Why reading stopped: a problem at a position, or a text beyond a limit. -/
inductive Failure where
  | problem (p : Problem) (position : Nat)
  | beyond (l : Limit)
  deriving DecidableEq, Repr

/-- A problem with its place in the text. -/
structure Misreading where
  problem : Problem
  line : Nat
  column : Nat
  position : Nat
  deriving DecidableEq, Repr

/-- The message of a misreading. -/
def Misreading.message (m : Misreading) : String :=
  m.problem.text ++ ": line " ++ toString m.line ++ " column " ++ toString m.column ++ " (char "
    ++ toString m.position ++ ")"

/-- Where a position of the text is, by line and column. -/
def Misreading.locate (s : List Char) (p : Problem) (position : Nat) : Misreading :=
  let before := s.take position
  { problem := p
    line := before.count '\n' + 1
    column := (before.reverse.takeWhile (· != '\n')).length + 1
    position := position }

/-- The rest of the text and the position it starts at. -/
structure Cursor where
  rest : List Char
  position : Nat

/-- The cursor `n` characters further on. -/
def Cursor.advance (c : Cursor) (n : Nat) : Cursor := ⟨c.rest.drop n, c.position + n⟩

/-- Blanks between tokens. -/
def isSpace (c : Char) : Bool := c == ' ' || c == '\t' || c == '\n' || c == '\r'

/-- The cursor at the next token. -/
def Cursor.skipSpaces (c : Cursor) : Cursor :=
  c.advance (c.rest.takeWhile isSpace).length

/-- The value of four hexadecimal digits. -/
def hexFour? (s : List Char) : Option Nat :=
  let digits := s.take 4
  if digits.length < 4 then none
  else digits.foldl (fun n c => do some (16 * (← n) + (← Text.hexValue? c))) (some 0)

/-- The character a two-character escape stands for. -/
def simpleEscape? (c : Char) : Option Char :=
  match c with
  | '"' => some '"'
  | '\\' => some '\\'
  | '/' => some '/'
  | 'b' => some (Char.ofNat 8)
  | 'f' => some (Char.ofNat 12)
  | 'n' => some '\n'
  | 'r' => some '\r'
  | 't' => some '\t'
  | _ => none

/-- What a `\u` escape stands for and how many characters follow the `u`. `digits` is the text
after the `u`, and `position` that of the `u`. -/
def unicodeEscape (digits : List Char) (position : Nat) : Except Failure (Char × Nat) :=
  if (digits.drop 4).isEmpty then .error (.problem .invalidUnicodeEscape position)
  else match hexFour? digits with
    | none => .error (.problem .invalidUnicodeEscape position)
    | some high =>
      match digits.drop 4 with
      | '\\' :: 'u' :: more =>
        if 0xD800 ≤ high ∧ high < 0xDC00 ∧ !(more.drop 4).isEmpty then
          match hexFour? more with
          | none => .error (.problem .invalidUnicodeEscape (position + 6))
          | some low =>
            if 0xDC00 ≤ low ∧ low < 0xE000 then
              .ok (Char.ofNat (0x10000 + (high - 0xD800) * 1024 + (low - 0xDC00)), 10)
            else .ok (Text.unitChar high, 4)
        else .ok (Text.unitChar high, 4)
      | _ => .ok (Text.unitChar high, 4)

/-- The characters of a string up to its closing quote. `start` is the position of the opening
quote; what has been read is kept in reverse. -/
def stringBody (start : Nat) (read : List Char) (s : List Char) (position : Nat) :
    Except Failure (List Char × Cursor) :=
  match s with
  | [] => .error (.problem .unterminatedString start)
  | '"' :: rest => .ok (read.reverse, ⟨rest, position + 1⟩)
  | '\\' :: 'u' :: rest =>
    match unicodeEscape rest (position + 1) with
    | .error e => .error e
    | .ok (c, n) => stringBody start (c :: read) (rest.drop n) (position + 2 + n)
  | '\\' :: c :: rest =>
    match simpleEscape? c with
    | none => .error (.problem .invalidEscape position)
    | some e => stringBody start (e :: read) rest (position + 2)
  | ['\\'] => .error (.problem .unterminatedString start)
  | c :: rest =>
    if c.toNat < 32 then .error (.problem .controlCharacter position)
    else stringBody start (c :: read) rest (position + 1)
termination_by s.length
decreasing_by all_goals simp_wf <;> omega

/-- A string at the cursor, which stands on its opening quote. -/
def string (c : Cursor) : Except Failure (String × Cursor) :=
  match stringBody c.position [] (c.rest.drop 1) (c.position + 1) with
  | .error e => .error e
  | .ok (s, next) => .ok (String.ofList s, next)

/-- The digits after a point, if the point is followed by one. -/
def fractionPart : List Char → List Char
  | '.' :: rest => rest.takeWhile Char.isDigit
  | _ => []

/-- How many characters the sign at the front takes. -/
def signLength : List Char → Nat
  | '-' :: _ => 1
  | '+' :: _ => 1
  | _ => 0

/-- The mark, the sign and the digits of an exponent, if it has digits: how many characters it
takes, and its value. -/
def exponentPart? : List Char → Option (Nat × Int)
  | c :: rest =>
    if c = 'e' ∨ c = 'E' then
      let (negative, unsigned) := Numeral.sign rest
      let digits := unsigned.takeWhile Char.isDigit
      if digits.isEmpty then none
      else
        let value : Int := Numeral.valueOf digits
        some (1 + signLength rest + digits.length,
          if negative then -value else value)
    else none
  | [] => none

/-- The digits before the point: one zero, or any digits that start with another. -/
def wholePart : List Char → List Char
  | '0' :: _ => ['0']
  | s => s.takeWhile Char.isDigit

/-- Most lists and mappings that may stand one inside the other. -/
def maxDepth : Nat := 985

/-- A number at the cursor. -/
def number (c : Cursor) : Except Failure (Value × Cursor) :=
  let (negative, unsigned) := match c.rest with
    | '-' :: rest => (true, rest)
    | s => (false, s)
  let whole := wholePart unsigned
  if whole.isEmpty then .error (.problem .expectingValue c.position)
  else
    let afterWhole := unsigned.drop whole.length
    let fraction := fractionPart afterWhole
    let fractionLength := if fraction.isEmpty then 0 else fraction.length + 1
    let afterFraction := afterWhole.drop fractionLength
    let length := (if negative then 1 else 0) + whole.length + fractionLength
    match exponentPart? afterFraction with
    | some (n, exponent) =>
      .ok (.float (Numeral.ofDigits negative whole fraction exponent), c.advance (length + n))
    | none =>
      if fraction.isEmpty then
        if Numeral.maxDigits < whole.length then .error (.beyond .digits)
        else
          let value : Int := Numeral.valueOf whole
          .ok (.int (if negative then -value else value), c.advance length)
      else .ok (.float (Numeral.ofDigits negative whole fraction 0), c.advance length)

/-- The words that stand for values. -/
def words : List (List Char × Value) :=
  [("null".toList, .null), ("true".toList, .bool true), ("false".toList, .bool false),
    ("NaN".toList, .float .nan), ("Infinity".toList, .float (.infinity false)),
    ("-Infinity".toList, .float (.infinity true))]

/-- A word at the cursor. -/
def word? (c : Cursor) : Option (Value × Cursor) :=
  (words.find? fun (w, _) => w.isPrefixOf c.rest).map fun (w, v) => (v, c.advance w.length)

mutual

/-- A value at the cursor, in which lists and mappings may stand `depth` deep. `fuel` bounds the
nesting and the number of items together. -/
def value (fuel depth : Nat) (c : Cursor) : Except Failure (Value × Cursor) :=
  match fuel with
  | 0 => .error (.problem .expectingValue c.position)
  | fuel + 1 =>
    match c.rest with
    | '"' :: _ =>
      match string c with
      | .error e => .error e
      | .ok (s, next) => .ok (.text s, next)
    | '{' :: _ =>
      match depth with
      | 0 => .error (.beyond .depth)
      | depth + 1 =>
        let first := (c.advance 1).skipSpaces
        match first.rest with
        | '}' :: _ => .ok (.map [], first.advance 1)
        | _ => members fuel depth [] first
    | '[' :: _ =>
      match depth with
      | 0 => .error (.beyond .depth)
      | depth + 1 =>
        let first := (c.advance 1).skipSpaces
        match first.rest with
        | ']' :: _ => .ok (.list [], first.advance 1)
        | _ => items fuel depth [] first
    | _ =>
      match word? c with
      | some answer => .ok answer
      | none => number c

/-- The members of an object from the cursor on; those read are kept in reverse. -/
def members (fuel depth : Nat) (read : List (Scalar × Value)) (c : Cursor) :
    Except Failure (Value × Cursor) :=
  match fuel with
  | 0 => .error (.problem .expectingName c.position)
  | fuel + 1 =>
    match c.rest with
    | '"' :: _ =>
      match string c with
      | .error e => .error e
      | .ok (name, afterName) =>
        let colon := afterName.skipSpaces
        match colon.rest with
        | ':' :: _ =>
          match value fuel depth (colon.advance 1).skipSpaces with
          | .error e => .error e
          | .ok (v, afterValue) =>
            let next := afterValue.skipSpaces
            let read := (.text name, v) :: read
            match next.rest with
            | '}' :: _ => .ok (.map (Entries.ofList read.reverse), next.advance 1)
            | ',' :: _ => members fuel depth read (next.advance 1).skipSpaces
            | _ => .error (.problem .expectingComma next.position)
        | _ => .error (.problem .expectingColon colon.position)
    | _ => .error (.problem .expectingName c.position)

/-- The items of an array from the cursor on; those read are kept in reverse. -/
def items (fuel depth : Nat) (read : List Value) (c : Cursor) :
    Except Failure (Value × Cursor) :=
  match fuel with
  | 0 => .error (.problem .expectingValue c.position)
  | fuel + 1 =>
    match value fuel depth c with
    | .error e => .error e
    | .ok (v, afterValue) =>
      let next := afterValue.skipSpaces
      match next.rest with
      | ']' :: _ => .ok (.list (v :: read).reverse, next.advance 1)
      | ',' :: _ => items fuel depth (v :: read) (next.advance 1).skipSpaces
      | _ => .error (.problem .expectingComma next.position)

end

/-- A whole text as a value. Every step of the readers above either takes a character or opens a
value, so twice the length of the text is fuel enough. -/
def read (s : List Char) : Except Failure Value :=
  if s.head? = some (Char.ofNat 0xFEFF) then .error (.problem .byteOrderMark 0)
  else
    let start := (Cursor.mk s 0).skipSpaces
    match value (2 * s.length + 2) maxDepth start with
    | .error e => .error e
    | .ok (v, afterValue) =>
      let finish := afterValue.skipSpaces
      if finish.rest.isEmpty then .ok v else .error (.problem .extraData finish.position)

/-- Why a string is no JSON. -/
inductive ReadError where
  | misread (m : Misreading)
  | beyond (l : Limit)
  deriving DecidableEq, Repr

/-- A whole string as a value. -/
def parse (s : String) : Except ReadError Value :=
  match read s.toList with
  | .ok v => .ok v
  | .error (.problem p position) => .error (.misread (Misreading.locate s.toList p position))
  | .error (.beyond l) => .error (.beyond l)

end ApiCommands.Json
