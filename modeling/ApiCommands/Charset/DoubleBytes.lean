/-
Encodings with ASCII in single bytes and other characters in pairs of bytes.

Both bytes of a pair, or at least the first, lie beyond ASCII, and together they
name a place in the rows of a character set. A byte that starts no character
becomes the replacement character, and so does a character that the end of the
text cuts off.
-/
import ApiCommands.Charset.ChineseRows
import ApiCommands.Charset.JapaneseRows
import ApiCommands.Charset.KoreanRows
import ApiCommands.Charset.TaiwaneseRows
import ApiCommands.Charset.Utf8

namespace ApiCommands.Charset

/-- The sets of characters, each in its encoding. -/
inductive DoubleBytes where
  | gb2312
  | gbk
  | gb18030
  | big5
  | cp950
  | shiftJis
  | cp932
  | eucJp
  | eucKr
  | cp949
  deriving DecidableEq, Repr

/-- What stands at the front of a text. -/
inductive Front where
  /-- A character, with so many bytes after its first. -/
  | char (c : Char) (more : Nat)
  /-- A byte that starts no character. -/
  | bad
  /-- A character that is cut off. -/
  | cut

namespace DoubleBytes

/-- The number lies between two others. -/
def within (low high n : Nat) : Bool := decide (low ≤ n) && decide (n ≤ high)

-- ====================================================== places

/-- A place among 94 rows of 94. -/
def squarePlace? (a b : Nat) : Option Nat :=
  if within 0xA1 0xFE a && within 0xA1 0xFE b then some ((a - 0xA1) * 94 + (b - 0xA1)) else none

/-- A place among the rows of the extended Chinese set. -/
def chinesePlace? (a b : Nat) : Option Nat :=
  if !within 0x81 0xFE a then none
  else if within 0x40 0x7E b then some ((a - 0x81) * 190 + (b - 0x40))
  else if within 0x80 0xFE b then some ((a - 0x81) * 190 + (b - 0x41))
  else none

/-- A place among the rows of the Taiwanese set. -/
def taiwanesePlace? (a b : Nat) : Option Nat :=
  if !within 0xA1 0xF9 a then none
  else if within 0x40 0x7E b then some ((a - 0xA1) * 157 + (b - 0x40))
  else if within 0xA1 0xFE b then some ((a - 0xA1) * 157 + (b - 0x62))
  else none

/-- A place among the Japanese rows, two of which share a first byte. -/
def shiftedPlace? (a b : Nat) : Option Nat :=
  let pairOfRows? :=
    if within 0x81 0x9F a then some (a - 0x81)
    else if within 0xE0 0xFC a then some (a - 0xC1)
    else none
  let inPair? :=
    if within 0x40 0x7E b then some (b - 0x40)
    else if within 0x80 0xFC b then some (b - 0x41)
    else none
  match pairOfRows?, inPair? with
  | some rows, some place => some (rows * 188 + place)
  | _, _ => none

-- ====================================================== pairs

/-- Characters that the extended Chinese set has among those of the plain one: first byte, and
the first and the last of the second bytes. -/
def notPlain : List (Nat × Nat × Nat) :=
  [(0xA2, 0xA1, 0xAA), (0xA6, 0xE0, 0xEB), (0xA6, 0xEE, 0xF2), (0xA6, 0xF4, 0xF5),
    (0xA8, 0xBB, 0xBB), (0xA8, 0xBD, 0xBE), (0xA8, 0xC0, 0xC0)]

/-- A pair of the plain Chinese set. -/
def plainChinese? (a b : Nat) : Option Char :=
  if a = 0xA1 ∧ b = 0xA4 then some '\u30FB'
  else if a = 0xA1 ∧ b = 0xAA then some '\u2015'
  else if !within 0xA1 0xF7 a || !within 0xA1 0xFE b then none
  else if notPlain.any fun (first, low, high) => first == a && within low high b then none
  else (chinesePlace? a b).bind gbkRows.at?

/-- A pair of the later Chinese set. -/
def laterChinese? (a b : Nat) : Option Char :=
  (chinesePlace? a b).bind fun place =>
    ((gbkRows.at? place).orElse fun _ => gb18030Rows.at? place).orElse fun _ =>
      (gb18030Private.findSome? (·.move? place)).map Char.ofNat

/-- A pair of the extended Japanese set; twenty rows after the first 94 are private. -/
def extendedJapanese? (a b : Nat) : Option Char :=
  (shiftedPlace? a b).bind fun place =>
    if within 8836 10715 place then some (Char.ofNat (0xE000 + (place - 8836)))
    else (cp932Rows.at? place).orElse fun _ => jisRows.at? place

/-- The place of a pair among those that the extended Korean set has outside the square. -/
def outerKorean? (a b : Nat) : Option Nat :=
  let column? :=
    if within 0x41 0x5A b then some (b - 0x41)
    else if within 0x61 0x7A b then some (b - 0x47)
    else if within 0x81 0xFE b then some (b - 0x4D)
    else none
  column?.bind fun column =>
    if within 0x81 0xA0 a then some ((a - 0x81) * 178 + column)
    else if within 0xA1 0xC6 a && decide (column < 84) then
      some (32 * 178 + (a - 0xA1) * 84 + column)
    else none

/-- The `n`-th character from `c` on that is not among these, which are in order. -/
def nthOther (c n : Nat) : List Char → Nat
  | [] => c + n
  | taken :: rest =>
    if c + n < taken.toNat then c + n else nthOther (taken.toNat + 1) (n - (taken.toNat - c)) rest

/-- The syllables that have places in the square. -/
def squareSyllables : List Char :=
  (ksRows.flatMap fun (_, row) => row.toList).filter fun c => within 0xAC00 0xD7A3 c.toNat

/-- A pair of the extended Korean set: outside the square are the other syllables in their
order. -/
def extendedKorean? (a b : Nat) : Option Char :=
  match (squarePlace? a b).bind ksRows.at? with
  | some c => some c
  | none => (outerKorean? a b).bind fun n =>
    let syllable := nthOther 0xAC00 n squareSyllables
    if syllable ≤ 0xD7A3 then some (Char.ofNat syllable) else none

/-- The character of a pair of bytes. -/
def pair? (e : DoubleBytes) (a b : Nat) : Option Char :=
  match e with
  | gb2312 => plainChinese? a b
  | gbk => (chinesePlace? a b).bind gbkRows.at?
  | gb18030 => laterChinese? a b
  | big5 => (taiwanesePlace? a b).bind big5Rows.at?
  | cp950 => (taiwanesePlace? a b).bind fun place =>
    (cp950Rows.at? place).orElse fun _ => big5Rows.at? place
  | shiftJis => (shiftedPlace? a b).bind jisRows.at?
  | cp932 => extendedJapanese? a b
  | eucJp =>
    if a = 0x8E then (if within 0xA1 0xDF b then some (Char.ofNat (0xFF61 + (b - 0xA1))) else none)
    else (squarePlace? a b).bind jisRows.at?
  | eucKr => (squarePlace? a b).bind ksRows.at?
  | cp949 => extendedKorean? a b

-- ====================================================== texts

/-- The character of a byte beyond ASCII that stands alone. -/
def single? (e : DoubleBytes) (b : Nat) : Option Char :=
  if (e == shiftJis || e == cp932) && within 0xA1 0xDF b then
    some (Char.ofNat (0xFF61 + (b - 0xA1)))
  else if e == cp932 then
    if b = 0x80 then some (Char.ofNat 0x80)
    else if b = 0xA0 then some (Char.ofNat 0xF8F0)
    else if 0xFD ≤ b then some (Char.ofNat (0xF8F1 + (b - 0xFD)))
    else none
  else none

/-- What stands at the front of bytes that begin with `b` beyond ASCII, where more than a pair
may belong to one character: a pair of the supplementary Japanese set comes after a byte of its
own, four bytes of the later Chinese set stand for what has no pair, and eight bytes of the Korean
set for a syllable in parts. The last two never stand in a text that was UTF-8. -/
def longFront? (e : DoubleBytes) (b : Nat) (rest : List Nat) : Option Front :=
  match e, rest with
  | eucJp, second :: more =>
    if b ≠ 0x8F then none
    else
      match more with
      | [] => some .cut
      | third :: _ =>
        match (squarePlace? second third).bind supplementaryRows.at? with
        | some c => some (.char c 2)
        | none => some .bad
  | gb18030, second :: more =>
    if within 0x30 0x39 second then some (if more.length < 2 then .cut else .bad) else none
  | eucKr, second :: more =>
    if b = 0xA4 ∧ second = 0xD4 then some (if more.length < 6 then .cut else .bad) else none
  | _, _ => none

/-- What stands at the front of bytes that begin with `b`. -/
def front (e : DoubleBytes) (b : Nat) (rest : List Nat) : Front :=
  if b < 0x80 then .char (Char.ofNat b) 0
  else
    match e.single? b, longFront? e b rest, rest with
    | some c, _, _ => .char c 0
    | none, some f, _ => f
    | none, none, [] => .cut
    | none, none, second :: _ =>
      match e.pair? b second with
      | some c => .char c 1
      | none => .bad

/-- The characters of bytes. -/
def decode (e : DoubleBytes) : List Nat → List Char
  | [] => []
  | b :: rest =>
    match e.front b rest with
    | .char c more => c :: decode e (rest.drop more)
    | .bad => replacement :: decode e rest
    | .cut => [replacement]
termination_by bytes => bytes.length
decreasing_by all_goals simp; try omega

end DoubleBytes

end ApiCommands.Charset
