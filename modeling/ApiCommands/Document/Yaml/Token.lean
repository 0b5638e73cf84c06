/-
The tokens of YAML text.

Scalars are read whole. The columns of blocks become brackets: a block opens
where a sequence entry or a key stands deeper than the block around it, and
closes where a line starts less deep. That a scalar was a key is known only when
the colon behind it is read; until then its place among the tokens is kept, so
the marks in front of it can be put there. A text is scanned up to the first
place where it has to be refused, and the last token then says why.
-/
import ApiCommands.Document.Yaml.ScalarText

namespace ApiCommands.Yaml

/-- A token. -/
inductive Token where
  | documentStart
  | documentEnd
  | blockSequenceStart
  | blockMappingStart
  | blockEnd
  | flowSequenceStart
  | flowSequenceEnd
  | flowMappingStart
  | flowMappingEnd
  | blockEntry
  | flowEntry
  | key
  | value
  | anchor (name : List Char)
  | alias (name : List Char)
  | scalar (plain : Bool) (text : List Char)
  /-- What follows is refused. -/
  | broken (why : Refusal)
  deriving DecidableEq, Repr

/-- A place where a key may start: the tokens before it, and whether it has to be a key. -/
structure KeyPlace where
  before : Nat
  required : Bool
  index : Nat
  line : Nat
  column : Nat

/-- The state of the scan. -/
structure Scan where
  cursor : Cursor
  /-- The column of the innermost block; `-1` outside all blocks. -/
  indent : Int
  /-- The columns of the blocks around it. -/
  outer : List Int
  /-- How many flow collections are open. -/
  flow : Nat
  /-- A key may start here. -/
  keyAllowed : Bool
  /-- The open key place of each flow level. -/
  keys : List (Nat × KeyPlace)
  tokens : Array Token

namespace Scan

/-- The scan of a text before its first token. -/
def start (s : List Char) : Scan := ⟨.start s, -1, [], 0, true, [], #[]⟩

/-- The scan with one more token. -/
def push (s : Scan) (t : Token) : Scan := { s with tokens := s.tokens.push t }

/-- The scan with the cursor elsewhere. -/
def moveTo (s : Scan) (c : Cursor) : Scan := { s with cursor := c }

/-- The scan `n` characters further on. -/
def forward (s : Scan) (n : Nat) : Scan := s.moveTo (s.cursor.forward n)

/-- The scan with or without leave for a key to start. -/
def allowKey (s : Scan) (allowed : Bool) : Scan := { s with keyAllowed := allowed }

/-- Blanks, comments and line breaks in front of the next token. Outside flow collections a key
may start on a new line. -/
def skipGaps (s : Scan) : Scan :=
  let c := s.cursor.skipWhile (· == ' ')
  let c := if c.char? == some '#' then c.skipWhile (!isBreak ·) else c
  match c.lineBreak? with
  | some (_, after) =>
    let next := (s.moveTo after).allowKey (s.keyAllowed || s.flow == 0)
    if _h : after.rest.length < s.cursor.rest.length then skipGaps next else next
  | none => s.moveTo c
termination_by s.cursor.rest.length
decreasing_by assumption

-- ====================================================== keys

/-- The open key place of the current flow level. -/
def keyPlace? (s : Scan) : Option KeyPlace := s.keys.lookup s.flow

/-- The scan without the open key place of the current level; a key that was required is
missed. -/
def dropKeyPlace (s : Scan) : Option Scan :=
  match s.keyPlace? with
  | some place =>
    if place.required then none else some { s with keys := s.keys.filter (·.1 != s.flow) }
  | none => some s

/-- A key stands on one line and is not too long. -/
def isStale (s : Scan) (place : KeyPlace) : Bool :=
  place.line != s.cursor.line || decide (1024 < s.cursor.index - place.index)

/-- The scan without the key places that can no longer become keys. -/
def dropStaleKeys (s : Scan) : Option Scan :=
  if s.keys.any fun (_, place) => s.isStale place && place.required then none
  else some { s with keys := s.keys.filter fun (_, place) => !s.isStale place }

/-- The scan with a key place here, if a key may start here. -/
def openKeyPlace (s : Scan) : Option Scan :=
  if s.keyAllowed then do
    let dropped ← s.dropKeyPlace
    let place : KeyPlace :=
      { before := s.tokens.size
        required := s.flow == 0 && s.indent == s.cursor.column
        index := s.cursor.index
        line := s.cursor.line
        column := s.cursor.column }
    return { dropped with keys := (s.flow, place) :: dropped.keys }
  else some s

-- ====================================================== blocks

/-- A block opened at `column`, if that is deeper than the innermost one. Its bracket goes in front
of the token at `place`. -/
def openBlock (s : Scan) (column : Nat) (bracket : Token) (place : Nat) : Scan :=
  if s.indent < column then
    { s with
      indent := column
      outer := s.indent :: s.outer
      tokens := s.tokens.insertIdxIfInBounds place bracket }
  else s

/-- A closing bracket for every block deeper than `column`. -/
def closeBlocks (column : Int) : (outer : List Int) → Scan → Scan
  | [], s => s
  | around :: outer, s =>
    if column < s.indent then
      closeBlocks column outer ({ s with indent := around, outer := outer }.push .blockEnd)
    else s

/-- The scan with the blocks closed that `column` is outside of. -/
def unwind (s : Scan) (column : Int) : Scan :=
  if s.flow == 0 then closeBlocks column s.outer s else s

-- ====================================================== tokens

/-- A mark between documents. -/
def documentMark (s : Scan) (t : Token) : Option Scan := do
  return (((← (s.unwind (-1)).dropKeyPlace).allowKey false).forward 3).push t

/-- An opening bracket. -/
def openFlow (s : Scan) (t : Token) : Option Scan := do
  let opened ← s.openKeyPlace
  return (({ opened with flow := s.flow + 1 }.allowKey true).forward 1).push t

/-- A closing bracket. -/
def closeFlow (s : Scan) (t : Token) : Option Scan := do
  if s.flow == 0 then none
  else
    let dropped ← s.dropKeyPlace
    return (({ dropped with flow := s.flow - 1 }.allowKey false).forward 1).push t

/-- A comma between items. -/
def flowEntry (s : Scan) : Option Scan := do
  return ((← (s.allowKey true).dropKeyPlace).forward 1).push .flowEntry

/-- The mark of a sequence item or an explicit key, which opens a block where it stands deeper. -/
def blockMark (s : Scan) (bracket mark : Token) (keyAfter : Bool) : Option Scan := do
  if s.flow == 0 && !s.keyAllowed then none
  else
    let opened := if s.flow == 0 then s.openBlock s.cursor.column bracket s.tokens.size else s
    return ((← (opened.allowKey keyAfter).dropKeyPlace).forward 1).push mark

/-- The colon after a key, or of a value without a key. -/
def valueMark (s : Scan) : Option Scan :=
  match s.keyPlace? with
  | some place =>
    let found := { s with
      keys := s.keys.filter (·.1 != s.flow)
      tokens := s.tokens.insertIdxIfInBounds place.before .key }
    let opened :=
      if s.flow == 0 then found.openBlock place.column .blockMappingStart place.before else found
    some (((opened.allowKey false).forward 1).push .value)
  | none => s.blockMark .blockMappingStart .value (s.flow == 0)

/-- A character of an anchor's name. -/
def isNameChar (c : Char) : Bool := c.isAlphanum || c == '-' || c == '_'

/-- An anchor or an alias. -/
def name (s : Scan) (t : List Char → Token) : Option Scan := do
  let opened ← s.openKeyPlace
  let (name, c) := s.cursor.next.takeWhile isNameChar
  if name.isEmpty then none
  else if !isGap c.char?
      && !c.char?.any (['?', ':', ',', ']', '}', '%', '@', '\x60'].contains ·) then none
  else return ((opened.allowKey false).moveTo c).push (t name)

/-- A scalar in quotes. -/
def quoted (s : Scan) (quote : Char) : Option Scan := do
  let opened ← s.openKeyPlace
  match quotedRest quote [] s.cursor.next with
  | .ok (text, c) => return ((opened.allowKey false).moveTo c).push (.scalar false text)
  | .error why => return opened.push (.broken why)

/-- A block scalar. -/
def block (s : Scan) (folded : Bool) : Option Scan := do
  let dropped ← (s.allowKey true).dropKeyPlace
  let (text, c) ← blockScalar folded s.indent s.cursor.next
  return (dropped.moveTo c).push (.scalar false text)

/-- A plain scalar. -/
def plain (s : Scan) : Option Scan := do
  let opened ← s.openKeyPlace
  let (text, broken, c) := plainRest (s.flow != 0) (s.indent + 1) [] false s.cursor
  return ((opened.allowKey broken).moveTo c).push (.scalar true text)

/-- Characters that open no plain scalar. -/
def isIndicator (c : Char) : Bool :=
  ['-', '?', ':', ',', '[', ']', '{', '}', '#', '&', '*', '!', '|', '>', '\'', '"', '%', '@',
    '\x60'].contains c

/-- A plain scalar may start at the cursor. -/
def startsPlain (s : Scan) (ch : Char) : Bool :=
  (!isGap (some ch) && !isIndicator ch) ||
    (!isGap s.cursor.second? && (ch == '-' || (s.flow == 0 && (ch == '?' || ch == ':'))))

/-- A mark that stands alone, or anywhere inside a flow collection. -/
def isMarkHere (s : Scan) : Bool := s.flow != 0 || isGap s.cursor.second?

/-- The scan after the token that starts with `ch`. Tags and directives are not read. -/
def token (s : Scan) (ch : Char) : Option Scan :=
  if s.cursor.column == 0 && ch == '%' then none
  else if s.cursor.column == 0 && s.cursor.isMark '-' then s.documentMark .documentStart
  else if s.cursor.column == 0 && s.cursor.isMark '.' then s.documentMark .documentEnd
  else if ch == '[' then s.openFlow .flowSequenceStart
  else if ch == '{' then s.openFlow .flowMappingStart
  else if ch == ']' then s.closeFlow .flowSequenceEnd
  else if ch == '}' then s.closeFlow .flowMappingEnd
  else if ch == ',' then s.flowEntry
  else if ch == '-' && isGap s.cursor.second? then
    s.blockMark .blockSequenceStart .blockEntry true
  else if ch == '?' && s.isMarkHere then s.blockMark .blockMappingStart .key (s.flow == 0)
  else if ch == ':' && s.isMarkHere then s.valueMark
  else if ch == '*' then s.name .alias
  else if ch == '&' then s.name .anchor
  else if ch == '|' && s.flow == 0 then s.block false
  else if ch == '>' && s.flow == 0 then s.block true
  else if ch == '\'' || ch == '"' then s.quoted ch
  else if s.startsPlain ch then s.plain
  else none

/-- The tokens so far, the last of which is broken. -/
def breakOff (s : Scan) : Array Token :=
  match s.tokens.back? with
  | some (.broken _) => s.tokens
  | _ => (s.push (.broken .malformed)).tokens

/-- All tokens from here on. A token that takes no character would never end and is refused. -/
def run (s : Scan) : Array Token :=
  match s.skipGaps.dropStaleKeys with
  | none => s.breakOff
  | some ready =>
    let ready := ready.unwind ready.cursor.column
    match ready.cursor.char? with
    | none =>
      match (ready.unwind (-1)).dropKeyPlace with
      | some done => done.tokens
      | none => ready.breakOff
    | some ch =>
      match ready.token ch with
      | none => ready.breakOff
      | some next =>
        if next.cursor.rest.length < s.cursor.rest.length then run next else next.breakOff
termination_by s.cursor.rest.length

end Scan

/-- A character YAML text may hold. -/
def isReadable (c : Char) : Bool :=
  let n := c.toNat
  n == 9 || n == 10 || n == 13 || (decide (32 ≤ n) && decide (n ≤ 126)) || n == 0x85 ||
    (decide (0xA0 ≤ n) && n != 0xFFFE && n != 0xFFFF && (Text.half? c).isNone)

/-- How a token changes the number of open collections. -/
def Token.opening : Token → Int
  | blockSequenceStart | blockMappingStart | flowSequenceStart | flowMappingStart => 1
  | blockEnd | flowSequenceEnd | flowMappingEnd => -1
  | _ => 0

/-- Most collections that may be open at a time. -/
def maxDepth : Int := 488

/-- Tokens up to the one that opens too many collections, `depth` being open so far. -/
def limitDepth (depth : Int) : List Token → List Token
  | [] => []
  | t :: rest =>
    let depth := depth + t.opening
    if maxDepth < depth then [.broken .tooDeep] else t :: limitDepth depth rest

/-- The tokens of a text. A byte order mark in front does not count. -/
def tokens (s : List Char) : List Token :=
  if !s.all isReadable then [.broken .malformed]
  else
    let s := if s.head?.any (·.toNat == 0xFEFF) then s.drop 1 else s
    limitDepth 0 (Scan.start s).run.toList

end ApiCommands.Yaml
