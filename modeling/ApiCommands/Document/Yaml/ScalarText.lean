/-
The text of YAML scalars.

A scalar may run over several lines. In plain and quoted scalars, and in folded
blocks, a single line break counts as a blank and further ones stay; a literal
block keeps all of them. No function here knows what a text stands for.
-/
import ApiCommands.Document.Json.Reader
import ApiCommands.Document.Yaml.Cursor
import ApiCommands.Document.Yaml.Refusal

namespace ApiCommands.Yaml

/-- A text and the cursor after it. -/
abbrev Scanned := List Char × Cursor

/-- Breaks between two lines of text: one counts as a blank, those after it stay. -/
def fold (first : Char) (more : List Char) : List Char :=
  if first != '\n' then first :: more else if more.isEmpty then [' '] else more

-- ====================================================== plain scalars

/-- A mark of flow collections. -/
def isFlowMark (c : Char) : Bool := [',', '[', ']', '{', '}'].contains c

/-- The characters of a plain scalar up to the next blank, break or mark. -/
def plainRun (inFlow : Bool) : List Char → List Char
  | [] => []
  | ch :: rest =>
    if isGap (some ch) then []
    else if ch == ':' && (isGap rest.head? || (inFlow && rest.head?.any isFlowMark)) then []
    else if inFlow && (isFlowMark ch || ch == '?') then []
    else ch :: plainRun inFlow rest

/-- Line breaks and blanks in front of the next line that holds something; none if a mark between
documents comes first. -/
def plainBreaks (breaks : List Char) (c : Cursor) : Option Scanned :=
  let indented := c.skipWhile (· == ' ')
  match indented.lineBreak? with
  | none => some (breaks, indented)
  | some (b, after) =>
    if after.isDocumentMark then none
    else if after.rest.length < c.rest.length then plainBreaks (breaks ++ [b]) after
    else some (breaks, indented)
termination_by c.rest.length

/-- The gap after a run of a plain scalar, whether it breaks the line, and the cursor after it. An
empty gap ends the scalar. -/
def plainGap (c : Cursor) : List Char × Bool × Cursor :=
  let (blanks, c) := c.takeWhile (· == ' ')
  match c.lineBreak? with
  | none => (blanks, false, c)
  | some (first, c) =>
    if c.isDocumentMark then ([], true, c)
    else match plainBreaks [] c with
      | none => ([], true, c)
      | some (more, c) => (fold first more, true, c)

/-- The rest of a plain scalar after `gap`, whether the line was broken behind its last run, and
the cursor after it. Blocks inside of which it stands are indented less than `column`. -/
def plainRest (inFlow : Bool) (column : Int) (gap : List Char) (broken : Bool) (c : Cursor) :
    List Char × Bool × Cursor :=
  if c.char? == some '#' then ([], broken, c)
  else
    let run := plainRun inFlow c.rest
    let (gapAfter, brokenAfter, after) := plainGap (c.forward run.length)
    if run.isEmpty then ([], broken, c)
    else if gapAfter.isEmpty || after.char? == some '#' || (!inFlow && after.column < column) then
      (gap ++ run, brokenAfter, after)
    else if after.rest.length < c.rest.length then
      let (text, broken, finish) := plainRest inFlow column gapAfter brokenAfter after
      (gap ++ run ++ text, broken, finish)
    else (gap ++ run, brokenAfter, after)
termination_by c.rest.length

-- ====================================================== quoted scalars

/-- Breaks and blanks up to the next line of a quoted scalar that holds something. -/
def quotedBreaks (breaks : List Char) (c : Cursor) : Option Scanned :=
  if c.isDocumentMark then none
  else
    let indented := c.skipWhile isBlank
    match indented.lineBreak? with
    | none => some (breaks, indented)
    | some (b, after) =>
      if after.rest.length < c.rest.length then quotedBreaks (breaks ++ [b]) after
      else some (breaks, indented)
termination_by c.rest.length

/-- What a gap inside quotes counts as. -/
def quotedGap (c : Cursor) : Option Scanned :=
  let (blanks, c) := c.takeWhile isBlank
  match c.char? with
  | none => none
  | some _ =>
    match c.lineBreak? with
    | none => some (blanks, c)
    | some (first, c) => (quotedBreaks [] c).map fun (more, c) => (fold first more, c)

/-- The character that an escape of one letter stands for. -/
def letterEscape? : Char → Option Char
  | '0' => some (Char.ofNat 0)
  | 'a' => some (Char.ofNat 7)
  | 'b' => some (Char.ofNat 8)
  | 't' => some '\t'
  | '\t' => some '\t'
  | 'n' => some '\n'
  | 'v' => some (Char.ofNat 11)
  | 'f' => some (Char.ofNat 12)
  | 'r' => some '\r'
  | 'e' => some (Char.ofNat 27)
  | ' ' => some ' '
  | '"' => some '"'
  | '\\' => some '\\'
  | '/' => some '/'
  | 'N' => some (Char.ofNat 0x85)
  | '_' => some (Char.ofNat 0xA0)
  | 'L' => some (Char.ofNat 0x2028)
  | 'P' => some (Char.ofNat 0x2029)
  | _ => none

/-- How many hexadecimal digits follow an escape by number. -/
def numericEscapeLength? : Char → Option Nat
  | 'x' => some 2
  | 'u' => some 4
  | 'U' => some 8
  | _ => none

/-- The character of a code point, which may be half of a pair. -/
def codeChar (code : Nat) : Except Refusal Char :=
  if code < 0x110000 then .ok (Text.unitChar code)
  else if code < Nat.pow 2 31 then .error .badScalar
  else .error .codePointOverflow

/-- The character of `n` hexadecimal digits. -/
def hexChar (n : Nat) (s : List Char) : Except Refusal Char :=
  let digits := s.take n
  match digits.foldl (fun n c => do some (16 * (← n) + (← Text.hexValue? c))) (some 0) with
  | some code => if digits.length < n then .error .malformed else codeChar code
  | none => .error .malformed

/-- Something read, or else a text without a reading. -/
def orMalformed : Option α → Except Refusal α
  | some a => .ok a
  | none => .error .malformed

/-- What an escape stands for; the cursor stands after the backslash. -/
def escape (c : Cursor) : Except Refusal Scanned :=
  match c.char? with
  | none => .error .malformed
  | some ch =>
    match letterEscape? ch with
    | some e => .ok ([e], c.next)
    | none =>
      match numericEscapeLength? ch with
      | some n => (hexChar n c.next.rest).map fun e => ([e], c.next.forward n)
      | none =>
        match c.lineBreak? with
        | some (_, after) => orMalformed (quotedBreaks [] after)
        | none => .error .malformed

/-- One piece of a quoted scalar: a character, an escape or a gap. -/
def quotedPiece (quote : Char) (c : Cursor) : Except Refusal Scanned :=
  match c.rest with
  | [] => .error .malformed
  | ch :: rest =>
    if ch == '\'' && quote == '\'' && rest.head? == some '\'' then .ok (['\''], c.next.next)
    else if ch == '\\' && quote == '"' then escape c.next
    else if isGap (some ch) then orMalformed (quotedGap c)
    else .ok ([ch], c.next)

/-- A quote that closes the scalar. -/
def closes (quote : Char) (c : Cursor) : Bool :=
  c.char? == some quote && !(quote == '\'' && c.second? == some '\'')

/-- A quoted scalar from after its opening quote; what has been read is kept in reverse. -/
def quotedRest (quote : Char) (read : List Char) (c : Cursor) : Except Refusal Scanned :=
  if closes quote c then .ok (read.reverse, c.next)
  else match quotedPiece quote c with
    | .error e => .error e
    | .ok (piece, after) =>
      if after.rest.length < c.rest.length then quotedRest quote (piece.reverse ++ read) after
      else .error .malformed
termination_by c.rest.length

-- ====================================================== block scalars

/-- What becomes of the line breaks at the end of a block. -/
inductive Chomping where
  | strip
  | clip
  | keep
  deriving DecidableEq, Repr

/-- How a block ends that says so by this sign. -/
def chompingOf? : Option Char → Option Chomping
  | some '-' => some .strip
  | some '+' => some .keep
  | _ => none

/-- The depth of a block that says so by this digit; no answer if it is zero. -/
def depthOf (ch : Option Char) : Option (Option Nat) :=
  match ch with
  | some d => if d == '0' then none else if d.isDigit then some (some (d.toNat - 48)) else some none
  | none => some none

/-- The header of a block, up to its end of line: chomping, and the depth if it is given. -/
def blockHeader (c : Cursor) : Option (Chomping × Option Nat × Cursor) := do
  let (chomping, depth, c) ← match chompingOf? c.char? with
    | some chomping => do
      let depth ← depthOf c.second?
      pure (chomping, depth, if depth.isSome then c.next.next else c.next)
    | none => do
      match ← depthOf c.char? with
      | none => pure (.clip, none, c)
      | some depth =>
        match chompingOf? c.second? with
        | some chomping => pure (chomping, some depth, c.next.next)
        | none => pure (.clip, some depth, c.next)
  if !isLineEnd c.char? && c.char? != some ' ' then none
  else
    let c := c.skipWhile (· == ' ')
    let c := if c.char? == some '#' then c.skipWhile (!isBreak ·) else c
    match c.char? with
    | none => some (chomping, depth, c)
    | some _ => c.lineBreak?.map fun (_, c) => (chomping, depth, c)

/-- The empty lines before a block of unknown depth, and the greatest column among them. -/
def leadingLines (breaks : List Char) (deepest : Nat) (c : Cursor) : List Char × Nat × Cursor :=
  match c.rest with
  | ' ' :: _ =>
    let after := c.next
    if after.rest.length < c.rest.length then leadingLines breaks (max deepest after.column) after
    else (breaks, deepest, c)
  | _ =>
    match c.lineBreak? with
    | some (b, after) =>
      if after.rest.length < c.rest.length then leadingLines (breaks ++ [b]) deepest after
      else (breaks, deepest, c)
    | none => (breaks, deepest, c)
termination_by c.rest.length

/-- The cursor after the blanks in front of `column`. -/
def skipIndent (column : Nat) (c : Cursor) : Cursor :=
  c.forward ((c.rest.take (column - c.column)).takeWhile (· == ' ')).length

/-- Empty lines inside a block, up to the indentation of the next line. -/
def blockBreaks (column : Nat) (breaks : List Char) (c : Cursor) : Scanned :=
  let indented := skipIndent column c
  match indented.lineBreak? with
  | some (b, after) =>
    if after.rest.length < c.rest.length then blockBreaks column (breaks ++ [b]) after
    else (breaks, indented)
  | none => (breaks, indented)
termination_by c.rest.length

/-- The end of a block: its last line break, and the empty lines after it. -/
def chomp (chomping : Chomping) (lineBreak breaks : List Char) : List Char :=
  match chomping with
  | .strip => []
  | .clip => lineBreak
  | .keep => lineBreak ++ breaks

/-- What stands between two lines of a block. -/
def blockJoin (folded : Bool) (lineBreak breaks : List Char) (indented : Bool) : List Char :=
  if folded && lineBreak == ['\n'] && !indented then
    if breaks.isEmpty then [' '] else breaks
  else lineBreak ++ breaks

/-- The lines of a block whose text starts in `column`, the cursor being there. -/
def blockLines (folded : Bool) (chomping : Chomping) (column : Nat) (c : Cursor) : Scanned :=
  let deep := c.char?.any isBlank
  let (text, c') := c.takeWhile (!isBreak ·)
  let (lineBreak, c') := match c'.lineBreak? with
    | some (b, after) => ([b], after)
    | none => ([], c')
  let (breaks, after) := blockBreaks column [] c'
  if after.column == column && after.char?.isSome then
    if after.rest.length < c.rest.length then
      let (more, finish) := blockLines folded chomping column after
      let between := blockJoin folded lineBreak breaks (deep || after.char?.any isBlank)
      (text ++ between ++ more, finish)
    else (text, after)
  else (text ++ chomp chomping lineBreak breaks, after)
termination_by c.rest.length

/-- A block scalar from after its mark. The blocks around it are indented by `indent`. -/
def blockScalar (folded : Bool) (indent : Int) (c : Cursor) : Option Scanned := do
  let (chomping, depth, c) ← blockHeader c
  let least := (max (indent + 1) 1).toNat
  let (breaks, column, c) := match depth with
    | none =>
      let (breaks, deepest, c) := leadingLines [] 0 c
      (breaks, max least deepest, c)
    | some depth =>
      let column := least + depth - 1
      let (breaks, c) := blockBreaks column [] c
      (breaks, column, c)
  if c.column == column && c.char?.isSome then
    let (text, c) := blockLines folded chomping column c
    some (breaks ++ text, c)
  else some (chomp chomping [] breaks, c)

end ApiCommands.Yaml
