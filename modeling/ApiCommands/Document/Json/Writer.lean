/-
Writing JSON text.

Two choices are left to the caller, in a `Style`: whether characters beyond
ASCII are escaped, and whether the parts of a container stand on lines of their
own. On one line, items are separated by `", "`. A value with an integer of too many
digits is not written.
-/
import ApiCommands.Document.Display

namespace ApiCommands.Json

/-- How JSON is written. -/
structure Style where
  /-- Escape every character beyond ASCII. -/
  ascii : Bool
  /-- Blanks per level, with each part on its own line; `none` for one line. -/
  indent : Option Nat

/-- One line, characters as they are. -/
def Style.line : Style := ⟨false, none⟩

/-- One line of ASCII. -/
def Style.asciiLine : Style := ⟨true, none⟩

/-- Two blanks per level, characters as they are. -/
def Style.indented : Style := ⟨false, some 2⟩

/-- A code unit as an escape. -/
def unitEscape (n : Nat) : List Char := '\\' :: 'u' :: Text.hexadecimal 4 n

/-- The escapes of a character by its code units. -/
def escapeUnits (c : Char) : List Char :=
  let n := (Text.half? c).getD c.toNat
  if n < 0x10000 then unitEscape n
  else unitEscape (0xD800 + (n - 0x10000) / 1024) ++ unitEscape (0xDC00 + (n - 0x10000) % 1024)

/-- One character inside a string. -/
def encodeChar (ascii : Bool) (c : Char) : List Char :=
  if c = '"' then ['\\', '"']
  else if c = '\\' then ['\\', '\\']
  else if c = '\n' then ['\\', 'n']
  else if c = '\r' then ['\\', 'r']
  else if c = '\t' then ['\\', 't']
  else if c.toNat = 8 then ['\\', 'b']
  else if c.toNat = 12 then ['\\', 'f']
  else if c.toNat < 32 then unitEscape c.toNat
  else if ascii && decide (126 < c.toNat) then escapeUnits c
  else [c]

/-- A string with its quotes. -/
def encodeString (ascii : Bool) (s : String) : String :=
  String.ofList ('"' :: s.toList.flatMap (encodeChar ascii) ++ ['"'])

/-- A number that JSON has a form for, or one of the words for those it has none for. -/
def encodeNumber (x : Binary64) : String :=
  match x with
  | .nan => "NaN"
  | .infinity negative => if negative then "-Infinity" else "Infinity"
  | x => x.text

/-- A scalar. -/
def encodeScalar (ascii : Bool) : Scalar → Except Fault String
  | .null => .ok "null"
  | .bool b => .ok (if b then "true" else "false")
  | .int n => integerLiteral n
  | .float x => .ok (encodeNumber x)
  | .text s => .ok (encodeString ascii s)
  | s => s.display.map (encodeString ascii)

/-- The text of a key. -/
def keyText : Scalar → Except Fault String
  | .null => .ok "null"
  | .bool b => .ok (if b then "true" else "false")
  | .float x => .ok (encodeNumber x)
  | s => s.display

/-- The blanks before a part at `level`, on a new line. -/
def lineStart (indent level : Nat) : String :=
  String.ofList ('\n' :: List.replicate (indent * level) ' ')

/-- Parts between brackets. -/
def enclose (style : Style) (level : Nat) (opening closing : String) (parts : List String) :
    String :=
  if parts.isEmpty then opening ++ closing
  else match style.indent with
    | none => opening ++ Text.joined ", " parts ++ closing
    | some n =>
      opening ++ lineStart n (level + 1)
        ++ Text.joined ("," ++ lineStart n (level + 1)) parts ++ lineStart n level ++ closing

mutual

/-- A value at a level of nesting. -/
def encodeAt (style : Style) (level : Nat) : Value → Except Fault String
  | .scalar s => encodeScalar style.ascii s
  | .list items => return enclose style level "[" "]" (← encodeItems style (level + 1) items)
  | .map entries =>
    return enclose style level (.singleton '{') (.singleton '}')
      (← encodeEntries style (level + 1) entries)

/-- The items of a list. -/
def encodeItems (style : Style) (level : Nat) : List Value → Except Fault (List String)
  | [] => .ok []
  | v :: rest => return (← encodeAt style level v) :: (← encodeItems style level rest)

/-- The entries of a mapping. -/
def encodeEntries (style : Style) (level : Nat) :
    List (Scalar × Value) → Except Fault (List String)
  | [] => .ok []
  | (k, v) :: rest =>
    return (encodeString style.ascii (← keyText k) ++ ": " ++ (← encodeAt style level v))
      :: (← encodeEntries style level rest)

end

/-- A value as JSON text. -/
def encode (style : Style) (v : Value) : Except Fault String := encodeAt style 0 v

end ApiCommands.Json
