/-
Pointers: the address of a node inside a document.

A pointer is a row of segments. In its written form segments stand between
slashes, and inside a segment `~1` is a slash and `~0` a tilde. A segment picks
the entry of a mapping, or, in digits, the item of a list. Digits may come from
any script; a character that only looks like a digit makes the pointer
unreadable.
-/
import ApiCommands.Document.Json.Reader
import ApiCommands.Outcome.Error
import ApiCommands.Text.Digits
import ApiCommands.Text.Pieces

namespace ApiCommands.Pointer

/-- A segment as it is meant: `~1` is a slash, and then `~0` a tilde. -/
def unescape (segment : List Char) : List Char :=
  Text.replace ['~', '0'] ['~'] (Text.replace ['~', '1'] ['/'] segment)

/-- The segments of a written pointer. -/
def segments (written : List Char) : List (List Char) := (Text.splitOn '/' written).map unescape

/-- The value of a row of decimal digits of any script. -/
def digitsValue? (digits : List Char) : Option Nat :=
  digits.foldl (fun n c => do some (10 * (← n) + (← Text.decimalValue? c))) (some 0)

/-- The index a segment stands for; none if it does not look like digits. -/
def index? (segment : List Char) : Except Fault (Option Nat) :=
  if segment.isEmpty || !segment.all Text.isDigitLike then .ok none
  else if Numeral.maxDigits < segment.length then .error .badNumeral
  else match digitsValue? segment with
    | some n => .ok (some n)
    | none => .error .badNumeral

/-- The part of a node that a segment picks, if there is one. -/
def step (segment : List Char) : Value → Except Fault (Option Value)
  | .map entries => .ok (Entries.find? (.text (String.ofList segment)) entries)
  | .list items => do return (← index? segment).bind fun i => items[i]?
  | .scalar _ => .ok none

/-- The node that segments lead to, if there is one. -/
def follow : List (List Char) → Value → Except Fault (Option Value)
  | [], node => .ok (some node)
  | segment :: rest, node => do
    match ← step segment node with
    | some part => follow rest part
    | none => return none

end ApiCommands.Pointer
