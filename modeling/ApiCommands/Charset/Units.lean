/-
Texts of wide code units.

A unit has two bytes or four, in one of two orders. A unit or a pair of units that
stands for no character becomes the replacement character, and so does what is
left at the end of the bytes, as a whole.
-/
import ApiCommands.Charset.Utf8
import ApiCommands.Text.Half

namespace ApiCommands.Charset

/-- Which end of a unit comes first. -/
inductive ByteOrder where
  | littleEnd
  | bigEnd
  deriving DecidableEq, Repr

/-- The number that bytes in an order stand for. -/
def ByteOrder.unit (o : ByteOrder) (bytes : List Nat) : Nat :=
  let inOrder := match o with
    | littleEnd => bytes.reverse
    | bigEnd => bytes
  inOrder.foldl (fun n b => 256 * n + b) 0

/-- The unit is the first half of a pair. -/
def isFirstHalf (n : Nat) : Bool := decide (0xD800 ≤ n) && decide (n < 0xDC00)

/-- The unit is the second half of a pair. -/
def isSecondHalf (n : Nat) : Bool := decide (0xDC00 ≤ n) && decide (n < 0xE000)

/-- The characters of units of two bytes. -/
def decodePairs (o : ByteOrder) : List Nat → List Char
  | [] => []
  | [_] => [replacement]
  | a :: b :: rest =>
    let unit := o.unit [a, b]
    if isSecondHalf unit then replacement :: decodePairs o rest
    else if !isFirstHalf unit then Char.ofNat unit :: decodePairs o rest
    else
      match rest with
      | c :: d :: more =>
        let second := o.unit [c, d]
        if isSecondHalf second then
          Char.ofNat (0x10000 + (unit - 0xD800) * 1024 + (second - 0xDC00)) :: decodePairs o more
        else replacement :: decodePairs o (c :: d :: more)
      | _ => [replacement]

/-- The characters of units of four bytes. -/
def decodeQuads (o : ByteOrder) : List Nat → List Char
  | [] => []
  | a :: b :: c :: d :: rest =>
    let unit := o.unit [a, b, c, d]
    (if 0x10FFFF < unit || Text.isHalfUnit unit then replacement else Char.ofNat unit)
      :: decodeQuads o rest
  | _ => [replacement]

end ApiCommands.Charset
