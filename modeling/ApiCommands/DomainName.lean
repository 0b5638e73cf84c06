/-
Domain names.

# Names

A name is a row of labels with points between them, for which some scripts have
signs of their own. It is written in ASCII, label by label, in 253 characters at
most, and a point may stand at its end.

# Labels

A label is a composed text of letters, digits and marks, without a mark at its
start, a hyphen at either end or two hyphens in its third and fourth place. A few
characters are allowed beside certain others only, and a label that is written
from right to left keeps that direction throughout. In the name itself a label
beyond ASCII is written in Punycode behind `xn--`, in 63 characters at most.
-/
import ApiCommands.DomainName.Composition
import ApiCommands.DomainName.Direction
import ApiCommands.DomainName.LabelChars
import ApiCommands.DomainName.Punycode
import ApiCommands.Text.Pieces

namespace ApiCommands.DomainName

open Text

-- ====================================================== labels

namespace Direction

/-- The direction sets a label's characters under the rule for mixed directions. -/
def isBackward (d : Direction) : Bool :=
  d == rightToLeft || d == arabicLetter || d == arabicNumber

/-- A label may end in such a character, marks aside. -/
def mayEnd (d : Direction) : Bool := d.isBackward || d == number

end Direction

namespace Label

/-- The directions of a label's characters go together. -/
def agrees (ds : List Direction) : Bool :=
  !ds.any Direction.isBackward
    || (ds.head?.any (fun d => d == .rightToLeft || d == .arabicLetter)
      && !ds.contains .leftToRight
      && (ds.reverse.find? (· != .mark)).any Direction.mayEnd
      && !(ds.contains .arabicNumber && ds.contains .number))

/-- The first character that joining does not look past satisfies `p`. -/
def meets (p : Char → Bool) (s : List Char) : Bool := (s.find? (!isTransparent ·)).any p

/-- A digit of the Arabic script. -/
def isArabicDigit (c : Char) : Bool := decide (0x660 ≤ c.toNat) && decide (c.toNat ≤ 0x669)

/-- A digit of the Persian and Urdu scripts. -/
def isPersianDigit (c : Char) : Bool := decide (0x6F0 ≤ c.toNat) && decide (c.toNat ≤ 0x6F9)

/-- A character may stand between the characters before it, the nearest first, and those after
it. -/
def mayStand (before : List Char) (c : Char) (after : List Char) : Bool :=
  match c.toNat with
  | 0xB7 => before.head? == some 'l' && after.head? == some 'l'
  | 0x375 => after.head?.any (inRuns greekRuns ·.toNat)
  | 0x5F3 | 0x5F4 => before.head?.any (inRuns hebrewRuns ·.toNat)
  | 0x200C => before.head?.any isVirama || (meets joinsForward before && meets joinsBackward after)
  | 0x200D => before.head?.any isVirama
  | 0x30FB => (before ++ after).any (inRuns kanaHanRuns ·.toNat)
  | _ =>
    if isArabicDigit c then !(before ++ after).any isPersianDigit
    else if isPersianDigit c then !(before ++ after).any isArabicDigit
    else isLabelChar c

/-- Every character may stand where it stands after `before`. -/
def allMayStand (before : List Char) : List Char → Bool
  | [] => true
  | c :: after => mayStand before c after && allMayStand (c :: before) after

/-- The hyphens of a label are where they may be. -/
def hyphensAllowed (s : List Char) : Bool :=
  s.head? != some '-' && s.getLast? != some '-' && (s.drop 2).take 2 != ['-', '-']

/-- The text is a label. -/
def isLabel (s : List Char) : Bool :=
  !s.isEmpty && hyphensAllowed s && !s.head?.any isMark && allMayStand [] s && isComposed s
    && agrees (s.map Direction.ofChar)

/-- What stands before Punycode. -/
def mark : List Char := ['x', 'n', '-', '-']

/-- The length of a label in a name at most. -/
def maxLength : Nat := 63

/-- A label in ASCII as it is, if it stands for one. -/
def readPlain? (s : List Char) : Option (List Char) :=
  if mark.isPrefixOf s then
    if s.getLast? = some '-' then none
    else ((Punycode.decode? (s.drop 4)).filter isLabel).map fun _ => s
  else if isLabel s then some s
  else none

/-- A label as it is written in a name. -/
def encode? (s : List Char) : Option (List Char) :=
  let written? :=
    if s.all (·.toNat < 128) then readPlain? s
    else if isLabel s then some (mark ++ Punycode.encode s)
    else none
  written?.filter (·.length ≤ maxLength)

end Label

-- ====================================================== names

/-- A character between labels. -/
def isSeparator (c : Char) : Bool := ['.', '\u3002', '\uff0e', '\uff61'].contains c

/-- The length of a name at most, but for a point at its end. -/
def maxLength : Nat := 253

/-- A domain name in ASCII. A point may stand at its end. -/
def encode? (s : List Char) : Option (List Char) := do
  if maxLength + 1 < s.length then none
  let labels := splitOn '.' (s.map fun c => if isSeparator c then '.' else c)
  let isClosed := decide (1 < labels.length) && labels.getLast? == some []
  let written ← (if isClosed then labels.dropLast else labels).mapM Label.encode?
  let name := join ['.'] written
  if maxLength < name.length then none
  return if isClosed then name ++ ['.'] else name

end ApiCommands.DomainName
