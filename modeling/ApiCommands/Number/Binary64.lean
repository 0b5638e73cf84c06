/-
Binary floating point with a significand of 53 bits, exactly.

A finite number is `± mantissa · 2 ^ exponent`, so every question about it
(which number a ratio rounds to, which of two is smaller) is settled by integer
arithmetic, with no machine float anywhere. `ofRatio` rounds to the nearest
number, a tie to the even mantissa; what is too large becomes infinite.
-/

namespace ApiCommands

/-- A floating-point number. A finite one has a mantissa below `2 ^ 53` and an exponent of at
least `-1074`. -/
inductive Binary64 where
  | nan
  | infinity (negative : Bool)
  | finite (negative : Bool) (mantissa : Nat) (exponent : Int)
  deriving DecidableEq, Repr, Inhabited

namespace Binary64

/-- The least exponent, that of the numbers around zero. -/
def minExponent : Int := -1074

/-- The greatest exponent. -/
def maxExponent : Int := 971

/-- Zero. -/
def zero (negative : Bool) : Binary64 := finite negative 0 minExponent

/-- `num / den` in units of `2 ^ exponent`, as a fraction of natural numbers. -/
def inUnits (num den : Nat) (exponent : Int) : Nat × Nat :=
  if 0 ≤ exponent then (num, den * Nat.pow 2 exponent.toNat)
  else (num * Nat.pow 2 (-exponent).toNat, den)

/-- The exponent that leaves 53 bits before the point of `num / den`, or the least exponent. -/
def exponentFor (num den : Nat) : Int :=
  let guess : Int := num.log2 - den.log2 - 52
  let (n, d) := inUnits num den guess
  max minExponent (if n / d < Nat.pow 2 52 then guess - 1 else guess)

/-- `n / d` to the nearest natural number, a tie to the even one. -/
def roundHalfEven (n d : Nat) : Nat :=
  let q := n / d
  let twice := 2 * (n % d)
  if d < twice ∨ (twice = d ∧ q % 2 = 1) then q + 1 else q

/-- The number nearest to `± num / den`. -/
def ofRatio (negative : Bool) (num den : Nat) : Binary64 :=
  if num = 0 then zero negative
  else
    let exponent := exponentFor num den
    let (n, d) := inUnits num den exponent
    let mantissa := roundHalfEven n d
    let (mantissa, exponent) :=
      if mantissa = Nat.pow 2 53 then (Nat.pow 2 52, exponent + 1) else (mantissa, exponent)
    if maxExponent < exponent then infinity negative else finite negative mantissa exponent

/-- How many decimal digits `n` has. -/
def digitCount (n : Nat) : Nat := (Nat.toDigits 10 n).length

/-- The number nearest to `± digits · 10 ^ exponent`. Far outside the range the answer is known
without computing the power. -/
def ofDecimal (negative : Bool) (digits : Nat) (exponent : Int) : Binary64 :=
  if digits = 0 then zero negative
  else
    let magnitude := exponent + digitCount digits
    if 400 < magnitude then infinity negative
    else if magnitude < -400 then zero negative
    else if 0 ≤ exponent then ofRatio negative (digits * Nat.pow 10 exponent.toNat) 1
    else ofRatio negative digits (Nat.pow 10 (-exponent).toNat)

/-- The number nearest to an integer. -/
def ofInt (n : Int) : Binary64 := ofRatio (decide (n < 0)) n.natAbs 1

/-- `2 ^ k`, unless it is too large for a finite number. -/
def powerOfTwo? (k : Int) : Option Binary64 :=
  if 1024 ≤ k then none
  else if 0 ≤ k then some (ofRatio false (Nat.pow 2 k.toNat) 1)
  else if k < -1100 then some (zero false)
  else some (ofRatio false 1 (Nat.pow 2 (-k).toNat))

/-- Greater than zero. -/
def isPositive : Binary64 → Bool
  | nan => false
  | infinity negative => !negative
  | finite negative mantissa _ => !negative && mantissa != 0

/-- `x` where it is positive, else zero. -/
def positivePart (x : Binary64) : Binary64 := if x.isPositive then x else zero false

/-- `± mantissa` over the common unit `2 ^ -1074`. -/
def scaled (negative : Bool) (mantissa : Nat) (exponent : Int) : Int :=
  let size : Int := mantissa * Nat.pow 2 (exponent - minExponent).toNat
  if negative then -size else size

/-- The number with the other sign. -/
def neg : Binary64 → Binary64
  | nan => nan
  | infinity negative => infinity !negative
  | finite negative mantissa exponent => finite (!negative) mantissa exponent

/-- The number nearest to a sum. -/
def add : Binary64 → Binary64 → Binary64
  | nan, _ => nan
  | _, nan => nan
  | infinity a, infinity b => if a = b then infinity a else nan
  | infinity a, finite .. => infinity a
  | finite .., infinity b => infinity b
  | finite a m e, finite b n f =>
    let sum := scaled a m e + scaled b n f
    if sum = 0 then zero (a && b)
    else ofRatio (decide (sum < 0)) sum.natAbs (Nat.pow 2 (-minExponent).toNat)

/-- The number nearest to a product. -/
def mul : Binary64 → Binary64 → Binary64
  | nan, _ => nan
  | _, nan => nan
  | infinity a, infinity b => infinity (a != b)
  | infinity a, finite b n _ => if n = 0 then nan else infinity (a != b)
  | finite a m _, infinity b => if m = 0 then nan else infinity (a != b)
  | finite a m e, finite b n f =>
    if 0 ≤ e + f then ofRatio (a != b) (m * n * Nat.pow 2 (e + f).toNat) 1
    else ofRatio (a != b) (m * n) (Nat.pow 2 (-(e + f)).toNat)

/-- The order of numbers; nothing is below or above `nan`. -/
def lt : Binary64 → Binary64 → Bool
  | nan, _ => false
  | _, nan => false
  | infinity a, infinity b => a && !b
  | infinity a, finite .. => a
  | finite .., infinity b => !b
  | finite a m e, finite b n f => decide (scaled a m e < scaled b n f)

/-- The integer a finite number without a fraction is. -/
def toInt? : Binary64 → Option Int
  | finite negative mantissa exponent =>
    let size : Option Nat :=
      if 0 ≤ exponent then some (mantissa * Nat.pow 2 exponent.toNat)
      else
        let d := Nat.pow 2 (-exponent).toNat
        if mantissa % d = 0 then some (mantissa / d) else none
    size.map fun (n : Nat) => if negative then -(n : Int) else n
  | _ => none

/-- Zero, of either sign. -/
def isZero : Binary64 → Bool
  | finite _ mantissa _ => mantissa == 0
  | _ => false

end Binary64

end ApiCommands
