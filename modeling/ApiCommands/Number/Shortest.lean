/-
The shortest decimal that reads back.

A number is written with the fewest significant digits that round to it again,
and of two such decimals with the nearer one. For a count of digits only the
two neighbours of the number on that decimal grid can do, so those two are
tried, for one digit, two, and so on; seventeen always suffice.

`Binary64.text` lays the digits out: positional from `10 ^ -4` up to `10 ^ 16`,
with a fraction always, else with an exponent of at least two digits.
-/
import ApiCommands.Number.Binary64

namespace ApiCommands.Binary64

/-- The least `j`, counted from `from`, for which `num · 10 ^ j` reaches `den`. -/
def powerToReach (num den : Nat) : (fuel : Nat) → (start : Nat) → Nat
  | 0, start => start
  | fuel + 1, start =>
    if den ≤ num * Nat.pow 10 start then start else powerToReach num den fuel (start + 1)

/-- The position of the point: `10 ^ (p - 1) ≤ num / den < 10 ^ p`. -/
def pointPosition (num den : Nat) : Int :=
  if den ≤ num then digitCount (num / den) else 1 - (powerToReach num den 400 1 : Int)

/-- `num / den` in units of `10 ^ exponent`, as a fraction of natural numbers. -/
def inDecimalUnits (num den : Nat) (exponent : Int) : Nat × Nat :=
  if 0 ≤ exponent then (num, den * Nat.pow 10 exponent.toNat)
  else (num * Nat.pow 10 (-exponent).toNat, den)

/-- The two neighbours of `n / d` among the natural numbers, the nearer one first. -/
def neighbours (n d : Nat) : List Nat :=
  let q := n / d
  if roundHalfEven n d = q then [q, q + 1] else [q + 1, q]

/-- The decimals of `count` digits that read back as `± mantissa · 2 ^ exponent`, nearest first. -/
def decimalsOf (mantissa : Nat) (exponent : Int) (num den : Nat) (count : Nat) :
    List (Nat × Int) :=
  let unit := pointPosition num den - count
  let (n, d) := inDecimalUnits num den unit
  ((neighbours n d).filter fun digits =>
    decide (ofDecimal false digits unit = finite false mantissa exponent)).map (·, unit)

/-- The shortest decimal `digits · 10 ^ unit` that reads back as `mantissa · 2 ^ exponent`. -/
def shortest (mantissa : Nat) (exponent : Int) : Nat × Int :=
  let (num, den) : Nat × Nat :=
    if 0 ≤ exponent then (mantissa * Nat.pow 2 exponent.toNat, 1)
    else (mantissa, Nat.pow 2 (-exponent).toNat)
  ((List.range 17).findSome? fun i => (decimalsOf mantissa exponent num den (i + 1)).head?).getD
    (mantissa, exponent)

/-- Where positional notation ends, on either side of the point. -/
structure Layout where
  /-- Positional if the point stands after more than this. -/
  below : Int
  /-- Positional if the point stands after at most this. -/
  upTo : Int

/-- Numbers from `10 ^ -4` up to `10 ^ 16` are written without an exponent. -/
def layout : Layout := ⟨-4, 16⟩

/-- `n` in decimal, with at least two digits. -/
def twoDigits (n : Nat) : List Char :=
  if n < 10 then '0' :: Nat.toDigits 10 n else Nat.toDigits 10 n

/-- Digits laid out with the point after the first `point` of them. -/
def layOut (digits : List Char) (point : Int) : List Char :=
  if layout.below < point ∧ point ≤ layout.upTo then
    if point ≤ 0 then '0' :: '.' :: (List.replicate (-point).toNat '0' ++ digits)
    else if digits.length ≤ point.toNat then
      digits ++ List.replicate (point.toNat - digits.length) '0' ++ ['.', '0']
    else digits.take point.toNat ++ '.' :: digits.drop point.toNat
  else
    let exponent := point - 1
    let mark := if exponent < 0 then ['e', '-'] else ['e', '+']
    match digits with
    | [d] => d :: mark ++ twoDigits exponent.natAbs
    | d :: rest => d :: '.' :: rest ++ mark ++ twoDigits exponent.natAbs
    | [] => []

/-- Digits without the zeros at their end. The upper neighbour of a row of nines has them. -/
def dropTrailingZeros (digits : List Char) : List Char :=
  (digits.reverse.dropWhile (· == '0')).reverse

/-- A finite number without its sign. -/
def magnitudeText (mantissa : Nat) (exponent : Int) : List Char :=
  if mantissa = 0 then ['0', '.', '0']
  else
    let (digits, unit) := shortest mantissa exponent
    let written := Nat.toDigits 10 digits
    layOut (dropTrailingZeros written) (written.length + unit)

/-- The number as text. -/
def text : Binary64 → String
  | nan => "nan"
  | infinity negative => if negative then "-inf" else "inf"
  | finite negative mantissa exponent =>
    String.ofList ((if negative then ['-'] else []) ++ magnitudeText mantissa exponent)

end ApiCommands.Binary64
