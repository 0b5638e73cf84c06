/-
Numbers that are integers, and powers of two among them.

# Integers

A finite number without a fraction is told by `toInt?`, and over the common unit
it is that integer times the size of the unit (`exists_unit`). So two such numbers
stand in the order of their integers (`lt_iff_of_toInt?`), and one is greater than
zero if its integer is (`isPositive_of_toInt?`).

# Powers of two

A power of two has 53 bits before the point in the unit 52 places below its own
exponent, whether that is a fraction or not (`inUnits_two_pow`). Nothing is
rounded away, so up to the greatest exponent it is a number, and this number is
the power itself (`exists_powerOfTwo?`).
-/
import ApiCommands.Number.Binary64
import Mathlib.Tactic.Ring
import Mathlib.Algebra.Order.Ring.Int

namespace ApiCommands.Binary64

variable {negative : Bool} {mantissa size k n : Nat} {exponent a b : Int} {x y : Binary64}

-- ====================================================== integers

/-- A mantissa in units of `2 ^ -n`, if it is an integer in its own unit. -/
theorem mantissa_mul_two_pow (hleast : -(n : Int) ≤ exponent)
    (h : (if 0 ≤ exponent then some (mantissa * Nat.pow 2 exponent.toNat)
      else if mantissa % Nat.pow 2 (-exponent).toNat = 0
        then some (mantissa / Nat.pow 2 (-exponent).toNat) else none) = some size) :
    mantissa * 2 ^ (exponent + n).toNat = size * 2 ^ n := by
  by_cases hexponent : 0 ≤ exponent
  · rw [if_pos hexponent] at h
    have hsplit : (exponent + n).toNat = exponent.toNat + n := by omega
    have hsize : mantissa * 2 ^ exponent.toNat = size := Option.some.inj h
    rw [hsplit, pow_add, ← mul_assoc, hsize]
  · rw [if_neg hexponent] at h
    by_cases hwhole : mantissa % Nat.pow 2 (-exponent).toNat = 0
    · rw [if_pos hwhole] at h
      have hsplit : n = (-exponent).toNat + (exponent + n).toNat := by omega
      have hdivides : 2 ^ (-exponent).toNat ∣ mantissa := Nat.dvd_of_mod_eq_zero hwhole
      have hsize : mantissa / 2 ^ (-exponent).toNat = size := Option.some.inj h
      calc mantissa * 2 ^ (exponent + n).toNat
          = size * 2 ^ (-exponent).toNat * 2 ^ (exponent + n).toNat := by
            rw [← hsize, Nat.div_mul_cancel hdivides]
        _ = size * 2 ^ n := by rw [mul_assoc, ← pow_add, ← hsplit]
    · rw [if_neg hwhole] at h
      cases h

/-- Over the common unit a number without a fraction is its integer times the size of the unit. -/
theorem exists_unit :
    ∃ unit : Int, 0 < unit ∧ ∀ negative mantissa exponent a, minExponent ≤ exponent →
      (finite negative mantissa exponent).toInt? = some a →
      scaled negative mantissa exponent = a * unit := by
  obtain ⟨n, hn⟩ : ∃ n : Nat, minExponent = -(n : Int) := ⟨1074, rfl⟩
  have hpositive : (0 : Int) < (2 ^ n : Nat) := by exact_mod_cast Nat.two_pow_pos n
  refine ⟨(2 ^ n : Nat), hpositive, fun negative mantissa exponent a hleast h => ?_⟩
  unfold toInt? at h
  obtain ⟨size, hsize, rfl⟩ := Option.map_eq_some_iff.mp h
  have hvalue := mantissa_mul_two_pow (hn ▸ hleast) hsize
  have hplaces : (exponent - minExponent).toNat = (exponent + n).toNat := by omega
  have hscaled : (mantissa : Int) * (Nat.pow 2 (exponent + n).toNat : Nat)
      = size * (2 ^ n : Nat) := by
    exact_mod_cast hvalue
  unfold scaled
  rw [hplaces, hscaled]
  cases negative with
  | false => rfl
  | true => exact (neg_mul _ _).symm

/-- Numbers without a fraction stand in the order of their integers. -/
theorem lt_iff_of_toInt? {otherNegative : Bool} {otherMantissa : Nat} {otherExponent : Int}
    (hleast : minExponent ≤ exponent) (hotherLeast : minExponent ≤ otherExponent)
    (h : (finite negative mantissa exponent).toInt? = some a)
    (hother : (finite otherNegative otherMantissa otherExponent).toInt? = some b) :
    (finite negative mantissa exponent).lt (finite otherNegative otherMantissa otherExponent) = true
      ↔ a < b := by
  obtain ⟨unit, hpositive, hscaled⟩ := exists_unit
  unfold lt
  rw [decide_eq_true_eq, hscaled _ _ _ _ hleast h, hscaled _ _ _ _ hotherLeast hother]
  exact Int.mul_lt_mul_right hpositive

theorem lt_trans {x y z : Binary64} (hxy : x.lt y = true) (hyz : y.lt z = true) :
    x.lt z = true := by
  cases x <;> cases y <;> cases z <;> simp_all [lt]
  exact Int.lt_trans hxy hyz

/-- A number whose integer is greater than zero is greater than zero. -/
theorem isPositive_of_toInt? (h : x.toInt? = some a) (ha : 0 < a) : x.isPositive = true := by
  cases x with
  | nan => cases h
  | infinity _ => cases h
  | finite negative mantissa exponent =>
      unfold toInt? at h
      obtain ⟨size, hsize, hvalue⟩ := Option.map_eq_some_iff.mp h
      cases negative with
      | true =>
          rw [if_pos rfl] at hvalue
          omega
      | false =>
          have hmantissa : mantissa ≠ 0 := by
            rintro rfl
            have hzero : size = 0 := by
              dsimp only at hsize
              by_cases hexponent : 0 ≤ exponent
              · rw [if_pos hexponent, Nat.zero_mul] at hsize
                exact (Option.some.inj hsize).symm
              · rw [if_neg hexponent, Nat.zero_mod, if_pos rfl, Nat.zero_div] at hsize
                exact (Option.some.inj hsize).symm
            rw [hzero] at hvalue
            simp at hvalue
            omega
          show (!false && mantissa != 0) = true
          simpa using hmantissa

-- ====================================================== powers of two

/-- A power of two has 53 bits before the point 52 places below its exponent. -/
theorem inUnits_two_pow (k : Nat) :
    ∃ den, 0 < den ∧ inUnits (2 ^ k) 1 ((k : Int) - 52) = (2 ^ 52 * den, den) := by
  unfold inUnits
  by_cases hexponent : 0 ≤ (k : Int) - 52
  · have hsplit : k = 52 + ((k : Int) - 52).toNat := by omega
    refine ⟨2 ^ ((k : Int) - 52).toNat, Nat.two_pow_pos _, ?_⟩
    rw [if_pos hexponent, ← pow_add, ← hsplit, one_mul]
    rfl
  · have hsplit : k + (-((k : Int) - 52)).toNat = 52 := by omega
    refine ⟨1, Nat.one_pos, ?_⟩
    rw [if_neg hexponent, mul_one]
    show (2 ^ k * 2 ^ (-((k : Int) - 52)).toNat, 1) = ((2 ^ 52 : Nat), 1)
    rw [← pow_add, hsplit]

/-- A ratio without a rest is not rounded. -/
theorem roundHalfEven_mul (q : Nat) {d : Nat} (hd : 0 < d) : roundHalfEven (q * d) d = q := by
  unfold roundHalfEven
  dsimp only
  rw [Nat.mul_div_cancel q hd, Nat.mul_mod_left, if_neg]
  omega

/-- The exponent of a power of two. -/
theorem exponentFor_two_pow (k : Nat) : exponentFor (2 ^ k) 1 = (k : Int) - 52 := by
  obtain ⟨den, hden, hunits⟩ := inUnits_two_pow k
  have hguess : ((2 ^ k).log2 : Int) - ((1 : Nat).log2 : Int) - 52 = (k : Int) - 52 := by
    rw [Nat.log2_two_pow, show (1 : Nat).log2 = 0 from rfl]
    simp
  unfold exponentFor
  dsimp only
  rw [hguess, hunits]
  dsimp only
  rw [Nat.mul_div_cancel _ hden, if_neg (by decide)]
  unfold minExponent
  omega

/-- A power of two up to the greatest exponent is itself, with 53 bits. -/
theorem ofRatio_two_pow (h : k < 1024) :
    ofRatio false (2 ^ k) 1 = finite false (2 ^ 52) ((k : Int) - 52) := by
  obtain ⟨den, hden, hunits⟩ := inUnits_two_pow k
  have hmost : ¬maxExponent < (k : Int) - 52 := by
    unfold maxExponent
    omega
  have hbits : ¬2 ^ 52 = Nat.pow 2 53 := by decide
  unfold ofRatio
  dsimp only
  rw [if_neg (Nat.two_pow_pos k).ne', exponentFor_two_pow, hunits]
  dsimp only
  rw [roundHalfEven_mul _ hden, if_neg hbits, if_neg hmost]

/-- This number is the power itself. -/
theorem toInt?_two_pow (k : Nat) :
    (finite false (2 ^ 52) ((k : Int) - 52)).toInt? = some (2 ^ k) := by
  unfold toInt?
  dsimp only
  by_cases hexponent : 0 ≤ (k : Int) - 52
  · have hsplit : 52 + ((k : Int) - 52).toNat = k := by omega
    have hsize : 2 ^ 52 * 2 ^ ((k : Int) - 52).toNat = 2 ^ k := by rw [← pow_add, hsplit]
    rw [if_pos hexponent, Option.map_some, if_neg Bool.false_ne_true]
    show some (((2 ^ 52 * 2 ^ ((k : Int) - 52).toNat : Nat)) : Int) = _
    rw [hsize]
    simp
  · have hsplit : 52 = k + (-((k : Int) - 52)).toNat := by omega
    have hsize : 2 ^ 52 = 2 ^ k * 2 ^ (-((k : Int) - 52)).toNat := by rw [← pow_add, ← hsplit]
    have hunit : 0 < Nat.pow 2 (-((k : Int) - 52)).toNat := Nat.pow_pos Nat.two_pos
    rw [if_neg hexponent, hsize]
    show Option.map _ (if 2 ^ k * Nat.pow 2 (-((k : Int) - 52)).toNat
      % Nat.pow 2 (-((k : Int) - 52)).toNat = 0
        then some (2 ^ k * Nat.pow 2 (-((k : Int) - 52)).toNat
          / Nat.pow 2 (-((k : Int) - 52)).toNat) else none) = _
    rw [Nat.mul_mod_left, if_pos rfl, Nat.mul_div_cancel _ hunit, Option.map_some,
      if_neg Bool.false_ne_true]
    simp

/-- The powers of two that are numbers. -/
theorem exists_powerOfTwo? (h : k < 1024) :
    ∃ exponent, powerOfTwo? k = some (finite false (2 ^ 52) exponent) ∧ minExponent ≤ exponent
      ∧ (finite false (2 ^ 52) exponent).toInt? = some (2 ^ k) := by
  refine ⟨(k : Int) - 52, ?_, by unfold minExponent; omega, toInt?_two_pow k⟩
  unfold powerOfTwo?
  rw [if_neg (by omega), if_pos (by omega), Int.toNat_natCast]
  exact congrArg some (ofRatio_two_pow h)

end ApiCommands.Binary64
