/-
What a number is written with.

A decimal that reads back as a number that is not zero is not zero
(`shortest_ne_zero`), so its digits are not all zeros, and leaving out those at
the end leaves some (`dropTrailingZeros_ne_nil`). Laying digits out adds zeros, a
point, and an exponent with its marks (`isNumeralChar_of_mem_layOut`), and the
numbers that are not laid out are written as words. So
the text of a number is never empty and never a row of points
(`exists_ne_point_mem_text`), and it is in ASCII (`isAscii_text`).
-/
import ApiCommands.Number.Shortest
import ApiCommands.Text.Half
import Mathlib.Data.List.TakeWhile

namespace ApiCommands.Binary64

variable {mantissa digits n : Nat} {exponent unit point : Int} {c : Char}

-- ====================================================== digits that are not all zeros

/-- Of what reads back as a number that is not zero, none is zero. -/
theorem ne_zero_of_mem_decimalsOf {num den count : Nat} (h : mantissa ≠ 0)
    (hmem : (digits, unit) ∈ decimalsOf mantissa exponent num den count) : digits ≠ 0 := by
  unfold decimalsOf at hmem
  obtain ⟨found, hfound, heq⟩ := List.mem_map.mp hmem
  cases heq
  obtain ⟨-, hback⟩ := List.mem_filter.mp hfound
  rintro rfl
  rw [decide_eq_true_eq, ofDecimal, if_pos rfl, zero] at hback
  cases hback
  exact h rfl

theorem shortest_ne_zero (h : mantissa ≠ 0) : (shortest mantissa exponent).1 ≠ 0 := by
  unfold shortest
  dsimp only
  generalize hfound : (List.range 17).findSome? _ = found
  cases found with
  | none => exact h
  | some decimal =>
      obtain ⟨count, -, hhead⟩ := List.exists_of_findSome?_eq_some hfound
      exact ne_zero_of_mem_decimalsOf h (List.mem_of_head? hhead)

/-- The digits of a number that is not zero do not all go with the zeros at the end. -/
theorem dropTrailingZeros_ne_nil (h : n ≠ 0) : dropTrailingZeros (Nat.toDigits 10 n) ≠ [] := by
  intro hnil
  unfold dropTrailingZeros at hnil
  rw [List.reverse_eq_nil_iff, List.dropWhile_eq_nil_iff] at hnil
  have hzeros : Nat.toDigits 10 n = List.replicate (Nat.toDigits 10 n).length '0' :=
    List.eq_replicate_iff.mpr ⟨rfl, fun d hd => beq_iff_eq.mp (hnil d (List.mem_reverse.mpr hd))⟩
  have hvalue := Nat.ofDigitChars_ten_toDigits (n := n)
  rw [hzeros, Nat.ofDigitChars_replicate_zero, Nat.mul_zero] at hvalue
  exact h hvalue.symm

-- ====================================================== laying out

/-- A digit, the point, or what an exponent is marked with. -/
def isNumeralChar (c : Char) : Bool := c.isDigit || ['.', 'e', '+', '-'].contains c

theorem isNumeralChar_of_isDigit (h : c.isDigit = true) : isNumeralChar c = true := by
  unfold isNumeralChar
  rw [h, Bool.true_or]

theorem isNumeralChar_of_mem_toDigits (h : c ∈ Nat.toDigits 10 n) : isNumeralChar c = true :=
  isNumeralChar_of_isDigit (Nat.isDigit_of_mem_toDigits (by decide) (by decide) h)

theorem isNumeralChar_of_mem_twoDigits (h : c ∈ twoDigits n) : isNumeralChar c = true := by
  unfold twoDigits at h
  split at h
  · rcases List.mem_cons.mp h with rfl | hdigit
    · decide
    · exact isNumeralChar_of_mem_toDigits hdigit
  · exact isNumeralChar_of_mem_toDigits h

/-- Nothing but such characters is added to digits that are laid out. -/
theorem isNumeralChar_of_mem_layOut {digits : List Char}
    (h : ∀ d ∈ digits, isNumeralChar d = true) :
    ∀ d ∈ layOut digits point, isNumeralChar d = true := by
  have hzero : isNumeralChar '0' = true := by decide
  have hpoint : isNumeralChar '.' = true := by decide
  have hzeros : ∀ count, ∀ d ∈ List.replicate count '0', isNumeralChar d = true :=
    fun _ d hd => List.eq_of_mem_replicate hd ▸ hzero
  have hmark : ∀ d ∈ (if point - 1 < 0 then ['e', '-'] else ['e', '+']),
      isNumeralChar d = true := by
    split
    · exact List.all_eq_true.mp (by decide)
    · exact List.all_eq_true.mp (by decide)
  have hexponent : ∀ d ∈ twoDigits (point - 1).natAbs, isNumeralChar d = true :=
    fun _ hd => isNumeralChar_of_mem_twoDigits hd
  unfold layOut
  split
  · split
    · rw [List.forall_mem_cons, List.forall_mem_cons, List.forall_mem_append]
      exact ⟨hzero, hpoint, hzeros _, h⟩
    · split
      · rw [List.forall_mem_append, List.forall_mem_append]
        exact ⟨⟨h, hzeros _⟩, List.all_eq_true.mp (by decide)⟩
      · rw [List.forall_mem_append, List.forall_mem_cons]
        exact ⟨fun d hd => h d (List.mem_of_mem_take hd), hpoint,
          fun d hd => h d (List.mem_of_mem_drop hd)⟩
  · dsimp only
    split
    · next first =>
      rw [List.forall_mem_append, List.forall_mem_cons]
      exact ⟨⟨h first List.mem_cons_self, hmark⟩, hexponent⟩
    · next first rest _ =>
      rw [List.forall_mem_append, List.forall_mem_append, List.forall_mem_cons,
        List.forall_mem_cons]
      obtain ⟨hfirst, hrest⟩ := List.forall_mem_cons.mp h
      exact ⟨⟨⟨hfirst, hpoint, hrest⟩, hmark⟩, hexponent⟩
    · exact h

/-- None of the digits is left out. -/
theorem subset_layOut (digits : List Char) (point : Int) : digits ⊆ layOut digits point := by
  intro d hd
  unfold layOut
  split
  · split
    · exact List.mem_cons_of_mem _ (List.mem_cons_of_mem _ (List.mem_append_right _ hd))
    · split
      · exact List.mem_append_left _ (List.mem_append_left _ hd)
      · rw [← List.take_append_drop point.toNat digits, List.mem_append] at hd
        exact List.mem_append.mpr (hd.imp_right (List.mem_cons_of_mem _))
  · dsimp only
    split
    · next first =>
      rw [List.mem_singleton.mp hd]
      exact List.mem_cons_self
    · next first rest _ =>
      rcases List.mem_cons.mp hd with rfl | hrest
      · exact List.mem_cons_self
      · exact List.mem_append_left _
          (List.mem_append_left _ (List.mem_cons_of_mem _ (List.mem_cons_of_mem _ hrest)))
    · exact hd

-- ====================================================== the text of a number

theorem exists_layOut_eq (exponent : Int) (h : mantissa ≠ 0) : ∃ digits point,
    magnitudeText mantissa exponent = layOut digits point ∧ digits ≠ []
      ∧ ∀ d ∈ digits, d.isDigit = true := by
  refine ⟨_, _, if_neg h, dropTrailingZeros_ne_nil (shortest_ne_zero h), fun d hd => ?_⟩
  unfold dropTrailingZeros at hd
  have hwritten := (List.dropWhile_sublist _).subset (List.mem_reverse.mp hd)
  exact Nat.isDigit_of_mem_toDigits (by decide) (by decide) (List.mem_reverse.mp hwritten)

/-- A number is written with a digit at least. -/
theorem exists_digit_mem_magnitudeText (mantissa : Nat) (exponent : Int) :
    ∃ c ∈ magnitudeText mantissa exponent, c.isDigit = true := by
  by_cases h : mantissa = 0
  · rw [magnitudeText, if_pos h]
    exact ⟨'0', List.mem_cons_self, by decide⟩
  · obtain ⟨digits, point, heq, hne, hdigits⟩ := exists_layOut_eq exponent h
    obtain ⟨d, hd⟩ := List.exists_mem_of_ne_nil _ hne
    rw [heq]
    exact ⟨d, subset_layOut digits point hd, hdigits d hd⟩

theorem isNumeralChar_of_mem_magnitudeText :
    ∀ d ∈ magnitudeText mantissa exponent, isNumeralChar d = true := by
  by_cases h : mantissa = 0
  · rw [magnitudeText, if_pos h]
    exact List.all_eq_true.mp (by decide)
  · obtain ⟨digits, point, heq, -, hdigits⟩ := exists_layOut_eq exponent h
    rw [heq]
    exact isNumeralChar_of_mem_layOut fun d hd => isNumeralChar_of_isDigit (hdigits d hd)

/-- The text of a number is more than points. -/
theorem exists_ne_point_mem_text (x : Binary64) : ∃ c ∈ x.text.toList, c ≠ '.' := by
  cases x with
  | nan => exact ⟨'n', by decide, by decide⟩
  | infinity negative => exact ⟨'i', by cases negative <;> decide, by decide⟩
  | finite negative mantissa exponent =>
      obtain ⟨c, hc, hdigit⟩ := exists_digit_mem_magnitudeText mantissa exponent
      refine ⟨c, ?_, fun hpoint => absurd (hpoint ▸ hdigit) (by decide)⟩
      rw [text, String.toList_ofList]
      exact List.mem_append_right _ hc

theorem lt_of_isNumeralChar (h : isNumeralChar c = true) : c.toNat < 128 := by
  rcases Bool.or_eq_true_iff.mp h with hdigit | hmark
  · exact Nat.lt_of_le_of_lt (Char.isDigit_iff_toNat.mp hdigit).2 (by decide)
  · have hmarks : Text.isAscii ['.', 'e', '+', '-'] = true := by decide
    have hc := List.all_eq_true.mp hmarks c (List.contains_iff_mem.mp hmark)
    exact decide_eq_true_eq.mp hc

theorem isAscii_text (x : Binary64) : Text.isAscii x.text.toList = true := by
  cases x with
  | nan => decide
  | infinity negative => cases negative <;> decide
  | finite negative mantissa exponent =>
      have hsign : ∀ d ∈ (if negative then ['-'] else []), isNumeralChar d = true := by
        cases negative
        · exact List.all_eq_true.mp (by decide)
        · exact List.all_eq_true.mp (by decide)
      unfold Text.isAscii
      rw [List.all_eq_true, text, String.toList_ofList, List.forall_mem_append]
      simp only [decide_eq_true_eq]
      exact ⟨fun d hd => lt_of_isNumeralChar (hsign d hd),
        fun d hd => lt_of_isNumeralChar (isNumeralChar_of_mem_magnitudeText d hd)⟩

end ApiCommands.Binary64
