/-
Lowering a text in lower case changes nothing.

# Small letters

A character is small if lowering leaves it alone wherever it stands (`IsSmall`). For
that it must be no capital of ASCII, no dotted capital I, no capital sigma, and no run of the
case mapping may move it (`isSmall_of_move?`).

# What lowering leaves

Every character that lowering gives is small (`isSmall_of_mem_lowerBetween`). For
the letters that a run moves this is a fact about two runs, the one that moves
the letter and one that might move it again: either their code points lie apart,
or both alternate and one has the even places, the other the odd ones
(`ShiftRun.avoids`). That it holds of any two runs of the mapping is looked up run by
run, not letter by letter. From single characters `lower_lower` follows by the induction
of the lowering itself, with the text in front arbitrary, so the sigma rule never
comes into it.
-/
import ApiCommands.Proofs.Text.LetterCase

namespace ApiCommands.Text

-- ====================================================== small letters

/-- Lowering leaves the character alone, whatever stands around it. -/
def IsSmall (c : Char) : Prop := ∀ before after, lowerBetween before c after = [c]

theorem isSmall_of_ascii {c : Char} (hascii : c.toNat < 128) (hlow : c.isUpper = false) :
    IsSmall c := by
  intro before after
  have hsigma : c ≠ capitalSigma := by
    rintro rfl
    exact absurd hascii (by decide)
  have hc : c.toLower = c := dif_neg (of_decide_eq_false hlow)
  unfold lowerBetween lowerChar
  rw [if_neg hsigma, if_pos hascii, hc]

/-- The runs of letters that have another lower case: those of the mapping, and the dotted capital
I, which becomes two characters. -/
def movedRuns : List ShiftRun := ⟨0x130, 0x130, 1, 0x69⟩ :: lowerShifts

/-- Beyond ASCII a character that no run moves is small. -/
theorem isSmall_of_move? {c : Char} (hascii : ¬c.toNat < 128)
    (hmove : ∀ r ∈ movedRuns, r.move? c.toNat = none) : IsSmall c := by
  obtain ⟨hdotted, hshifts⟩ := List.forall_mem_cons.mp hmove
  intro before after
  have hsigma : c ≠ capitalSigma := by
    -- the run of the capital sigma moves it, too
    rintro rfl
    have hnone := List.findSome?_eq_none_iff.mpr hshifts
    exact absurd hnone (by decide)
  have hI : c.toNat ≠ 0x130 := by
    intro h
    rw [h] at hdotted
    exact absurd hdotted (by decide)
  unfold lowerBetween lowerChar
  rw [if_neg hsigma, if_neg hascii, if_neg hI, List.findSome?_eq_none_iff.mpr hshifts,
    Option.getD_none, Char.ofNat_toNat]

/-- A text of small letters is its own lower case. -/
theorem lowerAfter_of_isSmall {s : List Char} (h : ∀ c ∈ s, IsSmall c) (before : List Char) :
    lowerAfter before s = s := by
  induction s generalizing before with
  | nil => rfl
  | cons c rest ih =>
      obtain ⟨hc, hrest⟩ := List.forall_mem_cons.mp h
      rw [lowerAfter, hc before rest, ih hrest, List.singleton_append]

-- ====================================================== two runs

/-- What the run moves to belongs to no code point that the other one moves: it lies before these or
behind them, or on the other half of the places where the two alternate. -/
def ShiftRun.avoids (r other : ShiftRun) : Bool :=
  (r.target + (r.last - r.first)).blt other.first || other.last.blt r.target
    || other.step == 2 && (r.step == 2 || r.first == r.last)
      && r.target % 2 != other.first % 2

theorem ShiftRun.move?_eq_none_of_avoids {r other : ShiftRun} (h : r.avoids other = true)
    {n m : Nat} (hm : r.move? n = some m) : other.move? m = none := by
  unfold move? at hm
  split at hm
  · next hrun =>
    obtain ⟨hfirst, hlast, hstep⟩ := hrun
    obtain rfl := Option.some.inj hm
    refine if_neg fun hother => ?_
    obtain ⟨hofirst, holast, hostep⟩ := hother
    unfold avoids at h
    simp only [Bool.or_eq_true, Bool.and_eq_true, Nat.blt_eq, beq_iff_eq, bne_iff_ne] at h
    rcases h with (hbefore | hbehind) | ⟨⟨hotwo, heven⟩, hparity⟩
    · omega
    · omega
    · -- the moved code point is an even distance from the target
      rw [hotwo] at hostep
      rcases heven with htwo | hsingle
      · rw [htwo] at hstep
        omega
      · omega
  · cases hm

/-- The case mapping moves nothing to where it moves something away. -/
theorem move?_eq_none_of_move? {r other : ShiftRun} (hr : r ∈ lowerShifts)
    (hother : other ∈ movedRuns) {n m : Nat} (hm : r.move? n = some m) :
    other.move? m = none := by
  have hall : lowerShifts.all (fun r => movedRuns.all r.avoids) = true := by decide +kernel
  have havoids := List.all_eq_true.mp (List.all_eq_true.mp hall r hr) other hother
  exact ShiftRun.move?_eq_none_of_avoids havoids hm

-- ====================================================== what lowering leaves

/-- A character beyond ASCII that comes out of lowering is moved by no run. -/
private theorem move?_eq_none_of_mem_lowerBetween {before after : List Char} {c d : Char}
    (h : d ∈ lowerBetween before c after) (hascii : ¬d.toNat < 128) :
    ∀ r ∈ movedRuns, r.move? d.toNat = none := by
  have hfixed : ∀ n ∈ [0x3C2, 0x3C3, 0x307], ∀ r ∈ movedRuns, r.move? n = none := by
    have hnone : ∀ n ∈ [0x3C2, 0x3C3, 0x307], movedRuns.findSome? (·.move? n) = none := by
      decide
    exact fun n hn => List.findSome?_eq_none_iff.mp (hnone n hn)
  unfold lowerBetween lowerChar at h
  split at h
  · -- a capital sigma becomes a final or a medial one
    obtain rfl := List.mem_singleton.mp h
    split
    · exact hfixed 0x3C2 (by decide)
    · exact hfixed 0x3C3 (by decide)
  · split at h
    · next hc =>
      have hall : ∀ n < 128, (Char.ofNat n).toLower.toNat < 128 := by decide
      have hlow := hall c.toNat hc
      rw [Char.ofNat_toNat, ← List.mem_singleton.mp h] at hlow
      exact absurd hlow hascii
    · split at h
      · rcases List.mem_cons.mp h with rfl | hdot
        · exact absurd (by decide) hascii
        · obtain rfl := List.mem_singleton.mp hdot
          exact hfixed 0x307 (by decide)
      · next hdotted =>
        cases hmove : lowerShifts.findSome? (·.move? c.toNat) with
        | none =>
            rw [hmove, Option.getD_none, Char.ofNat_toNat] at h
            obtain rfl := List.mem_singleton.mp h
            refine List.forall_mem_cons.mpr ⟨if_neg fun hrun => ?_,
              List.findSome?_eq_none_iff.mp hmove⟩
            exact hdotted (Nat.le_antisymm hrun.2.1 hrun.1)
        | some m =>
            rw [hmove, Option.getD_some] at h
            obtain rfl := List.mem_singleton.mp h
            obtain ⟨r, hr, hm⟩ := List.exists_of_findSome?_eq_some hmove
            by_cases hvalid : m.isValidChar
            · have hnat : (Char.ofNat m).toNat = m := by
                rw [Char.ofNat, dif_pos hvalid]
                rfl
              rw [hnat]
              exact fun other hother => move?_eq_none_of_move? hr hother hm
            · rw [Char.ofNat, dif_neg hvalid] at hascii
              exact absurd (by decide) hascii

/-- Every character that lowering gives is small. -/
theorem isSmall_of_mem_lowerBetween {before after : List Char} {c d : Char}
    (h : d ∈ lowerBetween before c after) : IsSmall d := by
  by_cases hascii : d.toNat < 128
  · exact isSmall_of_ascii hascii (isUpper_of_mem_lowerBetween h)
  · exact isSmall_of_move? hascii (move?_eq_none_of_mem_lowerBetween h hascii)

/-- So is every character of a lowered text. -/
theorem isSmall_of_mem_lowerAfter {before s : List Char} {d : Char}
    (h : d ∈ lowerAfter before s) : IsSmall d := by
  induction s generalizing before with
  | nil => cases h
  | cons c rest ih =>
      rw [lowerAfter] at h
      rcases List.mem_append.mp h with hfirst | hrest
      · exact isSmall_of_mem_lowerBetween hfirst
      · exact ih hrest

/-- Lowering a text once more changes nothing. -/
theorem lower_lower (s : List Char) : lower (lower s) = lower s :=
  lowerAfter_of_isSmall (fun _ hc => isSmall_of_mem_lowerAfter hc) []

@[simp]
theorem lowered_lowered (s : String) : lowered (lowered s) = lowered s := by
  unfold lowered
  rw [String.toList_ofList, lower_lower]

end ApiCommands.Text
