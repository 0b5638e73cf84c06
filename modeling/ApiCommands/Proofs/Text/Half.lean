/-
Texts that have bytes.

A text has bytes if it is free of halves of pairs (`Whole`), and so does a text
that is put together exactly if each of its pieces has (`whole_append`,
`whole_joined`). Halves are far from the characters of any script: ASCII has none
(`whole_of_isAscii`), and no half is printable (`half?_eq_none_of_isPrintable`).
So a literal has bytes even if what it quotes has not (`whole_quoted`).
-/
import ApiCommands.Proofs.Text.LetterCase
import ApiCommands.Proofs.Text.Pieces
import ApiCommands.Proofs.Text.Quoted
import ApiCommands.Text.Half

namespace ApiCommands.Text

variable [Halves]

/-- The text has bytes. -/
def Whole (s : String) : Prop := hasBytes s.toList = true

instance (s : String) : Decidable (Whole s) :=
  inferInstanceAs (Decidable (hasBytes s.toList = true))

variable {s t : String} {c : Char}

-- ====================================================== characters that are no halves

theorem half?_eq_none_of_lt (h : c.toNat < firstPrivate) : half? c = none :=
  Option.eq_none_iff_forall_ne_some.mpr fun n hn =>
    absurd (Halves.firstPrivate_le_of_unit? c n hn) (Nat.not_le_of_lt h)

/-- No half has a visible form: the characters that have one end before the halves. -/
theorem half?_eq_none_of_isPrintable (h : isPrintable c = true) : half? c = none := by
  have hends : ∀ run ∈ printableRuns, run.last < firstPrivate := by decide +kernel
  unfold isPrintable at h
  split at h
  · next hascii => exact half?_eq_none_of_lt (Nat.lt_trans hascii (by decide))
  · obtain ⟨run, hrun, hhas⟩ := List.any_eq_true.mp h
    unfold CharRun.has at hhas
    simp only [Bool.and_eq_true, decide_eq_true_eq] at hhas
    exact half?_eq_none_of_lt (Nat.lt_of_le_of_lt hhas.1.2 (hends run hrun))

-- ====================================================== pieces

theorem whole_iff : Whole s ↔ ∀ c ∈ s.toList, half? c = none := by
  unfold Whole hasBytes
  simp only [List.all_eq_true, Option.isNone_iff_eq_none]

@[simp]
theorem whole_append : Whole (s ++ t) ↔ Whole s ∧ Whole t := by
  rw [whole_iff, String.toList_append, List.forall_mem_append, ← whole_iff, ← whole_iff]

theorem whole_of_isAscii (h : isAscii s.toList = true) : Whole s := by
  refine whole_iff.mpr fun c hc => half?_eq_none_of_lt ?_
  have hascii := List.all_eq_true.mp h c hc
  exact Nat.lt_trans (decide_eq_true_eq.mp hascii) (by decide)

theorem whole_braced (h : Whole s) : Whole (braced s) := by
  have hopen : Whole (String.singleton '{') := whole_of_isAscii (by decide)
  have hclose : Whole (String.singleton '}') := whole_of_isAscii (by decide)
  unfold braced
  simp only [whole_append, hopen, h, hclose, and_self]

theorem whole_joined {sep : String} {ss : List String} (hsep : Whole sep)
    (hss : ∀ s ∈ ss, Whole s) : Whole (joined sep ss) := by
  refine whole_iff.mpr fun c hc => ?_
  rcases mem_toList_joined hc with hin | ⟨s, hs, hin⟩
  · exact whole_iff.mp hsep c hin
  · exact whole_iff.mp (hss s hs) c hin

-- ====================================================== numbers and literals

theorem half?_eq_none_of_isDigit (h : c.isDigit = true) : half? c = none :=
  half?_eq_none_of_lt (Nat.lt_of_le_of_lt (Char.isDigit_iff_toNat.mp h).2 (by decide))

@[simp]
theorem whole_toString (n : Nat) : Whole (toString n) :=
  whole_iff.mpr fun _ hc => half?_eq_none_of_isDigit (isDigit_of_mem_toString hc)

@[simp]
theorem whole_toString_int (n : Int) : Whole (toString n) := by
  cases n with
  | ofNat n => exact whole_toString n
  | negSucc n =>
      have hsign : Whole "-" := whole_of_isAscii (by decide)
      exact whole_append.mpr ⟨hsign, whole_toString (n + 1)⟩

/-- A literal has bytes, whatever it quotes. -/
@[simp]
theorem whole_quoted (s : String) : Whole (quoted s) :=
  whole_iff.mpr fun _ hc => half?_eq_none_of_isPrintable (isPrintable_of_mem_quoted hc)

end ApiCommands.Text
