/-
Blank texts, and line ends of texts that are read.

A blank text has nothing in between its blanks, so it is trimmed to nothing
(`trim_of_isBlank`) and has no words (`runsWithout_of_isBlank`).

A reader of text files sees no carriage return (`not_mem_unifyLineEnds`). So what
it gives is the text itself exactly if that has none (`unifyLineEnds_eq_self_iff`).
-/
import ApiCommands.Text.Blank
import ApiCommands.Text.Pieces
import Mathlib.Data.List.TakeWhile

namespace ApiCommands.Text

variable {s : List Char}

/-- A blank text is trimmed to nothing. -/
theorem trim_of_isBlank (h : isBlank s = true) : trim s = [] := by
  have hdrop : s.dropWhile isBlankChar = [] := by
    rw [List.dropWhile_eq_nil_iff]
    exact List.all_eq_true.mp h
  unfold trim trimBy
  rw [hdrop]
  rfl

/-- Between the characters of a text that all separate there is nothing. -/
theorem eq_nil_of_mem_splitWhere {isSep : Char → Bool} {piece : List Char}
    (h : s.all isSep = true) (hpiece : piece ∈ splitWhere isSep s) : piece = [] := by
  induction s with
  | nil => exact List.mem_singleton.mp hpiece
  | cons c rest ih =>
      rw [List.all_cons, Bool.and_eq_true] at h
      rw [splitWhere, if_pos h.1] at hpiece
      rcases List.mem_cons.mp hpiece with hnil | hrest
      · exact hnil
      · exact ih h.2 hrest

/-- A blank text has no words. -/
theorem runsWithout_of_isBlank (h : isBlank s = true) : runsWithout isBlankChar s = [] := by
  unfold runsWithout
  rw [List.filter_eq_nil_iff]
  intro piece hpiece
  rw [eq_nil_of_mem_splitWhere h hpiece]
  simp

-- ====================================================== line ends

/-- No carriage return is left where line ends are unified. -/
theorem not_mem_unifyLineEnds (s : List Char) : '\r' ∉ unifyLineEnds s := by
  induction s using unifyLineEnds.induct with
  | case1 => simp [unifyLineEnds]
  | case2 rest ih =>
      rw [unifyLineEnds, List.mem_cons]
      intro h
      rcases h with heq | hmem
      · exact absurd heq (by decide)
      · exact ih hmem
  | case3 c rest hnot ih =>
      rw [unifyLineEnds.eq_3 c rest hnot, List.mem_cons]
      intro h
      rcases h with heq | hmem
      · by_cases hc : c = '\r'
        · rw [if_pos hc] at heq
          exact absurd heq (by decide)
        · rw [if_neg hc] at heq
          exact hc heq.symm
      · exact ih hmem

/-- Unifying line ends leaves a text as it is exactly if it has no carriage return. -/
theorem unifyLineEnds_eq_self_iff : unifyLineEnds s = s ↔ '\r' ∉ s := by
  constructor
  · intro h
    rw [← h]
    exact not_mem_unifyLineEnds s
  · intro h
    induction s using unifyLineEnds.induct with
    | case1 => rfl
    | case2 rest ih => exact absurd List.mem_cons_self h
    | case3 c rest hnot ih =>
        have hc : c ≠ '\r' := fun heq => h (by rw [heq]; exact List.mem_cons_self)
        rw [unifyLineEnds.eq_3 c rest hnot, if_neg hc,
          ih fun hmem => h (List.mem_cons_of_mem _ hmem)]

end ApiCommands.Text
