/-
Cutting, trimming and splitting.

A text is cut at the first separator it has. What stands in front of the cut has
none, and this tells where the cut is (`cutAt_eq_some_iff`). Trimming takes
characters from the ends only, so it gives a part of the text (`trim_sublist`), and
what stands between two characters that stay is not touched (`trimBy_append_cons`).
Splitting is that of the library (`splitWhere_eq_splitOnP`): it leaves out the
separators, and a text is its one part exactly if it has no separator and is not
empty (`partsOn_eq_singleton_iff`). Pieces that hold no
separator are what is left of their join without it (`filter_join`), and if none
is empty, splitting the join gives them back (`runsWithout_join`). The runs of a text are
those in front of a separator and then those behind it (`runsWithout_append`).
-/
import ApiCommands.Text.Blank
import ApiCommands.Text.Pieces

namespace ApiCommands.Text

variable {sep : Char} {s : List Char}

-- ====================================================== cutting

/-- A text that starts with the separator is cut there. -/
theorem cutAt_cons_self (sep : Char) (rest : List Char) :
    cutAt sep (sep :: rest) = some ([], rest) := by
  simp [cutAt]

/-- Any other first character stands in front of the cut. -/
theorem cutAt_cons_of_ne {c : Char} (h : c ≠ sep) (rest : List Char) :
    cutAt sep (c :: rest) = (cutAt sep rest).map fun (front, back) => (c :: front, back) := by
  unfold cutAt
  rw [List.dropWhile_cons_of_pos (by simpa using h), List.takeWhile_cons_of_pos (by simpa using h)]
  cases rest.dropWhile (· != sep) with
  | nil => rfl
  | cons d back => rfl

/-- A text is cut at a separator that has none in front of it. -/
theorem cutAt_eq_some_iff {front back : List Char} :
    cutAt sep s = some (front, back) ↔ s = front ++ sep :: back ∧ sep ∉ front := by
  induction s generalizing front with
  | nil => simp [cutAt]
  | cons c rest ih =>
      by_cases hc : c = sep
      · subst hc
        rw [cutAt_cons_self]
        cases front with
        | nil => simp
        | cons d more =>
            constructor
            · intro h
              cases h
            · intro h
              obtain ⟨heq, hnot⟩ := h
              exact absurd (by rw [(List.cons.inj heq).1]; exact List.mem_cons_self) hnot
      · rw [cutAt_cons_of_ne hc]
        cases front with
        | nil =>
            constructor
            · intro h
              obtain ⟨_, -, heq⟩ := Option.map_eq_some_iff.mp h
              cases heq
            · intro h
              exact absurd (List.cons.inj h.1).1 hc
        | cons d more =>
            have htail : (cutAt sep rest).map (fun (front, back) => (c :: front, back))
                = some (d :: more, back) ↔ c = d ∧ cutAt sep rest = some (more, back) := by
              cases cutAt sep rest with
              | none => simp
              | some pair =>
                  obtain ⟨first, last⟩ := pair
                  simp [and_assoc]
            rw [htail, ih, List.cons_append, List.cons.injEq, List.mem_cons, not_or, and_assoc]
            constructor
            · intro h
              obtain ⟨rfl, hrest, hmore⟩ := h
              exact ⟨rfl, hrest, Ne.symm hc, hmore⟩
            · intro h
              exact ⟨h.1, h.2.1, h.2.2.2⟩

/-- A text without separators cannot be cut. -/
theorem cutAt_eq_none_iff : cutAt sep s = none ↔ sep ∉ s := by
  induction s with
  | nil => simp [cutAt]
  | cons c rest ih =>
      by_cases hc : c = sep
      · subst hc
        simp [cutAt_cons_self]
      · rw [cutAt_cons_of_ne hc, Option.map_eq_none_iff, ih, List.mem_cons, not_or]
        exact ⟨fun h => ⟨Ne.symm hc, h⟩, And.right⟩

/-- A prefix is dropped from what starts with it. -/
theorem dropPrefix?_eq_some_iff {front back : List Char} :
    dropPrefix? front s = some back ↔ s = front ++ back := by
  unfold dropPrefix?
  constructor
  · intro h
    split at h
    · next hprefix =>
      rw [← Option.some.inj h]
      exact List.prefix_iff_eq_append.mp (List.isPrefixOf_iff_prefix.mp hprefix) |>.symm
    · cases h
  · rintro rfl
    rw [if_pos (List.isPrefixOf_iff_prefix.mpr (List.prefix_append front back)),
      List.drop_left]

-- ====================================================== trimming

/-- A text without what stands at its ends is a part of the text. -/
theorem trimBy_sublist (p : Char → Bool) (s : List Char) : (trimBy p s).Sublist s := by
  unfold trimBy
  rw [List.reverse_sublist.symm, List.reverse_reverse]
  exact (List.dropWhile_sublist _).trans (List.reverse_sublist.mpr (List.dropWhile_sublist _))

/-- What is left does not start with what was taken off. -/
theorem trimBy_cons {p : Char → Bool} {s rest : List Char} {c : Char}
    (h : trimBy p s = c :: rest) : p c = false := by
  have hfront : c :: rest <+: s.dropWhile p := by
    rw [← h]
    unfold trimBy
    rw [← List.reverse_suffix, List.reverse_reverse]
    exact List.dropWhile_suffix p
  obtain ⟨more, hmore⟩ := hfront
  have hhead := List.head?_dropWhile_not p s
  rw [← hmore] at hhead
  exact hhead

/-- A trimmed text is a part of the text. -/
theorem trim_sublist (s : List Char) : (trim s).Sublist s := trimBy_sublist isBlankChar s

/-- A text with nothing to take off at either end is left as it is. -/
theorem trimBy_eq_self {p : Char → Bool} (hhead : s.head?.any p = false)
    (hlast : s.getLast?.any p = false) : trimBy p s = s := by
  have hkeep : ∀ t : List Char, t.head?.any p = false → t.dropWhile p = t := by
    intro t ht
    cases t with
    | nil => rfl
    | cons c rest => exact List.dropWhile_cons_of_neg (by simpa using ht)
  unfold trimBy
  rw [hkeep s hhead, hkeep s.reverse (by rw [List.head?_reverse]; exact hlast),
    List.reverse_reverse]

theorem trim_eq_self (hhead : s.head?.any isBlankChar = false)
    (hlast : s.getLast?.any isBlankChar = false) : trim s = s :=
  trimBy_eq_self hhead hlast

/-- What is taken off in front may as well not be there. -/
theorem trimBy_cons_of_pos {p : Char → Bool} {c : Char} (hc : p c = true) (s : List Char) :
    trimBy p (c :: s) = trimBy p s := by
  unfold trimBy
  rw [List.dropWhile_cons_of_pos hc]

/-- The same at the end. -/
theorem trimBy_concat_of_pos {p : Char → Bool} {c : Char} (hc : p c = true) (s : List Char) :
    trimBy p (s ++ [c]) = trimBy p s := by
  unfold trimBy
  rw [List.dropWhile_append]
  split
  · next hnil =>
    rw [List.isEmpty_iff.mp hnil, List.dropWhile_cons_of_pos hc]
    rfl
  · rw [List.reverse_append, List.reverse_singleton, List.singleton_append,
      List.dropWhile_cons_of_pos hc]

/-- Taking characters off the front comes no further than to one that stays. -/
private theorem dropWhile_append_cons {p : Char → Bool} {c : Char} (hc : p c = false)
    (front rest : List Char) :
    (front ++ c :: rest).dropWhile p = front.dropWhile p ++ c :: rest := by
  rw [List.dropWhile_append]
  split
  · next hnil =>
    rw [List.isEmpty_iff.mp hnil, List.dropWhile_cons_of_neg (by simp [hc])]
    rfl
  · rfl

/-- A character that stays in front is the first of what is left. -/
theorem trimBy_cons_of_neg {p : Char → Bool} {c : Char} (hc : p c = false) (s : List Char) :
    trimBy p (c :: s) = c :: (s.reverse.dropWhile p).reverse := by
  unfold trimBy
  rw [List.dropWhile_cons_of_neg (by simp [hc]), List.reverse_cons, dropWhile_append_cons hc,
    List.reverse_append]
  rfl

/-- What stands between two characters that stay is not touched. -/
theorem trimBy_append_cons {p : Char → Bool} {front rest : List Char} {c : Char}
    (hfront : front.head?.any p = false) (hne : front ≠ []) (hc : p c = false) :
    trimBy p (front ++ c :: rest) = front ++ trimBy p (c :: rest) := by
  obtain ⟨d, more, rfl⟩ := List.exists_cons_of_ne_nil hne
  have hreverse : (more ++ c :: rest).reverse = rest.reverse ++ c :: more.reverse := by simp
  rw [List.cons_append, trimBy_cons_of_neg hfront, trimBy_cons_of_neg hc, hreverse,
    dropWhile_append_cons hc, List.reverse_append, List.reverse_cons, List.reverse_reverse]
  simp

-- ====================================================== splitting

/-- The runs of a text have its characters without the separators. -/
theorem flatten_runsWithout (isSep : Char → Bool) (s : List Char) :
    (runsWithout isSep s).flatten = s.filter (!isSep ·) := by
  have hdrop : ∀ pieces : List (List Char),
      (pieces.filter (!·.isEmpty)).flatten = pieces.flatten := by
    intro pieces
    induction pieces with
    | nil => rfl
    | cons piece rest ih => cases piece <;> simp [ih]
  unfold runsWithout
  rw [hdrop, flatten_splitWhere]

theorem flatten_partsOn (sep : Char) (s : List Char) :
    (partsOn sep s).flatten = s.filter (· != sep) :=
  flatten_runsWithout (· == sep) s

/-- The only part of a text stands in it. -/
theorem sublist_of_partsOn_eq_singleton {t : List Char} (h : partsOn sep s = [t]) :
    t.Sublist s := by
  have hflat := flatten_partsOn sep s
  rw [h, List.flatten_singleton] at hflat
  rw [hflat]
  exact List.filter_sublist

/-- A text is its one part exactly if it has no separator and is not empty. -/
theorem partsOn_eq_singleton_iff : partsOn sep s = [s] ↔ sep ∉ s ∧ s ≠ [] := by
  constructor
  · intro h
    have hmem : s ∈ (splitWhere (· == sep) s).filter (!·.isEmpty) := by
      show s ∈ partsOn sep s
      rw [h]
      exact List.mem_singleton_self s
    obtain ⟨hpiece, hne⟩ := List.mem_filter.mp hmem
    constructor
    · intro hsep
      simpa using not_isSep_of_mem_splitWhere hpiece sep hsep
    · intro hnil
      simp [hnil] at hne
  · intro h
    obtain ⟨hsep, hne⟩ := h
    unfold partsOn runsWithout
    rw [splitWhere_of_not_isSep fun c hc => by
      simpa using fun heq : c = sep => hsep (heq ▸ hc)]
    simpa using hne

-- ====================================================== joining

variable {pieces : List (List Char)}

/-- What stands in a row of pieces stands in one of them, or between them. -/
theorem mem_join {between : List Char} {c : Char} (h : c ∈ join between pieces) :
    c ∈ between ∨ ∃ piece ∈ pieces, c ∈ piece := by
  unfold join at h
  induction pieces with
  | nil => cases h
  | cons piece rest ih =>
      cases rest with
      | nil =>
          rw [List.intercalate_singleton] at h
          exact Or.inr ⟨piece, List.mem_cons_self, h⟩
      | cons next others =>
          rw [List.intercalate_cons_cons, List.mem_append, List.mem_append] at h
          rcases h with (hpiece | hbetween) | hrest
          · exact Or.inr ⟨piece, List.mem_cons_self, hpiece⟩
          · exact Or.inl hbetween
          · refine (ih hrest).imp_right ?_
            rintro ⟨other, hother, hc⟩
            exact ⟨other, List.mem_cons_of_mem _ hother, hc⟩

/-- The same for texts in a row. -/
theorem mem_toList_joined {separator : String} {ss : List String} {c : Char}
    (h : c ∈ (joined separator ss).toList) :
    c ∈ separator.toList ∨ ∃ s ∈ ss, c ∈ s.toList := by
  unfold joined at h
  rw [String.toList_intercalate] at h
  refine (mem_join h).imp_right ?_
  rintro ⟨piece, hpiece, hc⟩
  obtain ⟨s, hs, rfl⟩ := List.mem_map.mp hpiece
  exact ⟨s, hs, hc⟩

/-- Without its separators a join of pieces without separators is the pieces in a row. -/
theorem filter_join (h : ∀ piece ∈ pieces, sep ∉ piece) :
    (join [sep] pieces).filter (· != sep) = pieces.flatten := by
  induction pieces with
  | nil => rfl
  | cons piece more ih =>
      have hpiece : piece.filter (· != sep) = piece := by
        rw [List.filter_eq_self]
        intro c hc
        simpa using fun heq : c = sep => h piece List.mem_cons_self (heq ▸ hc)
      have hmore := ih fun next hnext => h next (List.mem_cons_of_mem _ hnext)
      unfold join at hmore ⊢
      cases more with
      | nil => simpa using hpiece
      | cons next more =>
          rw [List.intercalate_cons_cons, List.filter_append, List.filter_append, hpiece, hmore]
          simp

theorem splitWhere_eq_splitOnP (isSep : Char → Bool) (s : List Char) :
    splitWhere isSep s = s.splitOnP isSep := by
  induction s with
  | nil => rfl
  | cons c rest ih =>
      rw [splitWhere, List.splitOnP_cons_eq_if_modifyHead, ih]
      refine ite_congr rfl (fun _ => rfl) fun _ => ?_
      cases hpieces : rest.splitOnP isSep with
      | nil => exact absurd hpieces (List.splitOnP_ne_nil _ _)
      | cons piece more => rfl

theorem splitOn_eq_splitOn (sep : Char) (s : List Char) : splitOn sep s = s.splitOn sep :=
  splitWhere_eq_splitOnP (· == sep) s

/-- On either side of a separator a text has its own pieces. -/
theorem splitWhere_append {isSep : Char → Bool} {c : Char} (hc : isSep c = true)
    (front back : List Char) :
    splitWhere isSep (front ++ c :: back) = splitWhere isSep front ++ splitWhere isSep back := by
  rw [splitWhere_eq_splitOnP, splitWhere_eq_splitOnP, splitWhere_eq_splitOnP]
  exact List.splitOnP_append_cons front back hc

/-- A piece without separators in front of one is split off. -/
theorem splitWhere_append_cons {isSep : Char → Bool} {piece : List Char} {c : Char}
    (hpiece : ∀ d ∈ piece, isSep d = false) (hc : isSep c = true) (rest : List Char) :
    splitWhere isSep (piece ++ c :: rest) = piece :: splitWhere isSep rest := by
  rw [splitWhere_append hc, splitWhere_of_not_isSep hpiece, List.singleton_append]

/-- Splitting a join gives the pieces back, if they hold no separator and there is one at least. -/
theorem splitWhere_join {isSep : Char → Bool} (hne : pieces ≠ [])
    (h : ∀ piece ∈ pieces, ∀ c ∈ piece, isSep c = false) (hsep : isSep sep = true) :
    splitWhere isSep (join [sep] pieces) = pieces := by
  induction pieces with
  | nil => exact absurd rfl hne
  | cons piece more ih =>
      have hpiece := h piece List.mem_cons_self
      unfold join at ih ⊢
      cases more with
      | nil =>
          rw [List.intercalate_singleton]
          exact splitWhere_of_not_isSep hpiece
      | cons next more =>
          have hmore := ih (List.cons_ne_nil _ _) fun other hother =>
            h other (List.mem_cons_of_mem _ hother)
          rw [List.intercalate_cons_cons, List.append_assoc, List.singleton_append,
            splitWhere_append_cons hpiece hsep, hmore]

/-- The runs of a join are the pieces, if they are not empty and hold no separator. -/
theorem runsWithout_join {isSep : Char → Bool} (hsep : isSep sep = true)
    (h : ∀ piece ∈ pieces, piece ≠ [] ∧ ∀ c ∈ piece, isSep c = false) :
    runsWithout isSep (join [sep] pieces) = pieces := by
  by_cases hnil : pieces = []
  · rw [hnil]
    unfold join runsWithout
    rw [List.intercalate_nil]
    rfl
  · unfold runsWithout
    rw [splitWhere_join hnil (fun piece hpiece => (h piece hpiece).2) hsep, List.filter_eq_self]
    intro piece hpiece
    simpa using (h piece hpiece).1

theorem partsOn_join (h : ∀ piece ∈ pieces, piece ≠ [] ∧ sep ∉ piece) :
    partsOn sep (join [sep] pieces) = pieces := by
  refine runsWithout_join (beq_self_eq_true sep) fun piece hpiece => ⟨(h piece hpiece).1, ?_⟩
  intro c hc
  simpa using fun heq : c = sep => (h piece hpiece).2 (heq ▸ hc)

/-- On either side of a separator a text has its own runs. -/
theorem runsWithout_append {isSep : Char → Bool} {c : Char} (hc : isSep c = true)
    (front back : List Char) :
    runsWithout isSep (front ++ c :: back)
      = runsWithout isSep front ++ runsWithout isSep back := by
  unfold runsWithout
  rw [splitWhere_append hc, List.filter_append]

/-- Separators in front give no run. -/
theorem runsWithout_dropWhile (isSep : Char → Bool) (s : List Char) :
    runsWithout isSep (s.dropWhile isSep) = runsWithout isSep s := by
  induction s with
  | nil => rfl
  | cons c rest ih =>
      by_cases hc : isSep c = true
      · rw [List.dropWhile_cons_of_pos hc, ih]
        exact (runsWithout_append hc [] rest).symm
      · rw [List.dropWhile_cons_of_neg hc]

-- ====================================================== replacing

/-- What needs a character the text does not have is not replaced. -/
theorem replaceNonempty_eq_self {old new : List Char} {c : Char} (hc : c ∈ old) (hs : c ∉ s) :
    replaceNonempty old new s = s := by
  induction s with
  | nil => rw [replaceNonempty]
  | cons d rest ih =>
      have hfront : old.isPrefixOf (d :: rest) = false := by
        rw [Bool.eq_false_iff]
        intro hprefix
        exact hs ((List.isPrefixOf_iff_prefix.mp hprefix).subset hc)
      rw [replaceNonempty, hfront, if_neg Bool.false_ne_true,
        ih fun hrest => hs (List.mem_cons_of_mem _ hrest)]

/-- What starts with a text that lacks a character does so in front of this character. -/
theorem isPrefixOf_append_cons {old front : List Char} {c : Char} (hc : c ∉ old)
    (back : List Char) : old.isPrefixOf (front ++ c :: back) = old.isPrefixOf front := by
  rw [Bool.eq_iff_iff, List.isPrefixOf_iff_prefix, List.isPrefixOf_iff_prefix]
  constructor
  · intro h
    rcases List.prefix_or_prefix_of_prefix h (List.prefix_append front (c :: back)) with
      hshort | ⟨rest, rfl⟩
    · exact hshort
    · cases rest with
      | nil => exact ⟨[], (List.append_nil _).trans (List.append_nil front)⟩
      | cons d rest =>
          obtain ⟨rfl, -⟩ := List.cons_prefix_cons.mp (List.prefix_append_right_inj front |>.mp h)
          exact absurd (List.mem_append_right _ List.mem_cons_self) hc
  · exact fun h => h.trans (List.prefix_append front (c :: back))

/-- What lacks a character is replaced on either side of it. -/
theorem replaceNonempty_append_cons {old new : List Char} {c : Char} (hne : old ≠ [])
    (hc : c ∉ old) (front back : List Char) :
    replaceNonempty old new (front ++ c :: back)
      = replaceNonempty old new front ++ c :: replaceNonempty old new back := by
  fun_induction replaceNonempty old new front with
  | case1 =>
      have hother : old.isPrefixOf (c :: back) = false := by
        rw [show c :: back = [] ++ c :: back from rfl, isPrefixOf_append_cons hc,
          Bool.eq_false_iff]
        exact fun h => hne (List.prefix_nil.mp (List.isPrefixOf_iff_prefix.mp h))
      rw [List.nil_append, List.nil_append, replaceNonempty, hother, if_neg Bool.false_ne_true]
  | case2 d rest hprefix ih =>
      have hlength : old.length - 1 ≤ rest.length := by
        have hle := (List.isPrefixOf_iff_prefix.mp hprefix).length_le
        rw [List.length_cons] at hle
        omega
      have hfront : old.isPrefixOf (d :: (rest ++ c :: back)) = true := by
        rw [← List.cons_append, isPrefixOf_append_cons hc, hprefix]
      rw [List.cons_append, replaceNonempty, if_pos hfront, List.drop_append_of_le_length hlength,
        ih, List.append_assoc]
  | case3 d rest hother ih =>
      have hfront : ¬old.isPrefixOf (d :: (rest ++ c :: back)) = true := by
        rw [← List.cons_append, isPrefixOf_append_cons hc]
        exact hother
      rw [List.cons_append, replaceNonempty, if_neg hfront, ih, List.cons_append]

theorem replace_eq_self {old new : List Char} {c : Char} (hc : c ∈ old) (hs : c ∉ s) :
    replace old new s = s := by
  have hne : old.isEmpty = false := by
    rw [List.isEmpty_eq_false_iff]
    exact List.ne_nil_of_mem hc
  unfold replace
  rw [hne, if_neg Bool.false_ne_true, replaceNonempty_eq_self hc hs]

end ApiCommands.Text
