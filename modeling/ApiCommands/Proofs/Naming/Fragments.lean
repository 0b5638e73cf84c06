/-
Fragments of a glued word: the longest known one at the front, again and again.

# One step

The known fragments are kept longest first, so the first of them that stands at
the front of a text is the longest one that does (`isLongestAt_of_nextFragment?`).
If there is none, no fragment stands there at all
(`nextFragment?_eq_none_iff`).

# The whole word

`CutGreedily` says which pieces a text falls into, step by step. The search
follows it, and it ends because a fragment that is not empty leaves less of the
text (`exists_fragmentsOf?_eq`). What holds of the pieces is read off the
relation: in a row they are the text (`CutGreedily.flatten_eq`), and each is the
longest fragment at its place or the rest of the text, where no fragment stands
(`CutGreedily.longest_or_rest`).

A text that stays in one piece is a fragment itself or starts with none
(`CutGreedily.eq_singleton_iff`).

# All words of a text

Where no fragment is empty every word has pieces (`fragments_eq_pieces`), so words
in a row have theirs (`mapM_fragments_eq`), and a text that is made of them is made.
-/
import ApiCommands.Naming.Tables.Standard
import ApiCommands.Naming.Words
import ApiCommands.Proofs.Naming.Grouping
import ApiCommands.Proofs.Outcome.Result

namespace ApiCommands

/-- The standard tables with the empty fragment as their only one: where a word is split, the search
for fragments goes on for ever. -/
def Tables.emptyFragment : Tables := { Tables.standard with wordFragments := [""] }

namespace Words

variable {known : List (List Char)} {s piece : List Char}

-- ====================================================== one step

/-- The piece is a known fragment at the front of the text, and no longer one stands there. -/
structure IsLongestAt (known : List (List Char)) (s piece : List Char) : Prop where
  mem : piece ∈ known
  front : piece <+: s
  longest : ∀ f ∈ known, f <+: s → f.length ≤ piece.length

theorem nextFragment?_eq_none_iff :
    nextFragment? known s = none ↔ ∀ f ∈ known, ¬f <+: s := by
  unfold nextFragment?
  simp

/-- The first fragment at the front is the longest one, if longer ones come first. -/
theorem isLongestAt_of_nextFragment? {rest : List Char}
    (hsorted : known.Pairwise fun f g => g.length ≤ f.length)
    (h : nextFragment? known s = some (piece, rest)) :
    IsLongestAt known s piece ∧ s = piece ++ rest := by
  unfold nextFragment? at h
  obtain ⟨found, hfind, hpair⟩ := Option.map_eq_some_iff.mp h
  obtain ⟨rfl, rfl⟩ := Prod.mk.inj hpair
  obtain ⟨hfront, before, after, hsplit, hbefore⟩ := List.find?_eq_some_iff_append.mp hfind
  have hfront : found <+: s := List.isPrefixOf_iff_prefix.mp hfront
  refine ⟨⟨by simp [hsplit], hfront, ?_⟩, (List.prefix_iff_eq_append.mp hfront).symm⟩
  intro f hf hprefix
  rw [hsplit] at hf hsorted
  rcases List.mem_append.mp hf with hf | hf
  · -- what comes before the one found does not stand at the front
    have hnot := hbefore f hf
    simp [List.isPrefixOf_iff_prefix.mpr hprefix] at hnot
  · rcases List.mem_cons.mp hf with rfl | hf
    · exact Nat.le_refl _
    · exact (List.pairwise_cons.mp (List.pairwise_append.mp hsorted).2.1).1 f hf

-- ====================================================== the whole text

/-- The pieces a text is cut into: the longest fragment at the front, and so on with what remains;
a remainder no fragment stands in front of is the last piece. -/
inductive CutGreedily (known : List (List Char)) : List Char → List (List Char) → Prop where
  | done : CutGreedily known [] []
  | rest {s : List Char} (hne : s ≠ []) (hnone : ∀ f ∈ known, ¬f <+: s) :
      CutGreedily known s [s]
  | piece {f s : List Char} {pieces : List (List Char)}
      (hlongest : IsLongestAt known (f ++ s) f) (hrest : CutGreedily known s pieces) :
      CutGreedily known (f ++ s) (f :: pieces)

/-- The search ends and cuts the text greedily, if no fragment is empty. -/
theorem exists_fragmentsOf?_eq (hsorted : known.Pairwise fun f g => g.length ≤ f.length)
    (hne : [] ∉ known) (s : List Char) :
    ∃ pieces, fragmentsOf? known s = some pieces ∧ CutGreedily known s pieces := by
  fun_induction fragmentsOf? known s with
  | case1 => exact ⟨[], rfl, .done⟩
  | case2 s hs hnone =>
      exact ⟨[s], rfl, .rest hs (nextFragment?_eq_none_iff.mp hnone)⟩
  | case3 s hs piece rest hnext hlt ih =>
      obtain ⟨hlongest, rfl⟩ := isLongestAt_of_nextFragment? hsorted hnext
      obtain ⟨pieces, hpieces, hcut⟩ := ih
      exact ⟨piece :: pieces, by rw [hpieces, Option.map_some], .piece hlongest hcut⟩
  | case4 s hs piece rest hnext hnlt =>
      -- a step that does not move on would have taken the empty fragment
      obtain ⟨hlongest, rfl⟩ := isLongestAt_of_nextFragment? hsorted hnext
      have hempty : piece = [] := by
        apply List.eq_nil_of_length_eq_zero
        rw [List.length_append] at hnlt
        omega
      exact absurd (hempty ▸ hlongest.mem) hne

namespace CutGreedily

variable {pieces : List (List Char)}

/-- The pieces in a row are the text. -/
theorem flatten_eq (h : CutGreedily known s pieces) : pieces.flatten = s := by
  induction h with
  | done => rfl
  | rest _ _ => simp
  | piece _ _ ih => rw [List.flatten_cons, ih]

/-- Each piece is the longest fragment at the front of what remains at its place, or it is the last
one and no fragment stands at its front. -/
theorem longest_or_rest (h : CutGreedily known s pieces) {front back : List (List Char)}
    (hsplit : pieces = front ++ piece :: back) :
    IsLongestAt known (piece ++ back.flatten) piece
      ∨ back = [] ∧ ∀ f ∈ known, ¬f <+: piece := by
  induction h generalizing front with
  | done => simp at hsplit
  | rest _ hnone =>
      cases front with
      | nil =>
          obtain ⟨rfl, rfl⟩ := List.cons.inj hsplit
          exact Or.inr ⟨rfl, hnone⟩
      | cons _ _ => simp at hsplit
  | piece hlongest hrest ih =>
      cases front with
      | nil =>
          obtain ⟨rfl, rfl⟩ := List.cons.inj hsplit
          rw [hrest.flatten_eq]
          exact Or.inl hlongest
      | cons _ _ => exact ih (List.cons.inj hsplit).2

/-- No piece is empty. -/
theorem ne_nil_of_mem (hne : [] ∉ known) (h : CutGreedily known s pieces) :
    ∀ piece ∈ pieces, piece ≠ [] := by
  induction h with
  | done => simp
  | rest hs _ => simpa using hs
  | piece hlongest _ ih =>
      intro piece hpiece
      rcases List.mem_cons.mp hpiece with rfl | hpiece
      · exact ne_of_mem_of_not_mem hlongest.mem hne
      · exact ih piece hpiece

/-- A text stays in one piece exactly if it is a fragment, or none stands at its front. -/
theorem eq_singleton_iff (hne : [] ∉ known) (hs : s ≠ []) (h : CutGreedily known s pieces) :
    pieces = [s] ↔ s ∈ known ∨ ∀ f ∈ known, ¬f <+: s := by
  constructor
  · rintro rfl
    rcases h.longest_or_rest (List.nil_append [s]).symm with hlongest | ⟨-, hnone⟩
    · exact Or.inl hlongest.mem
    · exact Or.inr hnone
  · intro hkept
    cases h with
    | done => exact absurd rfl hs
    | rest _ _ => rfl
    | @piece f s pieces hlongest hrest =>
        rcases hkept with hknown | hnone
        · -- the whole text is no longer than the longest fragment at its front
          have hle := hlongest.longest _ hknown (List.prefix_refl _)
          have hnil : s = [] := by
            apply List.eq_nil_of_length_eq_zero
            rw [List.length_append] at hle
            omega
          subst hnil
          have hflat := hrest.flatten_eq
          cases pieces with
          | nil => simp
          | cons first more =>
              have hfirst := hrest.ne_nil_of_mem hne first (by simp)
              simp [hfirst] at hflat
        · exact absurd hlongest.front (hnone f hlongest.mem)

/-- Only which fragments are known matters, not in which order they are kept. -/
theorem congr {known' : List (List Char)} (hmem : ∀ f, f ∈ known ↔ f ∈ known')
    (h : CutGreedily known s pieces) : CutGreedily known' s pieces := by
  induction h with
  | done => exact .done
  | rest hs hnone => exact .rest hs fun f hf => hnone f ((hmem f).mpr hf)
  | piece hlongest _ ih =>
      refine .piece ⟨(hmem _).mp hlongest.mem, hlongest.front, ?_⟩ ih
      exact fun f hf => hlongest.longest f ((hmem f).mpr hf)

end CutGreedily

-- ====================================================== words

/-- The fragments the tables know. -/
def fragmentTexts (t : Tables) : List (List Char) := t.wordFragments.map String.toList

variable {t : Tables} {word : List Char}

theorem nil_notMem_fragmentTexts (hfragments : "" ∉ t.wordFragments) : [] ∉ fragmentTexts t := by
  intro h
  obtain ⟨fragment, hmem, hnil⟩ := List.mem_map.mp h
  exact hfragments (String.toList_eq_nil_iff.mp hnil ▸ hmem)

theorem pairwise_longestFirst (t : Tables) :
    (longestFirst t).Pairwise fun f g => g.length ≤ f.length := by
  have hle : ∀ f g : List Char, decide (g.length ≤ f.length) = true
      ↔ OrderDual.toDual f.length ≤ OrderDual.toDual g.length := by
    intro f g
    rw [decide_eq_true_iff, OrderDual.toDual_le_toDual]
  exact (pairwise_le_mergeSort hle _).imp OrderDual.toDual_le_toDual.mp

/-- The pieces of a word, if the search for them ends; else there are none. -/
def pieces (t : Tables) (word : List Char) : List (List Char) := (fragments? t word).getD []

/-- A word without capitals that may be split is cut greedily. -/
theorem cutGreedily_pieces (hfragments : "" ∉ t.wordFragments)
    (hlow : word.any Text.isUpper = false)
    (hsplit : String.ofList (Text.lower word) ∉ t.unsplittableWords) :
    fragments? t word = some (pieces t word)
      ∧ CutGreedily (fragmentTexts t) (Text.lower word) (pieces t word) := by
  have hmem : ∀ f, f ∈ longestFirst t ↔ f ∈ fragmentTexts t :=
    fun f => (List.mergeSort_perm _ _).mem_iff
  have hne : [] ∉ longestFirst t := by
    rw [hmem]
    exact nil_notMem_fragmentTexts hfragments
  obtain ⟨found, hfound, hcut⟩ :=
    exists_fragmentsOf?_eq (pairwise_longestFirst t) hne (Text.lower word)
  have heq : fragments? t word = some found := by
    unfold fragments?
    simp [hlow, hsplit, hfound]
  unfold pieces
  rw [heq]
  exact ⟨rfl, hcut.congr hmem⟩

/-- A word with capitals is one piece. -/
theorem fragments?_of_isUpper (hupper : word.any Text.isUpper = true) :
    fragments? t word = some [word] := by
  unfold fragments?
  rw [if_pos hupper]

/-- A word that may not be split is one piece, in lower case. -/
theorem fragments?_of_unsplittable (hlow : word.any Text.isUpper = false)
    (hwhole : String.ofList (Text.lower word) ∈ t.unsplittableWords) :
    fragments? t word = some [Text.lower word] := by
  unfold fragments?
  simp [hlow, hwhole]

/-- Every word has pieces, if no fragment is empty. -/
theorem fragments_eq_pieces (hfragments : "" ∉ t.wordFragments) (word : List Char) :
    fragments t word = .ok (pieces t word) := by
  have hsome : ∃ found, fragments? t word = some found := by
    cases hupper : word.any Text.isUpper with
    | true => exact ⟨_, fragments?_of_isUpper hupper⟩
    | false =>
        by_cases hwhole : String.ofList (Text.lower word) ∈ t.unsplittableWords
        · exact ⟨_, fragments?_of_unsplittable hupper hwhole⟩
        · exact ⟨_, (cutGreedily_pieces hfragments hupper hwhole).1⟩
  obtain ⟨found, hfound⟩ := hsome
  unfold fragments pieces
  rw [hfound]
  rfl

/-- In general a word has pieces exactly if the search for them ends. -/
theorem exists_fragments_eq_ok_iff :
    (∃ found, fragments t word = .ok found) ↔ (fragments? t word).isSome = true := by
  unfold fragments
  cases fragments? t word with
  | none => simp
  | some found => simp

/-- If no fragment is empty, all words in a row have theirs. -/
theorem mapM_fragments_eq (hfragments : "" ∉ t.wordFragments) (words : List (List Char)) :
    words.mapM (fragments t) = .ok (words.map (pieces t)) :=
  Except.mapM_eq_ok_map fun word _ => fragments_eq_pieces hfragments word

/-- If no fragment is empty, a word without capitals that may be split falls into pieces that are
its lower case in a row. Each piece is a fragment at the front of what remains at its place, and no
longer one stands there; or it is the last piece and no fragment stands at its front. -/
theorem fragments_cut_greedily (hfragments : "" ∉ t.wordFragments)
    (hlow : word.any Text.isUpper = false)
    (hsplit : String.ofList (Text.lower word) ∉ t.unsplittableWords) :
    ∃ pieces, fragments t word = .ok pieces ∧ pieces.flatten = Text.lower word
      ∧ ∀ front piece back, pieces = front ++ piece :: back →
        (∃ f ∈ t.wordFragments, f.toList = piece
            ∧ ∀ g ∈ t.wordFragments, g.toList <+: piece ++ back.flatten → g.length ≤ f.length)
          ∨ back = [] ∧ ∀ g ∈ t.wordFragments, ¬g.toList <+: piece := by
  have hcut := (cutGreedily_pieces hfragments hlow hsplit).2
  refine ⟨_, fragments_eq_pieces hfragments word, hcut.flatten_eq, ?_⟩
  intro front piece back heq
  rcases hcut.longest_or_rest heq with hlongest | ⟨hback, hnone⟩
  · obtain ⟨f, hf, rfl⟩ := List.mem_map.mp hlongest.mem
    refine Or.inl ⟨f, hf, rfl, ?_⟩
    intro g hg hfront
    rw [← String.length_toList, ← String.length_toList]
    exact hlongest.longest g.toList (List.mem_map.mpr ⟨g, hg, rfl⟩) hfront
  · exact Or.inr ⟨hback, fun g hg => hnone g.toList (List.mem_map.mpr ⟨g, hg, rfl⟩)⟩

/-- A word of fragments that start alike loses nothing. -/
theorem subtasksToTop_cut_greedily :
    "" ∉ Tables.standard.wordFragments ∧ "subtaskstotop".toList.any Text.isUpper = false
      ∧ String.ofList (Text.lower "subtaskstotop".toList) ∉ Tables.standard.unsplittableWords
      ∧ ∃ pieces, fragments .standard "subtaskstotop".toList = .ok pieces
          ∧ pieces.flatten = Text.lower "subtaskstotop".toList := by
  have hfragments : "" ∉ Tables.standard.wordFragments := by decide
  have hlow : "subtaskstotop".toList.any Text.isUpper = false := by decide
  have hsplit : String.ofList (Text.lower "subtaskstotop".toList)
      ∉ Tables.standard.unsplittableWords := by decide
  obtain ⟨pieces, hpieces, hflat, -⟩ := fragments_cut_greedily hfragments hlow hsplit
  exact ⟨hfragments, hlow, hsplit, pieces, hpieces, hflat⟩

end Words

end ApiCommands
