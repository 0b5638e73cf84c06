/-
Whether the search for fragments ends.

# One iteration

An iteration that goes on takes a known fragment from the front of the text
(`GoesOn.exists_append`), so the text gets shorter by that fragment: strictly
shorter if it is not empty. The empty fragment stands at the front of every
text. It is the shortest one, so it is taken exactly where no other fragment
stands at the front, and then the text is what it was.

# The whole search

The search ends if no run of iterations goes on for ever (`Ends`). Either it does, and then it has
an answer, or it comes to a text that it does not leave again
(`isSome_or_exists_stuck`); both at once cannot be (`Ends.not_stuck`). The case
split is that of the search itself.

# Which tables are safe

Every iteration shortens the text exactly if the empty text is no fragment, or if
every single character is one, so that the empty one is never taken
(`goesOn_shortens_iff`). Reading tables does not ask for that: any row of texts is
accepted as the fragments.
-/
import ApiCommands.Proofs.Naming.Fragments
import ApiCommands.Proofs.Naming.Overrides
import Mathlib.Logic.Relation

namespace ApiCommands.Words

variable {known : List (List Char)} {s rest stuck : List Char}

-- ====================================================== one iteration

/-- An iteration that goes on with `rest`: there is text left, and a fragment is taken from it. -/
def GoesOn (known : List (List Char)) (s rest : List Char) : Prop :=
  s ≠ [] ∧ ∃ piece, nextFragment? known s = some (piece, rest)

/-- The text is a fragment and what the iteration leaves. -/
theorem GoesOn.exists_append (h : GoesOn known s rest) :
    ∃ piece ∈ known, s = piece ++ rest ∧ (rest.length < s.length ↔ piece ≠ []) := by
  obtain ⟨-, piece, hnext⟩ := h
  unfold nextFragment? at hnext
  obtain ⟨found, hfind, hpair⟩ := Option.map_eq_some_iff.mp hnext
  obtain ⟨rfl, rfl⟩ := Prod.mk.inj hpair
  have htest : found.isPrefixOf s = true := by simpa using List.find?_some hfind
  have hfront : found <+: s := List.isPrefixOf_iff_prefix.mp htest
  have happend := (List.prefix_iff_eq_append.mp hfront).symm
  refine ⟨found, List.mem_of_find?_eq_some hfind, happend, ?_⟩
  have hlen := congrArg List.length happend
  rw [List.length_append] at hlen
  rw [← List.length_pos_iff]
  omega

/-- There is one way to go on. -/
theorem GoesOn.unique {other : List Char} (h : GoesOn known s rest)
    (hother : GoesOn known s other) : rest = other := by
  obtain ⟨-, piece, hnext⟩ := h
  obtain ⟨-, piece', hnext'⟩ := hother
  rw [hnext] at hnext'
  exact (Prod.mk.inj (Option.some.inj hnext')).2

-- ====================================================== the whole search

/-- The search from a text ends: wherever it goes on to, it ends from there. -/
inductive Ends (known : List (List Char)) : List Char → Prop where
  | of_forall {s : List Char} (h : ∀ rest, GoesOn known s rest → Ends known rest) : Ends known s

theorem Ends.of_goesOn (h : Ends known s) (hstep : GoesOn known s rest) : Ends known rest := by
  cases h with
  | of_forall h => exact h rest hstep

/-- A search does not end from a text that it goes on from with that text. -/
theorem Ends.not_goesOn_self (h : Ends known s) : ¬GoesOn known s s := by
  induction h with
  | of_forall _ ih => exact fun hself => ih _ hself hself

/-- So a search that ends comes to no such text. -/
theorem Ends.not_stuck (h : Ends known s) (hreach : Relation.ReflTransGen (GoesOn known) s stuck) :
    ¬GoesOn known stuck stuck := by
  have hends : Ends known stuck := by
    induction hreach with
    | refl => exact h
    | tail _ hstep ih => exact ih.of_goesOn hstep
  exact hends.not_goesOn_self

/-- A search with an answer ends. -/
theorem ends_of_isSome (h : (fragmentsOf? known s).isSome = true) : Ends known s := by
  fun_induction fragmentsOf? known s with
  | case1 => exact .of_forall fun _ hstep => absurd rfl hstep.1
  | case2 s hs hnone =>
      refine .of_forall fun _ hstep => ?_
      obtain ⟨-, _, hnext⟩ := hstep
      rw [hnone] at hnext
      cases hnext
  | case3 s hs piece rest hnext hlt ih =>
      have hrest : Ends known rest := ih (by simpa using h)
      exact .of_forall fun other hstep => GoesOn.unique ⟨hs, piece, hnext⟩ hstep ▸ hrest
  | case4 => cases h

/-- A search without an answer comes to a text that it does not leave again. -/
theorem isSome_or_exists_stuck (known : List (List Char)) (s : List Char) :
    (fragmentsOf? known s).isSome = true
      ∨ ∃ stuck, Relation.ReflTransGen (GoesOn known) s stuck ∧ GoesOn known stuck stuck := by
  fun_induction fragmentsOf? known s with
  | case1 => exact Or.inl rfl
  | case2 => exact Or.inl rfl
  | case3 s hs piece rest hnext hlt ih =>
      rcases ih with hsome | ⟨stuck, hreach, hstuck⟩
      · exact Or.inl (by simpa using hsome)
      · exact Or.inr ⟨stuck, .head ⟨hs, piece, hnext⟩ hreach, hstuck⟩
  | case4 s hs piece rest hnext hnlt =>
      -- what was taken is empty, so the text is left as it is
      have hstep : GoesOn known s rest := ⟨hs, piece, hnext⟩
      obtain ⟨taken, -, happend, hshorter⟩ := hstep.exists_append
      have hempty : taken = [] := Decidable.byContradiction fun hne => hnlt (hshorter.mpr hne)
      rw [hempty, List.nil_append] at happend
      exact Or.inr ⟨s, .refl, happend ▸ hstep⟩

theorem ends_iff_isSome : Ends known s ↔ (fragmentsOf? known s).isSome = true := by
  refine ⟨fun h => ?_, ends_of_isSome⟩
  rcases isSome_or_exists_stuck known s with hsome | ⟨stuck, hreach, hstuck⟩
  · exact hsome
  · exact absurd hstuck (h.not_stuck hreach)

/-- A search that does not end comes to a text that it does not leave again. -/
theorem not_ends_iff :
    ¬Ends known s
      ↔ ∃ stuck, Relation.ReflTransGen (GoesOn known) s stuck ∧ GoesOn known stuck stuck := by
  refine ⟨fun h => ?_, fun ⟨_, hreach, hstuck⟩ h => h.not_stuck hreach hstuck⟩
  exact (isSome_or_exists_stuck known s).resolve_left fun hsome => h (ends_of_isSome hsome)

-- ====================================================== the fragments of tables

theorem mem_longestFirst_iff {t : Tables} {f : List Char} :
    f ∈ longestFirst t ↔ String.ofList f ∈ t.wordFragments := by
  unfold longestFirst
  rw [(List.mergeSort_perm _ _).mem_iff, List.mem_map]
  constructor
  · rintro ⟨fragment, hmem, rfl⟩
    rwa [String.ofList_toList]
  · intro hmem
    exact ⟨_, hmem, String.toList_ofList⟩

/-- Every iteration shortens the text exactly if the empty text is no fragment, or every single
character is one. -/
theorem goesOn_shortens_iff (t : Tables) :
    (∀ s rest, GoesOn (longestFirst t) s rest → rest.length < s.length)
      ↔ "" ∉ t.wordFragments ∨ ∀ c : Char, String.ofList [c] ∈ t.wordFragments := by
  constructor
  · intro hshorten
    by_cases hempty : "" ∈ t.wordFragments
    · refine Or.inr fun c => ?_
      -- the empty fragment stands in front of a character, so there is something to take
      have hnil : [] ∈ longestFirst t := mem_longestFirst_iff.mpr hempty
      cases hnext : nextFragment? (longestFirst t) [c] with
      | none => exact absurd List.nil_prefix (nextFragment?_eq_none_iff.mp hnext [] hnil)
      | some next =>
          obtain ⟨piece, rest⟩ := next
          have hstep : GoesOn (longestFirst t) [c] rest := ⟨List.cons_ne_nil _ _, piece, hnext⟩
          obtain ⟨taken, hmem, happend, hiff⟩ := hstep.exists_append
          have hne := hiff.mp (hshorten [c] rest hstep)
          obtain ⟨d, more, rfl⟩ := List.exists_cons_of_ne_nil hne
          obtain ⟨rfl, hmore⟩ := List.cons.inj happend
          rw [(List.append_eq_nil_iff.mp hmore.symm).1] at hmem
          exact mem_longestFirst_iff.mp hmem
    · exact Or.inl hempty
  · rintro hsafe s rest hstep
    obtain ⟨hs, piece, hnext⟩ := hstep
    obtain ⟨hlongest, rfl⟩ := isLongestAt_of_nextFragment? (pairwise_longestFirst t) hnext
    have hpiece : piece ≠ [] := by
      rintro rfl
      rcases hsafe with hempty | hsingle
      · exact hempty (mem_longestFirst_iff.mp hlongest.mem)
      · obtain ⟨c, more, hcons⟩ := List.exists_cons_of_ne_nil hs
        have hle := hlongest.longest [c] (mem_longestFirst_iff.mpr (hsingle c)) (by simp [hcons])
        simp at hle
    have hpos := List.length_pos_iff.mpr hpiece
    rw [List.length_append]
    omega

/-- The pieces of a word are found if it has capitals, if the tables forbid to split it, or if the
search in its lower case ends. -/
theorem isSome_fragments?_iff (t : Tables) (word : List Char) :
    (fragments? t word).isSome = true
      ↔ word.any Text.isUpper = true
        ∨ t.unsplittableWords.contains (String.ofList (Text.lower word)) = true
        ∨ Ends (longestFirst t) (Text.lower word) := by
  rw [ends_iff_isSome]
  simp only [fragments?]
  cases word.any Text.isUpper with
  | true => exact iff_of_true rfl (Or.inl rfl)
  | false =>
      cases t.unsplittableWords.contains (String.ofList (Text.lower word)) with
      | true => exact iff_of_true rfl (Or.inr (Or.inl rfl))
      | false =>
          refine ⟨fun h => Or.inr (Or.inr h), ?_⟩
          rintro (h | h | h)
          · cases h
          · cases h
          · exact h

/-- An iteration of the search shortens the text by the fragment it takes. So all iterations shorten
it exactly if the empty text is no fragment (or every character is one, too). Where one does not,
the search goes on with the same text for ever, and the word gets no pieces. Reading tables
accepts any row of texts as the fragments, whatever lawful library of data models reads them. -/
theorem fragment_search_ends_iff (t : Tables) :
    (∀ s rest, GoesOn (longestFirst t) s rest →
        ∃ f ∈ t.wordFragments, s = f.toList ++ rest ∧ (rest.length < s.length ↔ f ≠ ""))
      ∧ ((∀ s rest, GoesOn (longestFirst t) s rest → rest.length < s.length)
          ↔ "" ∉ t.wordFragments ∨ ∀ c : Char, String.ofList [c] ∈ t.wordFragments)
      ∧ (∀ s, ¬Ends (longestFirst t) s
          ↔ ∃ stuck, Relation.ReflTransGen (GoesOn (longestFirst t)) s stuck
              ∧ GoesOn (longestFirst t) stuck stuck)
      ∧ (∀ word, (fragments? t word).isSome = true
          ↔ word.any Text.isUpper = true
            ∨ t.unsplittableWords.contains (String.ofList (Text.lower word)) = true
            ∨ Ends (longestFirst t) (Text.lower word))
      ∧ (∀ lib : ModelLibrary, lib.Lawful → lib.Accepted t → ∀ fragments : List String,
          t.withOverrides lib [(.text "word_fragments", .texts fragments)]
            = .ok { t with wordFragments := fragments }) := by
  refine ⟨fun s rest hstep => ?_, goesOn_shortens_iff t, fun s => not_ends_iff,
    isSome_fragments?_iff t, fun lib hlib ht fragments => ?_⟩
  · obtain ⟨piece, hmem, happend, hiff⟩ := hstep.exists_append
    refine ⟨String.ofList piece, mem_longestFirst_iff.mp hmem, by rwa [String.toList_ofList], ?_⟩
    rw [hiff, not_iff_not, ← String.toList_eq_nil_iff, String.toList_ofList]
  · refine Tables.withOverrides_singleton hlib ht (c := ⟨.wordFragments, Tables.wordFragments⟩)
      (List.mem_of_getElem? (i := 17) rfl)
      (Tables.Field.check_eq_valid_iff.mpr ⟨_, rfl, hlib.types.textRow fragments⟩) ?_
    simp [Tables.columns]

/-- With the empty fragment laid over the standard tables the search does not leave `zebra`. -/
theorem zebra_not_left :
    let t : Tables := { Tables.standard with wordFragments := [""] }
    Tables.standard.withOverrides .lax [(.text "word_fragments", .texts [""])] = .ok t
      ∧ GoesOn (longestFirst t) "zebra".toList "zebra".toList
      ∧ ¬Ends (longestFirst t) "zebra".toList ∧ fragments? t "zebra".toList = none := by
  intro t
  obtain ⟨-, -, hends, hpieces, -⟩ := fragment_search_ends_iff t
  have hlib := ModelLibrary.lawful_lax
  have hread := (fragment_search_ends_iff Tables.standard).2.2.2.2 .lax hlib
    (Tables.accepted_standard hlib) [""]
  have hknown : longestFirst t = [[]] := List.mergeSort_singleton _
  have hstep : GoesOn (longestFirst t) "zebra".toList "zebra".toList := by
    rw [hknown]
    exact ⟨by decide, [], by decide⟩
  have hnot := (hends "zebra".toList).mpr ⟨_, .refl, hstep⟩
  refine ⟨hread, hstep, hnot, ?_⟩
  rw [← Option.not_isSome_iff_eq_none, hpieces]
  rintro (hupper | hwhole | hlow)
  · exact absurd hupper (by decide)
  · exact absurd hwhole (by decide)
  · have hlower : Text.lower "zebra".toList = "zebra".toList := by decide
    exact hnot (hlower ▸ hlow)

end ApiCommands.Words
