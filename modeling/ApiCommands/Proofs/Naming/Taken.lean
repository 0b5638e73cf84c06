/-
Claiming names: what a walk of candidate chains gives.

# One claim

A claim never fails: of the numbered candidates of a chain at most as many
are taken as there are names in use, since they are all different in lower
case (`le_count_of_taken`), and the walk looks at one more than that. So
`claim_isFirstFree` can say at once what a claim does: it gives the first
candidate of the chain that is not taken, and takes it. Where only the chain
matters, `claim_spec` says that the name stands in it and was free.

# A run of claims

`claimAll` makes one claim per chain. Every claim adds its name to the taken
ones, and no later claim can give it again. From the step the facts on runs
follow by induction on the chains: the name at each place is the first candidate
of the chain there that no name before it takes (`claimAll_getElem?`), so each
name stands in a chain
(`exists_has_of_mem_claimAll`), none was taken before the run (`claimAll_free`), no two
are the same in lower case (`nodup_claimAll`), and what is claimed later changes
nothing before (`prefix_claimAll_append`).

# Candidates that are made on the way

Where making a candidate can fail, the walk makes it only when it comes to it. A
walk that ends has come to none that failed, so it gives what the plain walk of
those in front gives (`claim_of_claimOffered`, `claimAll_of_claimAllOffered`).
It ends where all of them can be made (`exists_claimAllOffered_eq_ok`).

# Who gets a name

Which names a run gives depends on what every chain before refuses. It can be
told for a name that only first candidates can be: it goes to the first chain
that prefers it or one that differs in case, and in the spelling of that chain
(`mem_claimAll_map_iff`).
-/
import ApiCommands.Naming.Taken
import ApiCommands.Proofs.Naming.Grouping
import ApiCommands.Proofs.Outcome.Result
import ApiCommands.Proofs.Text.LetterCase
import Mathlib.Data.List.Nodup
import Mathlib.Data.List.Perm.Subperm

namespace ApiCommands

namespace Candidates

/-- The name stands in the chain: as a preferred candidate or as a numbered one. -/
def Has (c : Candidates) (name : String) : Prop :=
  name ∈ c.preferred ∨ ∃ i, name = c.tailAt i

/-- Numbered candidates differ in lower case. -/
theorem lowered_tailAt_injective (c : Candidates) {i j : Nat}
    (h : Text.lowered (c.tailAt i) = Text.lowered (c.tailAt j)) : i = j := by
  unfold tailAt at h
  rw [Text.lowered_append_toString, Text.lowered_append_toString] at h
  have := Text.append_toString_injective _ h
  omega

/-- The first candidate of the chain that is not taken: a preferred one behind taken ones, or a
numbered one when all preferred ones and all smaller numbers are taken. -/
inductive IsFirstFree (c : Candidates) (t : Taken) : String → Prop where
  | preferred {front back : List String} {name : String}
      (hsplit : c.preferred = front ++ name :: back)
      (hfront : ∀ other ∈ front, t.contains other = true)
      (hfree : t.contains name = false) : IsFirstFree c t name
  | numbered {i : Nat}
      (hpreferred : ∀ other ∈ c.preferred, t.contains other = true)
      (hsmaller : ∀ j < i, t.contains (c.tailAt j) = true)
      (hfree : t.contains (c.tailAt i) = false) : IsFirstFree c t (c.tailAt i)

namespace IsFirstFree

variable {c : Candidates} {t : Taken} {name : String}

theorem has (h : c.IsFirstFree t name) : c.Has name := by
  cases h with
  | preferred hsplit _ _ => exact Or.inl (by simp [hsplit])
  | numbered _ _ _ => exact Or.inr ⟨_, rfl⟩

theorem free (h : c.IsFirstFree t name) : t.contains name = false := by
  cases h with
  | preferred _ _ hfree => exact hfree
  | numbered _ _ hfree => exact hfree

/-- Only which names are taken matters, not in which order they were. -/
theorem congr {t' : Taken} (htaken : ∀ other, t.contains other = t'.contains other)
    (h : c.IsFirstFree t name) : c.IsFirstFree t' name := by
  cases h with
  | preferred hsplit hfront hfree =>
      refine .preferred hsplit ?_ (htaken _ ▸ hfree)
      intro other hother
      rw [← htaken]
      exact hfront other hother
  | numbered hpreferred hsmaller hfree =>
      refine .numbered ?_ ?_ (htaken _ ▸ hfree)
      · intro other hother
        rw [← htaken]
        exact hpreferred other hother
      · intro j hj
        rw [← htaken]
        exact hsmaller j hj

/-- The first free one of numbered candidates is the base, or, where that is taken, the base with
the smallest number that is free. -/
theorem eq_or_smallest {base separator : String}
    (h : (Candidates.numbered base separator).IsFirstFree t name) :
    (name = base ∧ t.contains base = false)
      ∨ t.contains base = true ∧ ∃ i, name = base ++ separator ++ toString (i + 2)
          ∧ ∀ j < i, t.contains (base ++ separator ++ toString (j + 2)) = true := by
  cases h with
  | preferred hsplit hfront hfree =>
      have hmem : name ∈ [base] := by
        show name ∈ (Candidates.numbered base separator).preferred
        rw [hsplit]
        exact List.mem_append_right _ List.mem_cons_self
      obtain rfl := List.mem_singleton.mp hmem
      exact Or.inl ⟨rfl, hfree⟩
  | numbered hpreferred hsmaller hfree =>
      exact Or.inr ⟨hpreferred base List.mem_cons_self, _, rfl, hsmaller⟩

/-- It is the base exactly if that is free. -/
theorem eq_base_iff {base separator : String}
    (h : (Candidates.numbered base separator).IsFirstFree t name) :
    name = base ↔ t.contains base = false := by
  constructor
  · rintro rfl
    exact h.free
  · intro hfree
    rcases h.eq_or_smallest with ⟨heq, -⟩ | ⟨htaken, -⟩
    · exact heq
    · rw [hfree] at htaken
      cases htaken

/-- Where the base is taken, it is the base with the smallest number from 2 on that is free. -/
theorem exists_smallest {base separator : String}
    (h : (Candidates.numbered base separator).IsFirstFree t name)
    (htaken : t.contains base = true) :
    ∃ m ≥ 2, name = base ++ separator ++ toString m
      ∧ ∀ j, 2 ≤ j → j < m → t.contains (base ++ separator ++ toString j) = true := by
  rcases h.eq_or_smallest with ⟨-, hfree⟩ | ⟨-, i, hname, hsmaller⟩
  · rw [hfree] at htaken
    cases htaken
  · refine ⟨i + 2, by omega, hname, fun j hj hlt => ?_⟩
    have htaken_j := hsmaller (j - 2) (by omega)
    rwa [Nat.sub_add_cancel hj] at htaken_j

/-- The first free one of numbered candidates is the base, or the base is taken. -/
theorem eq_or_numbered {base separator : String}
    (h : (Candidates.numbered base separator).IsFirstFree t name) :
    (name = base ∧ t.contains base = false)
      ∨ (∃ i, name = base ++ separator ++ toString (i + 2)) ∧ t.contains base = true :=
  h.eq_or_smallest.imp_right fun ⟨htaken, i, hname, _⟩ => ⟨⟨i, hname⟩, htaken⟩

end IsFirstFree

end Candidates

/-- What was made of a list of offers was offered. -/
theorem Offers.mem_made {ε : Type} {offers : List (Except ε (Option String))} {name : String}
    (h : name ∈ made offers) : .ok (some name) ∈ offers := by
  induction offers with
  | nil => cases h
  | cons offer rest ih =>
      match offer with
      | .error e => cases h
      | .ok offer =>
        rw [made, List.mem_append, Option.mem_toList] at h
        rcases h with rfl | hrest
        · exact List.mem_cons_self
        · exact List.mem_cons_of_mem _ (ih hrest)

/-- No offer makes more than one candidate. -/
theorem Offers.length_made_le {ε : Type} (offers : List (Except ε (Option String))) :
    (made offers).length ≤ offers.length := by
  induction offers with
  | nil => exact Nat.le_refl 0
  | cons offer rest ih =>
      match offer with
      | .error e => exact Nat.zero_le _
      | .ok offer =>
        have hone := Option.length_toList_le (o := offer)
        rw [made, List.length_append, List.length_cons]
        omega

namespace Taken

variable (t : Taken)

theorem contains_eq_true_iff {name : String} :
    t.contains name = true ↔ Text.lowered name ∈ t.keys := by
  simp [contains]

theorem contains_eq_false_iff {name : String} :
    t.contains name = false ↔ Text.lowered name ∉ t.keys := by
  simp [contains]

/-- A name is taken from the start exactly if one of the given names is the same in lower case. -/
theorem contains_ofList_eq_false_iff {names : List String} {name : String} :
    (ofList names).contains name = false
      ↔ ∀ taken ∈ names, Text.lowered name ≠ Text.lowered taken := by
  rw [contains_eq_false_iff]
  unfold ofList
  rw [List.mem_eraseDups]
  constructor
  · intro h taken htaken heq
    exact h (List.mem_map.mpr ⟨taken, htaken, heq.symm⟩)
  · intro h hmem
    obtain ⟨taken, htaken, heq⟩ := List.mem_map.mp hmem
    exact h taken htaken heq.symm

/-- After a name is taken, the taken names are those of before and this one. -/
theorem contains_insert (name other : String) :
    (t.insert name).contains other
      = (t.contains other || Text.lowered other == Text.lowered name) := by
  unfold insert
  by_cases htaken : t.contains name = true
  · -- nothing is added, and the other spellings of `name` were taken as well
    rw [if_pos htaken]
    by_cases heq : Text.lowered other = Text.lowered name
    · unfold contains at htaken ⊢
      simp only [heq, htaken, Bool.true_or]
    · simp [heq]
  · rw [if_neg htaken]
    unfold contains
    rw [List.contains_cons, Bool.or_comm]

/-- In particular a name is free after a claim if it was free before and is another one. -/
theorem contains_insert_eq_false_iff {name other : String} :
    (t.insert name).contains other = false
      ↔ Text.lowered other ≠ Text.lowered name ∧ t.contains other = false := by
  simp [contains_insert, and_comm]

-- ====================================================== one claim

/-- How many names are taken. -/
def count : Nat := t.keys.eraseDups.length

theorem count_le_length : t.count ≤ t.keys.length :=
  (List.subperm_of_subset (nodup_eraseDups t.keys) fun _ => List.mem_eraseDups.mp).length_le

/-- The first numbered candidates are all taken for at most as many of them as there are taken
names. -/
theorem le_count_of_taken (c : Candidates) {n : Nat}
    (htaken : ∀ i < n, t.contains (c.tailAt i) = true) : n ≤ t.count := by
  -- their lower cases are all different and all among the keys
  have hsub : (List.range n).map (fun i => Text.lowered (c.tailAt i)) ⊆ t.keys.eraseDups := by
    intro key hkey
    obtain ⟨i, hi, rfl⟩ := List.mem_map.mp hkey
    exact List.mem_eraseDups.mpr (t.contains_eq_true_iff.mp (htaken i (List.mem_range.mp hi)))
  have hnodup : ((List.range n).map fun i => Text.lowered (c.tailAt i)).Nodup :=
    List.Nodup.map (fun _ _ h => c.lowered_tailAt_injective h) List.nodup_range
  have hlen := (List.subperm_of_subset hnodup hsub).length_le
  rwa [List.length_map, List.length_range] at hlen

/-- Some numbered candidate within reach is free: `n` taken names refuse at most `n` of them. -/
theorem exists_free_tailAt (c : Candidates) :
    ∃ i < t.keys.length + 1, t.contains (c.tailAt i) = false := by
  by_contra hnone
  push Not at hnone
  have hle := t.le_count_of_taken c fun i hi => by simpa using hnone i hi
  have hcount := t.count_le_length
  omega

/-- A claim gives the first candidate that is not taken, and takes it. -/
theorem claim_isFirstFree (c : Candidates) :
    ∃ name, c.IsFirstFree t name ∧ t.claim c = (name, t.insert name) := by
  have hclaim : ∀ name, (t.reach c).find? (!t.contains ·) = some name →
      t.claim c = (name, t.insert name) := by
    intro name hfind
    simp [claim, claimFrom?, hfind]
  have hreach : (t.reach c).find? (!t.contains ·)
      = (c.preferred.find? (!t.contains ·)).or
        (((List.range (t.keys.length + 1)).find? fun i => !t.contains (c.tailAt i)).map
          c.tailAt) := by
    unfold reach Candidates.withTail
    rw [List.find?_append, List.find?_map]
    rfl
  cases hpre : c.preferred.find? (!t.contains ·) with
  | some name =>
      obtain ⟨hfree, front, back, hsplit, hfront⟩ := List.find?_eq_some_iff_append.mp hpre
      refine ⟨name, .preferred hsplit ?_ (by simpa using hfree), hclaim name ?_⟩
      · intro other hother
        simpa using hfront other hother
      · rw [hreach, hpre, Option.some_or]
  | none =>
      -- the walk goes on to the numbers, and one of those within reach is free
      obtain ⟨i, hi, hfree⟩ := t.exists_free_tailAt c
      cases htail : (List.range (t.keys.length + 1)).find? fun i => !t.contains (c.tailAt i) with
      | none =>
          have htaken := List.find?_eq_none.mp htail i (List.mem_range.mpr hi)
          simp [hfree] at htaken
      | some j =>
          obtain ⟨hfree, -, hsmaller⟩ := List.find?_range_eq_some.mp htail
          refine ⟨c.tailAt j, .numbered ?_ ?_ (by simpa using hfree), hclaim _ ?_⟩
          · intro other hother
            simpa using List.find?_eq_none.mp hpre other hother
          · intro i hi
            simpa using hsmaller i hi
          · rw [hreach, hpre, htail]
            rfl

/-- A claim gives a free name of the chain and takes it. -/
theorem claim_spec (c : Candidates) :
    ∃ name, c.Has name ∧ t.contains name = false ∧ t.claim c = (name, t.insert name) := by
  obtain ⟨name, hfirst, hclaim⟩ := t.claim_isFirstFree c
  exact ⟨name, hfirst.has, hfirst.free, hclaim⟩

/-- A claim takes the first candidate if that is free. -/
theorem claim_of_head? {c : Candidates} {first : String} (hfirst : c.preferred.head? = some first)
    (hfree : t.contains first = false) : t.claim c = (first, t.insert first) := by
  obtain ⟨rest, hrest⟩ := List.head?_eq_some_iff.mp hfirst
  have hfind : (t.reach c).find? (!t.contains ·) = some first := by
    unfold reach Candidates.withTail
    rw [hrest, List.cons_append, List.find?_cons_of_pos (by simp [hfree])]
  unfold claim claimFrom?
  rw [hfind]
  rfl

-- ====================================================== runs of claims

/-- A run claims a name of the first chain and goes on with it taken. -/
theorem claimAll_cons (c : Candidates) (rest : List Candidates) :
    ∃ name, c.Has name ∧ t.contains name = false
      ∧ t.claimAll (c :: rest) = name :: (t.insert name).claimAll rest := by
  obtain ⟨name, hhas, hfree, hclaim⟩ := t.claim_spec c
  refine ⟨name, hhas, hfree, ?_⟩
  rw [claimAll, hclaim]

@[simp]
theorem length_claimAll (chains : List Candidates) :
    (t.claimAll chains).length = chains.length := by
  induction chains generalizing t with
  | nil => rfl
  | cons c rest ih =>
      obtain ⟨name, -, -, hrun⟩ := t.claimAll_cons c rest
      rw [hrun, List.length_cons, ih, List.length_cons]

/-- The name at each place is the first candidate of the chain there that is not taken, neither from
the start nor by a name before it. -/
theorem claimAll_getElem? {chains : List Candidates} {k : Nat} {c : Candidates}
    (h : chains[k]? = some c) :
    ∃ name, (t.claimAll chains)[k]? = some name
      ∧ c.IsFirstFree (((t.claimAll chains).take k).foldl insert t) name := by
  induction chains generalizing t k with
  | nil => simp at h
  | cons first rest ih =>
      obtain ⟨claimed, hfirst, hclaim⟩ := t.claim_isFirstFree first
      have hrun : t.claimAll (first :: rest) = claimed :: (t.insert claimed).claimAll rest := by
        rw [claimAll, hclaim]
      rw [hrun]
      cases k with
      | zero =>
          obtain rfl : first = c := by simpa using h
          exact ⟨claimed, rfl, hfirst⟩
      | succ k => exact ih (t.insert claimed) (by simpa using h)

/-- Taking names one after the other adds these names. -/
theorem contains_foldl_insert_iff {names : List String} {name : String} :
    (names.foldl insert t).contains name = true
      ↔ t.contains name = true ∨ ∃ taken ∈ names, Text.lowered taken = Text.lowered name := by
  induction names generalizing t with
  | nil => simp
  | cons first rest ih =>
      rw [List.foldl_cons, ih, contains_insert, Bool.or_eq_true, beq_iff_eq, or_assoc,
        eq_comm (a := Text.lowered name)]
      simp

/-- Names taken one after the other from nothing are taken as if from the start. -/
theorem contains_foldl_insert (names : List String) (name : String) :
    (names.foldl insert empty).contains name = (ofList names).contains name := by
  rw [Bool.eq_iff_iff, contains_foldl_insert_iff, contains_eq_true_iff]
  simp [contains, empty, ofList, List.mem_eraseDups]

/-- Each name stands in one of the chains. -/
theorem exists_has_of_mem_claimAll {chains : List Candidates} {name : String}
    (h : name ∈ t.claimAll chains) : ∃ c ∈ chains, c.Has name := by
  induction chains generalizing t with
  | nil => cases h
  | cons c rest ih =>
      obtain ⟨first, hhas, -, hrun⟩ := t.claimAll_cons c rest
      rw [hrun] at h
      rcases List.mem_cons.mp h with rfl | hrest
      · exact ⟨c, List.mem_cons_self, hhas⟩
      · obtain ⟨c', hc', hhas'⟩ := ih (t.insert first) hrest
        exact ⟨c', List.mem_cons_of_mem _ hc', hhas'⟩

/-- No name was taken before the run. -/
theorem claimAll_free {chains : List Candidates} {name : String}
    (h : name ∈ t.claimAll chains) : t.contains name = false := by
  induction chains generalizing t with
  | nil => cases h
  | cons c rest ih =>
      obtain ⟨first, -, hfree, hrun⟩ := t.claimAll_cons c rest
      rw [hrun] at h
      rcases List.mem_cons.mp h with rfl | hrest
      · exact hfree
      · exact ((t.contains_insert_eq_false_iff).mp (ih (t.insert first) hrest)).2

/-- No two names of a run are the same in lower case. -/
theorem nodup_claimAll (chains : List Candidates) :
    ((t.claimAll chains).map Text.lowered).Nodup := by
  induction chains generalizing t with
  | nil => exact List.nodup_nil
  | cons c rest ih =>
      obtain ⟨first, -, hfree, hrun⟩ := t.claimAll_cons c rest
      rw [hrun, List.map_cons, List.nodup_cons]
      refine ⟨fun hmem => ?_, ih (t.insert first)⟩
      obtain ⟨name, hname, heq⟩ := List.mem_map.mp hmem
      have hfresh := (t.insert first).claimAll_free hname
      exact ((t.contains_insert_eq_false_iff).mp hfresh).1 heq

/-- Later chains change nothing for the earlier ones. -/
theorem prefix_claimAll_append (chains more : List Candidates) :
    t.claimAll chains <+: t.claimAll (chains ++ more) := by
  induction chains generalizing t with
  | nil => exact List.nil_prefix
  | cons c rest ih =>
      obtain ⟨name, -, -, hclaim⟩ := t.claim_spec c
      rw [List.cons_append, claimAll, claimAll, hclaim]
      exact List.cons_prefix_cons.mpr ⟨rfl, ih (t.insert name)⟩

-- ====================================================== candidates made on the way

section

variable {ε : Type}

/-- A taken name in front of a chain is passed over. -/
theorem claim_cons_of_contains {name stem : String} {rest : List String}
    (htaken : t.contains name = true) : t.claim ⟨name :: rest, stem⟩ = t.claim ⟨rest, stem⟩ := by
  have hfind : (t.reach ⟨name :: rest, stem⟩).find? (!t.contains ·)
      = (t.reach ⟨rest, stem⟩).find? (!t.contains ·) := by
    unfold reach Candidates.withTail
    rw [List.cons_append, List.find?_cons_of_neg (by simp [htaken])]
    rfl
  unfold claim claimFrom?
  rw [hfind]

/-- What is claimed of candidates made on the way is claimed of those that were made. -/
theorem claim_of_claimOffered {o : Offers ε} {claimed : String × Taken}
    (h : t.claimOffered o = .ok claimed) : t.claim o.candidates = claimed := by
  obtain ⟨offers, stem⟩ := o
  unfold claimOffered Offers.candidates at *
  dsimp only at *
  induction offers with
  | nil => exact Except.ok.inj h
  | cons offer rest ih =>
      match offer with
      | .error e => cases h
      | .ok none => exact ih h
      | .ok (some name) =>
        rw [tryOffers] at h
        show t.claim ⟨name :: Offers.made rest, stem⟩ = claimed
        split at h
        · next htaken => rw [t.claim_cons_of_contains htaken, ih h]
        · next hfree =>
          rw [t.claim_of_head? rfl (Bool.not_eq_true _ ▸ hfree)]
          exact Except.ok.inj h

/-- The same for a run. -/
theorem claimAll_of_claimAllOffered {offers : List (Offers ε)} {names : List String}
    (h : t.claimAllOffered offers = .ok names) :
    t.claimAll (offers.map Offers.candidates) = names := by
  induction offers generalizing t names with
  | nil => exact Except.ok.inj h
  | cons o rest ih =>
      obtain ⟨⟨name, taken⟩, hclaim, h⟩ := Except.bind_eq_ok_iff.mp h
      obtain ⟨others, hothers, h⟩ := Except.bind_eq_ok_iff.mp h
      rw [List.map_cons, claimAll, t.claim_of_claimOffered hclaim]
      show name :: taken.claimAll (rest.map Offers.candidates) = names
      rw [ih taken hothers]
      exact Except.ok.inj h

/-- A claim ends where every candidate can be made. -/
theorem exists_claimOffered_eq_ok {o : Offers ε}
    (h : ∀ offer ∈ o.offers, ∃ name?, offer = .ok name?) :
    ∃ claimed, t.claimOffered o = .ok claimed := by
  obtain ⟨offers, stem⟩ := o
  unfold claimOffered
  dsimp only at *
  induction offers with
  | nil => exact ⟨_, rfl⟩
  | cons offer rest ih =>
      obtain ⟨⟨name?, rfl⟩, hrest⟩ := List.forall_mem_cons.mp h
      cases name? with
      | none => exact ih hrest
      | some name =>
          rw [tryOffers]
          split
          · exact ih hrest
          · exact ⟨_, rfl⟩

/-- So does a run of claims. -/
theorem exists_claimAllOffered_eq_ok {offers : List (Offers ε)}
    (h : ∀ o ∈ offers, ∀ offer ∈ o.offers, ∃ name?, offer = .ok name?) :
    ∃ names, t.claimAllOffered offers = .ok names := by
  induction offers generalizing t with
  | nil => exact ⟨_, rfl⟩
  | cons o rest ih =>
      obtain ⟨ho, hrest⟩ := List.forall_mem_cons.mp h
      exact Except.exists_bind_eq_ok (t.exists_claimOffered_eq_ok ho) fun (name, taken) =>
        Except.exists_bind_eq_ok (ih taken hrest) fun _ => ⟨_, rfl⟩

end

-- ====================================================== who gets a name

/-- Whether a name is taken depends on its lower case. -/
theorem contains_eq_of_lowered_eq {name other : String}
    (h : Text.lowered name = Text.lowered other) : t.contains name = t.contains other := by
  unfold contains
  rw [h]

/-- A name that only first candidates can be, up to case, is claimed exactly if it is free and the
first of those that are the same up to case. -/
theorem mem_claimAll_map_iff {α : Type} {chain : α → Candidates} {first : α → String}
    {name : String} (hfirst : ∀ x, (chain x).preferred.head? = some (first x))
    (honly : ∀ x other, (chain x).Has other → Text.lowered other = Text.lowered name →
      other = first x) (items : List α) :
    name ∈ t.claimAll (items.map chain)
      ↔ t.contains name = false
        ∧ (items.map first).find? (fun other => Text.lowered other == Text.lowered name)
          = some name := by
  induction items generalizing t with
  | nil => simp [claimAll]
  | cons x rest ih =>
      rw [List.map_cons, List.map_cons]
      by_cases heq : Text.lowered (first x) = Text.lowered name
      · -- this chain gets its first candidate, and no later one gets the name in another case
        rw [List.find?_cons_of_pos (by simpa using heq), Option.some.injEq,
          ← t.contains_eq_of_lowered_eq heq]
        constructor
        · intro hmem
          have hfree := t.claimAll_free hmem
          rw [← t.contains_eq_of_lowered_eq heq] at hfree
          refine ⟨hfree, ?_⟩
          rw [claimAll, t.claim_of_head? (hfirst x) hfree] at hmem
          rcases List.mem_cons.mp hmem with rfl | hrest
          · rfl
          · have hlater := (t.insert (first x)).claimAll_free hrest
            exact absurd heq.symm ((t.contains_insert_eq_false_iff).mp hlater).1
        · rintro ⟨hfree, rfl⟩
          rw [claimAll, t.claim_of_head? (hfirst x) hfree]
          exact List.mem_cons_self
      · obtain ⟨claimed, hhas, hfree, hrun⟩ := t.claimAll_cons (chain x) (rest.map chain)
        have hne : Text.lowered claimed ≠ Text.lowered name := fun hclaimed =>
          heq (honly x claimed hhas hclaimed ▸ hclaimed)
        rw [hrun, List.mem_cons, List.find?_cons_of_neg (by simpa using heq), ih,
          t.contains_insert_eq_false_iff]
        constructor
        · rintro (rfl | ⟨⟨-, hname⟩, hfind⟩)
          · exact absurd rfl hne
          · exact ⟨hname, hfind⟩
        · rintro ⟨hname, hfind⟩
          exact Or.inr ⟨⟨fun h => hne h.symm, hname⟩, hfind⟩

end Taken

end ApiCommands
