/-
Compositions that come to an end, and compositions that do not.

# Going down without end

Merging enters a composed part of a composition, a composed part of that, and so
on. Where this way never ends (`Api.Endless`), no answer can come back. A merge
that answers has been through all that its parts are made of, which only a
composition that ends has (`Contributes.grounded`).

# Levels

A merge that meets a reference it has struck out calls the composition endless.
That is one way to notice. One level of a plain recursion takes the pieces of
composed parts from somebody else and keeps no account of references
(`Api.mergeRound`). Where the way down ends, enough levels come to the same as
the merge (`Grounded.exists_levels`). The induction is on the way down, and each
part leads to one schema at most; the merge does not meet a reference it has
struck out, since such a one leads to a schema that it is inside of
(`Trail.mem_fresh`). Where the way down does not end, no number of levels over
nothing gives an answer (`grounded_of_levels`).

# No false alarm

No level calls a composition endless on its own (`outcome_mergeRound_ne_endless`):
what can go wrong in it is of another kind, a numeral in a reference, or a value
of `required` or `properties` that cannot be read. So neither does a merge that
comes to the same as some levels.
-/
import ApiCommands.Proofs.Schema.FlatReading
import ApiCommands.Proofs.Schema.Visit
import Mathlib.Logic.Function.Iterate
import Mathlib.Order.WellFounded

namespace ApiCommands

-- ====================================================== faults of other kinds

/-- What is not gone through is no list and has no elements. -/
theorem Value.eq_notIterable_of_requiredElements {schema : Value} {fault : Fault}
    (h : schema.requiredElements = .error fault) : fault = .notIterable := by
  unfold requiredElements at h
  split at h
  · unfold elements at h
    split at h
    · cases h
    · cases h
    · cases h
    · cases h
    · split at h
      · exact (Except.error.inj h).symm
      · cases h
  · cases h

namespace Contribution

variable {c : Contribution} {schema : Value} {entries : Entries} {fault : Fault}

/-- A schema is not absorbed if one cannot go through what it requires. -/
theorem eq_notIterable_of_absorb (h : c.absorb schema = .error fault) : fault = .notIterable := by
  unfold absorb Value.requiredNames at h
  cases hitems : schema.requiredElements with
  | ok items =>
      rw [hitems] at h
      cases h
  | error first =>
      rw [hitems] at h
      obtain rfl := Except.error.inj h
      exact Value.eq_notIterable_of_requiredElements hitems

/-- A composition is not closed if its properties are no mapping, or if one cannot go through what
it requires. -/
theorem eq_notMapping_or_notIterable_of_close (h : c.close entries = .error fault) :
    fault = .notMapping ∨ fault = .notIterable := by
  unfold close at h
  cases hproperties : ownProperties c.properties (.map entries) with
  | error first =>
      rw [hproperties] at h
      obtain rfl := Except.error.inj h
      unfold ownProperties at hproperties
      split at hproperties
      · cases hproperties
      · split at hproperties
        · exact Or.inl (Except.error.inj hproperties).symm
        · cases hproperties
      · cases hproperties
  | ok properties =>
      unfold ownRequired at h
      cases hitems : (Value.map entries).requiredElements with
      | error first =>
          rw [hproperties, hitems] at h
          obtain rfl := Except.error.inj h
          exact Or.inr (Value.eq_notIterable_of_requiredElements hitems)
      | ok items =>
          rw [hproperties, hitems] at h
          cases h

end Contribution

namespace Api

variable {a : Api} {known fresh : List String} {s t part : Value}

-- ====================================================== the way down

/-- A part of `s` is followed to `t`, and both are composed. -/
def Enters (a : Api) (s t : Value) : Prop :=
  ∃ parts part, s.parts? = some parts ∧ part ∈ parts
    ∧ (a.deref part).outcome = .ok (some t) ∧ t.parts?.isSome

/-- From the schema one can go on entering composed parts without end. -/
def Endless (a : Api) (schema : Value) : Prop :=
  ∃ path : Nat → Value, path 0 = schema ∧ ∀ i, a.Enters (path i) (path (i + 1))

/-- What is entered is what a part leads to, if it has parts. -/
theorem enters_iff : a.Enters s t ↔ a.HasPart s t ∧ t.parts?.isSome := by
  unfold Enters HasPart
  simp only [outcome_deref_eq_some_iff]
  constructor
  · rintro ⟨parts, part, hparts, hmem, hleads, hsome⟩
    exact ⟨⟨parts, part, hparts, hmem, hleads⟩, hsome⟩
  · rintro ⟨⟨parts, part, hparts, hmem, hleads⟩, hsome⟩
    exact ⟨parts, part, hparts, hmem, hleads, hsome⟩

/-- The way down ends, or it goes on through composed parts. -/
theorem not_grounded_iff : ¬a.Grounded s ↔ a.Endless s := by
  refine not_acc_iff_exists_descending_chain.trans ?_
  constructor
  · rintro ⟨path, hstart, hpath⟩
    refine ⟨path, hstart, fun i => enters_iff.mpr ⟨hpath i, ?_⟩⟩
    -- the next step goes through parts of this one
    obtain ⟨parts, -, hparts, -⟩ := hpath (i + 1)
    rw [hparts]
    rfl
  · rintro ⟨path, hstart, hpath⟩
    exact ⟨path, hstart, fun i => (enters_iff.mp (hpath i)).1⟩

-- ====================================================== a merge that answers

/-- From a schema that is merged the way down ends. -/
theorem grounded_of_outcome_merged {whole : Value} (h : (a.merged s).outcome = .ok whole) :
    a.Grounded s := by
  refine Acc.intro s ?_
  rintro t ⟨parts, part, hparts, hmem, hleads⟩
  obtain ⟨-, -, contributions, -, -, hcontributes, -⟩ := merged_reads_flat hparts h
  exact hcontributes.grounded part hmem t hleads

-- ====================================================== merging level by level

/-- A part in one piece, where `ask` merges a composed schema. -/
def partRound (a : Api) (ask : Value → Noted Value) (part : Value) : Noted (Option Value) := do
  match ← a.deref part with
  | none => return none
  | some schema => some <$> if schema.parts?.isSome then ask schema else pure schema

/-- What parts contribute, one after the other. -/
def gatherRound (a : Api) (ask : Value → Noted Value) (gathered : Contribution) :
    List Value → Noted Contribution
  | [] => pure gathered
  | part :: rest => do
    match ← a.partRound ask part with
    | none => a.gatherRound ask gathered rest
    | some schema =>
      match gathered.absorb schema with
      | .error fault => Noted.fail (.fault fault)
      | .ok gathered => a.gatherRound ask gathered rest

/-- One level of a merge that keeps no account of the references it goes through. -/
def mergeRound (a : Api) (ask : Value → Noted Value) (schema : Value) : Noted Value :=
  match schema.parts? with
  | none => pure schema
  | some parts => do
    let gathered ← a.gatherRound ask .empty parts
    match schema with
    | .map entries =>
      match gathered.close entries with
      | .ok whole => return .map whole
      | .error fault => Noted.fail (.fault fault)
    | _ => return schema

variable {ask : Value → Noted Value}

/-- What a part leads to is in one piece already, or it is merged. -/
theorem outcome_piece_eq
    (h : t.parts?.isSome → (ask t).outcome = (a.mergedWith known fresh t).outcome) :
    (if t.parts?.isSome then ask t else pure t : Noted Value).outcome
      = (a.mergedWith known fresh t).outcome := by
  by_cases hsome : t.parts?.isSome = true
  · rw [if_pos hsome]
    exact h hsome
  · rw [if_neg hsome, mergedWith_of_plain _ _ (by simpa using hsome)]

/-- A part comes out the same if what it leads to does. -/
theorem outcome_partRound_eq (htracks : a.Tracks known ⟨[], part⟩)
    (hfresh : ∀ ref t, part.ref? = some ref → a.Leads part t → ref ∈ fresh)
    (hask : ∀ t, a.Leads part t → t.parts?.isSome →
      (ask t).outcome = (a.mergedWith known (freshInside fresh part) t).outcome) :
    (a.partRound ask part).outcome = (a.partWith known fresh part).outcome := by
  unfold freshInside at hask
  unfold partRound
  rw [partWith]
  cases href : part.ref? with
  | none =>
      rw [href, Option.toList_none, List.diff_nil] at hask
      have hself : a.deref part = pure (if part.isMap then some part else none) := by
        unfold deref
        rw [derefWith, href]
      rw [hself, pure_bind]
      dsimp only
      by_cases hmap : part.isMap = true
      · rw [if_pos hmap, if_pos hmap]
        dsimp only
        rw [Noted.outcome_map, Noted.outcome_map,
          outcome_piece_eq (hask part ⟨[], .here href hmap⟩)]
      · rw [if_neg hmap, if_neg hmap]
  | some ref =>
      rw [href, Option.toList_some, List.diff_cons, List.diff_nil] at hask
      have hderef : a.deref part = a.derefWith known part :=
        derefWith_eq_of_tracks (.start a ⟨[], part⟩) htracks
      rw [hderef]
      dsimp only
      rw [Noted.outcome_bind, Noted.outcome_bind]
      cases hfound : (a.derefWith known part).outcome with
      | error e => rfl
      | ok found =>
          cases found with
          | none => rfl
          | some t =>
              have hleads := leads_of_derefWith hfound
              dsimp only [Except.bind]
              rw [Noted.outcome_map, outcome_piece_eq (hask t hleads), ← Noted.outcome_map,
                dif_pos (hfresh ref t href hleads)]
              cases hparts : t.parts? with
              | none =>
                  rw [mergedWith_of_plain _ _ hparts]
                  rfl
              | some inner => rfl

/-- Parts gather the same if each comes out the same. -/
theorem outcome_gatherRound_eq {parts : List Value} {g : Contribution}
    (h : ∀ part ∈ parts, (a.partRound ask part).outcome = (a.partWith known fresh part).outcome) :
    (a.gatherRound ask g parts).outcome = (a.gatherWith known fresh g parts).outcome := by
  induction parts generalizing g with
  | nil =>
      rw [gatherWith]
      rfl
  | cons part rest ih =>
      obtain ⟨hpart, hrest⟩ := List.forall_mem_cons.mp h
      unfold gatherRound
      rw [gatherWith]
      refine Noted.outcome_bind_congr hpart fun found => ?_
      cases found with
      | none => exact ih hrest
      | some whole =>
          dsimp only
          cases g.absorb whole with
          | error fault => rfl
          | ok next => exact ih hrest

/-- A schema comes out the same if its parts gather the same. -/
theorem outcome_mergeRound_eq {start : List String}
    (h : ∀ parts, s.parts? = some parts →
      (a.gatherRound ask .empty parts).outcome = (a.gatherWith start fresh .empty parts).outcome) :
    (a.mergeRound ask s).outcome = (a.mergedWith start fresh s).outcome := by
  rw [mergedWith]
  split
  · next hparts =>
    unfold mergeRound
    rw [hparts]
  · next parts hparts =>
    dsimp only
    unfold mergeRound
    rw [hparts]
    dsimp only
    exact Noted.outcome_bind_congr (h parts hparts) fun _ => rfl

/-- What holds of each element from some number on holds of all from some number on. -/
private theorem exists_bound {α : Type} {P : α → Nat → Prop} {xs : List α}
    (h : ∀ x ∈ xs, ∃ least, ∀ n, least ≤ n → P x n) :
    ∃ least, ∀ n, least ≤ n → ∀ x ∈ xs, P x n := by
  induction xs with
  | nil => exact ⟨0, fun _ _ => List.forall_mem_nil _⟩
  | cons x rest ih =>
      obtain ⟨⟨first, hfirst⟩, hrest⟩ := List.forall_mem_cons.mp h
      obtain ⟨others, hothers⟩ := ih hrest
      refine ⟨max first others, fun n hn => List.forall_mem_cons.mpr ⟨?_, ?_⟩⟩
      · exact hfirst n (Nat.le_trans (Nat.le_max_left _ _) hn)
      · exact hothers n (Nat.le_trans (Nat.le_max_right _ _) hn)

/-- Where the way down ends, so many levels are enough: what is put below them is not asked. -/
theorem Grounded.exists_levels (h : a.Grounded s) (hnodup : known.Nodup)
    (hdocument : a.references ⊆ known) :
    ∃ levels, ∀ n, levels ≤ n → ∀ (ask : Value → Noted Value) (fresh : List String),
      s.references ⊆ known → a.Trail known fresh s →
        (a.mergeRound^[n] ask s).outcome = (a.mergedWith known fresh s).outcome := by
  induction h with
  | intro s hbelow ih =>
      have hs : a.Grounded s := Acc.intro s hbelow
      -- each part leads to one schema at most, so there are enough levels for all of them
      have hparts : ∀ part ∈ s.parts?.getD [], ∃ levels, ∀ n, levels ≤ n →
          ∀ t, a.HasPart s t → a.Leads part t →
            ∀ (ask : Value → Noted Value) (fresh : List String), t.references ⊆ known →
              a.Trail known fresh t →
                (a.mergeRound^[n] ask t).outcome = (a.mergedWith known fresh t).outcome := by
        intro part _
        by_cases hleads : ∃ t, a.HasPart s t ∧ a.Leads part t
        · obtain ⟨t, hhas, ht⟩ := hleads
          obtain ⟨levels, hlevels⟩ := ih t hhas
          refine ⟨levels, fun n hn u _ hu => ?_⟩
          rw [hu.unique ht]
          exact hlevels n hn
        · exact ⟨0, fun _ _ t hhas ht => absurd ⟨t, hhas, ht⟩ hleads⟩
      obtain ⟨levels, hlevels⟩ := exists_bound hparts
      refine ⟨levels + 1, fun n hn ask fresh hrefs htrail => ?_⟩
      obtain ⟨m, rfl⟩ : ∃ m, n = m + 1 := Nat.exists_eq_add_one.mpr (by omega)
      rw [Function.iterate_succ_apply']
      refine outcome_mergeRound_eq fun parts hall => outcome_gatherRound_eq fun part hmem => ?_
      have hknown := List.Subset.trans (Value.references_subset_of_part hall hmem) hrefs
      have hhas : ∀ t, a.Leads part t → a.HasPart s t :=
        fun t ht => ⟨parts, part, hall, hmem, ht⟩
      have htracks : a.Tracks known ⟨[], part⟩ :=
        ⟨hnodup, fun ref href => iff_of_true (href.elim (hknown ·) (hdocument ·)) List.not_mem_nil⟩
      refine outcome_partRound_eq htracks (fun ref t href ht => ?_) fun t ht _ => ?_
      · exact htrail.mem_fresh hs.not_transGen (hhas t ht) (ht.refLeads href)
          (hknown (Value.mem_references_of_ref? href))
      · have hmem' : part ∈ s.parts?.getD [] := by
          rw [hall]
          exact hmem
        exact hlevels m (by omega) part hmem' t (hhas t ht) ht ask _
          (references_subset_of_hasPart hrefs hdocument (hhas t ht)) (htrail.inside (hhas t ht) ht)

/-- A part that was gathered came out. -/
theorem exists_outcome_partRound_of_gatherRound {parts : List Value} {g g' : Contribution}
    (h : (a.gatherRound ask g parts).outcome = .ok g') :
    ∀ part ∈ parts, ∃ found, (a.partRound ask part).outcome = .ok found := by
  induction parts generalizing g with
  | nil => exact List.forall_mem_nil _
  | cons part rest ih =>
      obtain ⟨found, hfound, hrest⟩ := Noted.outcome_bind_eq_ok_iff.mp h
      refine List.forall_mem_cons.mpr ⟨⟨found, hfound⟩, ?_⟩
      cases found with
      | none => exact ih hrest
      | some whole =>
          dsimp only at hrest
          cases habsorb : g.absorb whole with
          | error fault =>
              rw [habsorb] at hrest
              cases hrest
          | ok next =>
              rw [habsorb] at hrest
              exact ih hrest

/-- A schema that is merged by so many levels is one from which the way down ends. -/
theorem grounded_of_levels {e : Error} {n : Nat} {whole : Value}
    (h : (a.mergeRound^[n] (fun _ => Noted.fail e) s).outcome = .ok whole) : a.Grounded s := by
  induction n generalizing s whole with
  | zero => cases h
  | succ n ih =>
      rw [Function.iterate_succ_apply'] at h
      refine Acc.intro s ?_
      rintro t ⟨parts, part, hparts, hmem, hleads⟩
      unfold mergeRound at h
      rw [hparts] at h
      obtain ⟨c, hgather, -⟩ := Noted.outcome_bind_eq_ok_iff.mp h
      obtain ⟨found, hfound⟩ := exists_outcome_partRound_of_gatherRound hgather part hmem
      unfold partRound at hfound
      rw [Noted.outcome_bind, outcome_deref_eq_some_iff.mpr hleads] at hfound
      obtain ⟨piece, hpiece, -⟩ := Noted.outcome_map_eq_ok_iff.mp hfound
      by_cases hsome : t.parts?.isSome = true
      · rw [if_pos hsome] at hpiece
        exact ih hpiece
      · refine Acc.intro t ?_
        rintro u ⟨inner, -, hinner, -⟩
        rw [hinner] at hsome
        exact absurd rfl hsome

-- ====================================================== no false alarm

/-- A part is called endless only if what it leads to is. -/
theorem outcome_partRound_ne_endless
    (h : ∀ t, (ask t).outcome ≠ .error (.fault .endlessComposition)) (part : Value) :
    (a.partRound ask part).outcome ≠ .error (.fault .endlessComposition) := by
  intro herror
  rcases Noted.outcome_bind_eq_error_iff.mp herror with hderef | ⟨found, -, hrest⟩
  · cases eq_badNumeral_of_derefWith hderef
  · cases found with
    | none => cases hrest
    | some t =>
        have hpiece := Noted.outcome_map_eq_error_iff.mp hrest
        split at hpiece
        · exact h t hpiece
        · cases hpiece

/-- Parts are called endless only if one of them is. -/
theorem outcome_gatherRound_ne_endless
    (h : ∀ t, (ask t).outcome ≠ .error (.fault .endlessComposition)) (g : Contribution)
    (parts : List Value) :
    (a.gatherRound ask g parts).outcome ≠ .error (.fault .endlessComposition) := by
  induction parts generalizing g with
  | nil =>
      intro herror
      cases herror
  | cons part rest ih =>
      intro herror
      rcases Noted.outcome_bind_eq_error_iff.mp herror with hpart | ⟨found, -, hrest⟩
      · exact outcome_partRound_ne_endless h part hpart
      · cases found with
        | none => exact ih g hrest
        | some whole =>
            dsimp only at hrest
            cases habsorb : g.absorb whole with
            | ok next =>
                rw [habsorb] at hrest
                exact ih next hrest
            | error fault =>
                rw [habsorb] at hrest
                cases Contribution.eq_notIterable_of_absorb habsorb
                cases hrest

/-- A schema is called endless only if its parts are. -/
theorem outcome_mergeRound_ne_endless
    (h : ∀ t, (ask t).outcome ≠ .error (.fault .endlessComposition)) (schema : Value) :
    (a.mergeRound ask schema).outcome ≠ .error (.fault .endlessComposition) := by
  intro herror
  unfold mergeRound at herror
  cases hparts : schema.parts? with
  | none =>
      rw [hparts] at herror
      cases herror
  | some parts =>
      rw [hparts] at herror
      rcases Noted.outcome_bind_eq_error_iff.mp herror with hgather | ⟨c, -, hrest⟩
      · exact outcome_gatherRound_ne_endless h .empty parts hgather
      · cases schema with
        | scalar _ => cases hparts
        | list _ => cases hparts
        | map entries =>
            dsimp only at hrest
            cases hclose : c.close entries with
            | ok closed =>
                rw [hclose] at hrest
                cases hrest
            | error fault =>
                rw [hclose] at hrest
                rcases Contribution.eq_notMapping_or_notIterable_of_close hclose with rfl | rfl
                · cases hrest
                · cases hrest

/-- So no levels call a composition endless, unless what is put below them does. -/
theorem outcome_levels_ne_endless
    (h : ∀ t, (ask t).outcome ≠ .error (.fault .endlessComposition)) (n : Nat) (schema : Value) :
    (a.mergeRound^[n] ask schema).outcome ≠ .error (.fault .endlessComposition) := by
  induction n generalizing schema with
  | zero => exact h schema
  | succ n ih =>
      rw [Function.iterate_succ_apply']
      exact outcome_mergeRound_ne_endless ih schema

/-- Merging is as finite as the composition. Where one cannot go on entering composed parts without
end, it does not run endlessly, and so many levels of a plain recursion give its answer, whatever is
put below them. Where one can, it gives no answer, and neither do any levels over nothing. -/
theorem merged_ends_with_composition (a : Api) (schema : Value) :
    (¬a.Endless schema →
      (a.merged schema).outcome ≠ .error (.fault .endlessComposition)
        ∧ ∃ levels, ∀ n, levels ≤ n → ∀ ask,
          (a.mergeRound^[n] ask schema).outcome = (a.merged schema).outcome)
      ∧ (a.Endless schema →
        (∀ whole, (a.merged schema).outcome ≠ .ok whole)
          ∧ ∀ n e whole, (a.mergeRound^[n] (fun _ => Noted.fail e) schema).outcome ≠ .ok whole) := by
  have hdocument := a.references_subset_fresh schema
  have hschema := a.node_references_subset_fresh schema
  rw [← not_grounded_iff, not_not]
  constructor
  · intro hground
    obtain ⟨levels, hlevels⟩ := hground.exists_levels (nodup_fresh a [] schema) hdocument
    have hmerged : ∀ n, levels ≤ n → ∀ ask,
        (a.mergeRound^[n] ask schema).outcome = (a.merged schema).outcome :=
      fun n hn ask => hlevels n hn ask _ hschema (.start _ _)
    refine ⟨?_, levels, hmerged⟩
    rw [← hmerged levels (Nat.le_refl _) fun schema => pure schema]
    exact outcome_levels_ne_endless (fun _ herror => by cases herror) levels schema
  · intro hendless
    exact ⟨fun whole hwhole => hendless (grounded_of_outcome_merged hwhole),
      fun n e whole hwhole => hendless (grounded_of_levels hwhole)⟩

end Api

end ApiCommands
