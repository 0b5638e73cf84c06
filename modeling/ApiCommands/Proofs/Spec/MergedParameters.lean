/-
What the parameters of an operation are merged from.

A declaration takes the place of the one with its name and location, or the
place at the end. So each name and location stands once, where it was declared
first (`map_slot_overrideAll`), with what was declared for it last
(`find?_reverse_of_mem_overrideAll`). Both are inductions from the end of the
declarations, by what one of them does to the list before
(`map_slot_override`, `mem_override_iff`).

Behind them stand parameters for the segments of the path that are placeholders
as a whole, each name once, whatever the case, and none that is declared
(`map_key_synthesized`).

`Merges` says both of what was declared and of what was made. It follows that no
name and location stands twice (`Merges.nodup_slot`), and that of two lists of
declarations the second goes before the first (`Merges.mem_of_slot_mem`).
-/
import ApiCommands.Proofs.Spec.Parameters

namespace ApiCommands

/-- The names of the segments that are placeholders as a whole, from left to right. -/
def PathTemplate.wholeNames (path : String) : List String :=
  ((segments path).filter isParam).map paramName

namespace Parameter

variable {p q : Parameter} {ps : List Parameter}

/-- What declared parameters are told apart by. -/
def slot (p : Parameter) : String × Location := (p.name, p.location)

theorem sameSlot_iff : q.sameSlot p = true ↔ q.slot = p.slot := by
  unfold sameSlot slot
  rw [Bool.and_eq_true, beq_iff_eq, beq_iff_eq, Prod.mk.injEq]

-- ====================================================== overriding

/-- A declaration brings its slot to the end, unless the slot is there. -/
theorem map_slot_override (p : Parameter) (ps : List Parameter) :
    (override p ps).map slot
      = if (ps.map slot).contains p.slot then ps.map slot else ps.map slot ++ [p.slot] := by
  induction ps with
  | nil => rfl
  | cons q rest ih =>
      rw [override, List.map_cons, List.contains_cons]
      by_cases hslot : q.slot = p.slot
      · rw [if_pos (sameSlot_iff.mpr hslot), List.map_cons, hslot, beq_self_eq_true,
          Bool.true_or, if_pos rfl]
      · have hne : (p.slot == q.slot) = false := beq_eq_false_iff_ne.mpr fun heq => hslot heq.symm
        rw [if_neg (mt sameSlot_iff.mp hslot), List.map_cons, ih, hne, Bool.false_or]
        split <;> rfl

/-- It takes the place of what stands in its slot, and nothing else changes. -/
theorem mem_override_iff (hnodup : (ps.map slot).Nodup) :
    q ∈ override p ps ↔ q = p ∨ q ∈ ps ∧ q.slot ≠ p.slot := by
  induction ps with
  | nil => simp [override]
  | cons first rest ih =>
      obtain ⟨hfirst, hrest⟩ := List.nodup_cons.mp hnodup
      rw [override]
      by_cases hslot : first.slot = p.slot
      · have hothers : ∀ r ∈ rest, r.slot ≠ p.slot :=
          fun r hr heq => hfirst (hslot.trans heq.symm ▸ List.mem_map_of_mem hr)
        rw [if_pos (sameSlot_iff.mpr hslot), List.mem_cons, List.mem_cons]
        refine or_congr_right ⟨fun hq => ⟨Or.inr hq, hothers q hq⟩, ?_⟩
        rintro ⟨rfl | hq, hne⟩
        · exact absurd hslot hne
        · exact hq
      · rw [if_neg (mt sameSlot_iff.mp hslot), List.mem_cons, ih hrest, List.mem_cons]
        constructor
        · rintro (rfl | rfl | ⟨hq, hne⟩)
          · exact Or.inr ⟨Or.inl rfl, hslot⟩
          · exact Or.inl rfl
          · exact Or.inr ⟨Or.inr hq, hne⟩
        · rintro (rfl | ⟨rfl | hq, hne⟩)
          · exact Or.inr (Or.inl rfl)
          · exact Or.inl rfl
          · exact Or.inr (Or.inr ⟨hq, hne⟩)

theorem overrideAll_concat (ps : List Parameter) (p : Parameter) :
    overrideAll (ps ++ [p]) = override p (overrideAll ps) := by
  unfold overrideAll
  rw [List.foldl_append]
  rfl

/-- The slots are those of the declarations, each at its first place. -/
theorem map_slot_overrideAll (ps : List Parameter) :
    (overrideAll ps).map slot = (ps.map slot).eraseDups := by
  induction ps using List.reverseRecOn with
  | nil => simp [overrideAll]
  | append_singleton front p ih =>
      have hcontains : (front.map slot).eraseDups.contains p.slot
          = (front.map slot).contains p.slot := by
        rw [Bool.eq_iff_iff, List.contains_iff_mem, List.contains_iff_mem, List.mem_eraseDups]
      rw [overrideAll_concat, map_slot_override, ih, hcontains, List.map_append, List.map_cons,
        List.map_nil, eraseDups_concat]

/-- In a slot stands the last declaration for it. -/
theorem find?_reverse_of_mem_overrideAll (h : p ∈ overrideAll ps) :
    ps.reverse.find? (fun q => q.slot == p.slot) = some p := by
  induction ps using List.reverseRecOn with
  | nil => cases h
  | append_singleton front q ih =>
      have hnodup : ((overrideAll front).map slot).Nodup := by
        rw [map_slot_overrideAll]
        exact nodup_eraseDups _
      rw [overrideAll_concat, mem_override_iff hnodup] at h
      rw [List.reverse_append, List.reverse_singleton, List.singleton_append]
      rcases h with rfl | ⟨hfront, hne⟩
      · exact List.find?_cons_of_pos (by simp)
      · rw [List.find?_cons_of_neg (by simpa using hne.symm)]
        exact ih hfront

-- ====================================================== parameters for placeholders

/-- For each key that is not known there is one parameter, at the first place of the key. -/
theorem map_key_synthesized (known names : List String) :
    (synthesized known names).map key
      = (names.map Text.lowered).eraseDups.filter fun k => !known.contains k := by
  induction names generalizing known with
  | nil => simp [synthesized]
  | cons name rest ih =>
      rw [synthesized, List.map_cons, List.eraseDups_cons, eraseDups_filter]
      by_cases hknown : known.contains (Text.lowered name) = true
      · rw [if_pos hknown, ih, List.filter_cons_of_neg (by simpa using hknown), List.filter_filter]
        refine List.filter_congr fun k _ => ?_
        by_cases hk : k = Text.lowered name
        · rw [hk, hknown]
          rfl
        · simp [hk]
      · have hkey : (ofPlaceholder name).key = Text.lowered name := rfl
        rw [if_neg hknown, List.map_cons, hkey, ih,
          List.filter_cons_of_pos (by simpa using hknown), List.filter_filter]
        congr 1
        refine List.filter_congr fun k _ => ?_
        by_cases hk : k = Text.lowered name <;> simp [hk]

/-- It is a required path parameter with the name that has this key first. -/
theorem eq_ofPlaceholder_of_mem_synthesized {known names : List String}
    (h : p ∈ synthesized known names) :
    p = ofPlaceholder p.name ∧ p.key ∉ known
      ∧ names.find? (fun name => Text.lowered name == p.key) = some p.name := by
  induction names generalizing known with
  | nil => cases h
  | cons name rest ih =>
      rw [synthesized] at h
      by_cases hknown : known.contains (Text.lowered name) = true
      · rw [if_pos hknown] at h
        obtain ⟨hp, hout, hfind⟩ := ih h
        have hne : Text.lowered name ≠ p.key :=
          fun heq => hout (heq ▸ List.contains_iff_mem.mp hknown)
        refine ⟨hp, hout, ?_⟩
        rwa [List.find?_cons_of_neg (by simpa using hne)]
      · rw [if_neg hknown] at h
        rcases List.mem_cons.mp h with rfl | hrest
        · refine ⟨rfl, fun hmem => hknown (List.contains_iff_mem.mpr hmem), ?_⟩
          exact List.find?_cons_of_pos (beq_self_eq_true _)
        · obtain ⟨hp, hout, hfind⟩ := ih hrest
          rw [List.mem_cons, not_or] at hout
          refine ⟨hp, hout.2, ?_⟩
          rwa [List.find?_cons_of_neg (by simpa using fun heq => hout.1 heq.symm)]

-- ====================================================== both together

/-- How `declared` and `made` come from declarations and from the names of a path. -/
structure Merges (names : List String) (declarations declared made : List Parameter) : Prop where
  /-- A slot stands where it was declared first. -/
  slots : declared.map slot = (declarations.map slot).eraseDups
  /-- In it stands what was declared last. -/
  last : ∀ p ∈ declared, declarations.reverse.find? (fun q => q.slot == p.slot) = some p
  /-- Names without a declared path parameter have one made, each once whatever the case. -/
  keys : made.map key
    = (names.map Text.lowered).eraseDups.filter fun k => !(pathKeys declared).contains k
  /-- What is made is required, is no list, and is spelled as it stands first. -/
  spelled : ∀ p ∈ made, p = { name := p.name, location := .path, required := true }
    ∧ names.find? (fun name => Text.lowered name == p.key) = some p.name

theorem merges_complete (path : String) (declarations : List Parameter) :
    ∃ made, complete path (overrideAll declarations) = overrideAll declarations ++ made
      ∧ Merges (PathTemplate.wholeNames path) declarations (overrideAll declarations) made := by
  refine ⟨_, rfl, map_slot_overrideAll declarations,
    fun p hp => find?_reverse_of_mem_overrideAll hp, map_key_synthesized _ _, fun p hp => ?_⟩
  obtain ⟨hp, -, hfind⟩ := eq_ofPlaceholder_of_mem_synthesized hp
  exact ⟨hp, hfind⟩

namespace Merges

variable {names : List String} {declarations declared made : List Parameter}

theorem nodup_slot (h : Merges names declarations declared made) :
    ((declared ++ made).map slot).Nodup := by
  have hdeclared : (declared.map slot).Nodup := by
    rw [h.slots]
    exact nodup_eraseDups _
  have hkeys : (made.map key).Nodup := by
    rw [h.keys]
    exact (nodup_eraseDups _).filter _
  have hmade : (made.map slot).Nodup := by
    -- parameters with one slot have one key
    have hfactor : made.map key = (made.map slot).map fun s => Text.lowered s.1 := by
      rw [List.map_map]
      rfl
    rw [hfactor] at hkeys
    exact hkeys.of_map _
  rw [List.map_append, List.nodup_append']
  refine ⟨hdeclared, hmade, fun s hs hs' => ?_⟩
  obtain ⟨q, hq, rfl⟩ := List.mem_map.mp hs
  obtain ⟨p, hp, hslot⟩ := List.mem_map.mp hs'
  have hlocation : p.location = .path := by rw [(h.spelled p hp).1]
  have hout : p.key ∉ pathKeys declared := by
    have hmem : p.key ∈ made.map key := List.mem_map_of_mem hp
    rw [h.keys] at hmem
    simpa using (List.mem_filter.mp hmem).2
  unfold slot at hslot
  rw [Prod.mk.injEq] at hslot
  refine hout (List.mem_map.mpr ⟨q, List.mem_filter.mpr ⟨hq, ?_⟩, ?_⟩)
  · rw [← hslot.2, hlocation]
    rfl
  · show Text.lowered q.name = Text.lowered p.name
    rw [hslot.1]

/-- What is declared last with a slot stands in it, so later declarations go before earlier
ones. -/
theorem mem_of_slot_mem {shared own : List Parameter}
    (h : Merges names (shared ++ own) declared made) (hp : p ∈ declared)
    (hslot : p.slot ∈ own.map slot) : p ∈ own := by
  have hlast := h.last p hp
  rw [List.reverse_append, List.find?_append] at hlast
  obtain ⟨q, hq, heq⟩ := List.mem_map.mp hslot
  obtain ⟨found, hfound⟩ := Option.isSome_iff_exists.mp
    (List.find?_isSome (p := fun q : Parameter => q.slot == p.slot) |>.mpr
      ⟨q, List.mem_reverse.mpr hq, beq_iff_eq.mpr heq⟩)
  rw [hfound, Option.some_or] at hlast
  rw [← Option.some.inj hlast]
  exact List.mem_reverse.mp (List.mem_of_find?_eq_some hfound)

end Merges

end Parameter

end ApiCommands
