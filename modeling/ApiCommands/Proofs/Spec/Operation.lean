/-
The order of path parameters.

The placeholders of a path, each at its first place, are the keys that the path
parameters are arranged by. What stands at the front is told key by key: a key
is filled by the last declaration of that name, or by nothing
(`matchedParameters`); what fills no key follows as declared. So for one key
there is one place to look (`filter_pathParameters`), and no declared name gets
lost (`exists_mem_pathParameters_iff`).

Where all declared names differ, nothing else gets lost either: the arrangement
is a permutation (`pathParameters_perm`). Where in addition every placeholder is
declared, the front is the placeholders themselves, in order
(`map_key_matchedParameters`).
-/
import ApiCommands.Proofs.Naming.Grouping
import ApiCommands.Spec.Operation
import Mathlib.Data.List.Basic

namespace ApiCommands

/-- What a parameter is looked up by: its name in lower case. -/
def Parameter.key (p : Parameter) : String := Text.lowered p.name

namespace Operation

variable (op : Operation)

/-- The declaration that fills a placeholder: the last of this name. -/
def filling? (key : String) : Option Parameter :=
  op.declaredPath.reverse.find? fun p => p.key == key

/-- The path parameters that fill placeholders, in the order of these. -/
def matchedParameters : List Parameter := op.placeholderKeys.filterMap op.filling?

/-- The path parameters that fill no placeholder, as declared. -/
def unmatchedParameters : List Parameter :=
  op.declaredPath.filter fun p => !op.placeholderKeys.contains p.key

theorem pathParameters_eq :
    op.pathParameters = op.matchedParameters ++ op.unmatchedParameters := rfl

-- ====================================================== keys

/-- A placeholder is looked for by its name in lower case. -/
theorem mem_placeholderKeys {key : String} :
    key ∈ op.placeholderKeys ↔ ∃ name ∈ op.placeholders, Text.lowered name = key := by
  unfold placeholderKeys
  rw [List.mem_eraseDups, List.mem_map]

theorem nodup_placeholderKeys : op.placeholderKeys.Nodup := nodup_eraseDups _

variable {op}

/-- What fills a placeholder is declared under its name. -/
theorem filling?_eq_some {key : String} {p : Parameter} (h : op.filling? key = some p) :
    p ∈ op.declaredPath ∧ p.key = key := by
  unfold filling? at h
  exact ⟨List.mem_reverse.mp (List.mem_of_find?_eq_some h), by simpa using List.find?_some h⟩

/-- A declared name fills its placeholder. -/
theorem exists_filling? {p : Parameter} (h : p ∈ op.declaredPath) :
    ∃ q, op.filling? p.key = some q := by
  unfold filling?
  refine Option.isSome_iff_exists.mp (List.find?_isSome.mpr ⟨p, List.mem_reverse.mpr h, ?_⟩)
  simp

-- ====================================================== one key

/-- Of things made for keys that differ, those with one of the keys are what was made for it. -/
private theorem filter_filterMap_of_nodup {f : String → Option Parameter} {key : String}
    (hf : ∀ k p, f k = some p → p.key = k) {keys : List String} (hnodup : keys.Nodup)
    (hkey : key ∈ keys) :
    (keys.filterMap f).filter (fun p => p.key == key) = (f key).toList := by
  induction keys with
  | nil => cases hkey
  | cons k rest ih =>
      obtain ⟨hk, hrest⟩ := List.nodup_cons.mp hnodup
      have hothers : ∀ q ∈ rest.filterMap f, q.key ∈ rest := by
        intro q hq
        obtain ⟨k', hk', hfk'⟩ := List.mem_filterMap.mp hq
        rw [hf k' q hfk']
        exact hk'
      rcases List.mem_cons.mp hkey with rfl | hmem
      · have hnone : (rest.filterMap f).filter (fun p => p.key == key) = [] := by
          refine List.filter_eq_nil_iff.mpr fun q hq heq => hk ?_
          rw [← beq_iff_eq.mp heq]
          exact hothers q hq
        cases hfk : f key with
        | none => rw [List.filterMap_cons_none hfk, hnone, Option.toList_none]
        | some p =>
            rw [List.filterMap_cons_some hfk,
              List.filter_cons_of_pos (by simpa using hf key p hfk), hnone, Option.toList_some]
      · have hne : k ≠ key := fun heq => hk (heq ▸ hmem)
        cases hfk : f k with
        | none => rw [List.filterMap_cons_none hfk, ih hrest hmem]
        | some p =>
            rw [List.filterMap_cons_some hfk, List.filter_cons_of_neg, ih hrest hmem]
            rw [hf k p hfk]
            simpa using hne

/-- The path parameters of one placeholder are the one that fills it, if it is filled. -/
theorem filter_pathParameters {key : String} (h : key ∈ op.placeholderKeys) :
    op.pathParameters.filter (fun p => p.key == key) = (op.filling? key).toList := by
  have hmatched := filter_filterMap_of_nodup (f := op.filling?)
    (fun _ _ hfill => (filling?_eq_some hfill).2) op.nodup_placeholderKeys h
  have hunmatched : op.unmatchedParameters.filter (fun p => p.key == key) = [] := by
    refine List.filter_eq_nil_iff.mpr fun p hp heq => ?_
    have hout := (List.mem_filter.mp hp).2
    rw [beq_iff_eq.mp heq] at hout
    simp [h] at hout
  rw [pathParameters_eq, List.filter_append, hunmatched, List.append_nil]
  exact hmatched

/-- A path parameter is a declared one. -/
theorem mem_declaredPath_of_mem_pathParameters {p : Parameter} (h : p ∈ op.pathParameters) :
    p ∈ op.declaredPath := by
  rw [pathParameters_eq] at h
  rcases List.mem_append.mp h with hmatched | hunmatched
  · obtain ⟨key, -, hfill⟩ := List.mem_filterMap.mp hmatched
    exact (filling?_eq_some hfill).1
  · exact (List.mem_filter.mp hunmatched).1

/-- The names of path parameters are the declared ones, but for case. -/
theorem exists_mem_pathParameters_iff {key : String} :
    (∃ p ∈ op.pathParameters, p.key = key) ↔ ∃ p ∈ op.declaredPath, p.key = key := by
  constructor
  · rintro ⟨p, hp, hkey⟩
    exact ⟨p, mem_declaredPath_of_mem_pathParameters hp, hkey⟩
  · rintro ⟨p, hp, rfl⟩
    rw [pathParameters_eq]
    by_cases hmem : p.key ∈ op.placeholderKeys
    · obtain ⟨q, hq⟩ := exists_filling? hp
      refine ⟨q, List.mem_append_left _ (List.mem_filterMap.mpr ⟨_, hmem, hq⟩), ?_⟩
      exact (filling?_eq_some hq).2
    · refine ⟨p, List.mem_append_right _ (List.mem_filter.mpr ⟨hp, ?_⟩), rfl⟩
      simpa using hmem

-- ====================================================== names that differ

/-- Where declared names differ, what fills a placeholder is all that is declared for it. -/
theorem toList_filling? (h : (op.declaredPath.map Parameter.key).Nodup) (key : String) :
    (op.filling? key).toList = op.declaredPath.filter fun p => p.key == key := by
  have hlength : (op.declaredPath.filter fun p => p.key == key).length ≤ 1 := by
    have hcount := List.nodup_iff_count_le_one.mp h key
    rwa [List.count, List.countP_map, List.countP_eq_length_filter] at hcount
  unfold filling?
  rw [← List.getLast?_filter]
  match hfilter : op.declaredPath.filter fun p => p.key == key with
  | [] => rw [hfilter]; rfl
  | [p] => rw [hfilter]; rfl
  | p :: q :: rest =>
      rw [hfilter] at hlength
      simp at hlength

/-- Where declared names differ, the path parameters are the declared ones in another order. -/
theorem pathParameters_perm (h : (op.declaredPath.map Parameter.key).Nodup) :
    op.pathParameters.Perm op.declaredPath := by
  have hmatched : op.matchedParameters.Perm
      (op.declaredPath.filter fun p => op.placeholderKeys.contains p.key) := by
    unfold matchedParameters
    rw [List.filterMap_eq_flatMap_toList]
    simp only [toList_filling? h]
    exact flatMap_filter_perm Parameter.key op.declaredPath op.nodup_placeholderKeys
  rw [pathParameters_eq]
  exact (hmatched.append_right _).trans (List.filter_append_perm _ _)

/-- The operation has a path parameter for every placeholder. -/
def CoversPlaceholders (op : Operation) : Prop :=
  ∀ name ∈ op.placeholders, ∃ p ∈ op.pathParameters, p.key = Text.lowered name

/-- Where every placeholder is filled, the parameters at the front are those of the placeholders,
one after the other. -/
theorem map_key_matchedParameters (h : op.CoversPlaceholders) :
    op.matchedParameters.map Parameter.key = op.placeholderKeys := by
  have hfilled : ∀ key ∈ op.placeholderKeys, (op.filling? key).map Parameter.key = some key := by
    intro key hkey
    obtain ⟨name, hname, rfl⟩ := op.mem_placeholderKeys.mp hkey
    obtain ⟨p, hp, hp_key⟩ := h name hname
    obtain ⟨q, hq⟩ := exists_filling? (mem_declaredPath_of_mem_pathParameters hp)
    rw [hp_key] at hq
    rw [hq, Option.map_some, (filling?_eq_some hq).2]
  unfold matchedParameters
  rw [List.map_filterMap]
  calc op.placeholderKeys.filterMap (fun key => (op.filling? key).map Parameter.key)
      = op.placeholderKeys.filterMap some := List.filterMap_congr hfilled
    _ = op.placeholderKeys := List.filterMap_some

/-- Then the path parameters are those of the placeholders and after them the others. -/
theorem map_key_pathParameters (h : op.CoversPlaceholders) :
    op.pathParameters.map Parameter.key
      = op.placeholderKeys ++ op.unmatchedParameters.map Parameter.key := by
  rw [pathParameters_eq, List.map_append, map_key_matchedParameters h]

-- ====================================================== places

/-- The place of a placeholder among the different ones, from left to right. -/
def placeOf (op : Operation) (name : String) : Nat :=
  op.placeholderKeys.idxOf (Text.lowered name)

/-- At the place of a placeholder stands its parameter. -/
theorem key_at_placeOf (h : op.CoversPlaceholders) {name : String}
    (hname : name ∈ op.placeholders) :
    ∃ hk : op.placeOf name < op.pathParameters.length,
      op.pathParameters[op.placeOf name].key = Text.lowered name := by
  have hmem : Text.lowered name ∈ op.placeholderKeys :=
    op.mem_placeholderKeys.mpr ⟨name, hname, rfl⟩
  have hplace : op.placeOf name < op.placeholderKeys.length := List.idxOf_lt_length_iff.mpr hmem
  have hlength := congrArg List.length (map_key_pathParameters h)
  rw [List.length_map, List.length_append] at hlength
  have hk : op.placeOf name < op.pathParameters.length := by omega
  refine ⟨hk, ?_⟩
  have hkeys : (op.pathParameters.map Parameter.key)[op.placeOf name]?
      = some (Text.lowered name) := by
    rw [map_key_pathParameters h, List.getElem?_append_left hplace,
      List.getElem?_eq_getElem hplace]
    exact congrArg some (List.getElem_idxOf hplace)
  rw [List.getElem?_map, List.getElem?_eq_getElem hk] at hkeys
  exact Option.some.inj hkeys

end Operation

end ApiCommands
