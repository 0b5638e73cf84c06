/-
Which path parameters an operation has.

A path parameter is declared, or made for a segment of the path that is a
placeholder as a whole. Overriding replaces a declaration by one of the same
name and location, so the declared names are those of all declarations
(`exists_mem_overrideAll_iff`); a segment adds its name unless a declaration has
it, so in the end both are there, but for case (`mem_pathKeys_complete_iff`).

The segments that count are told by their form alone: `{`, a name, `}`
(`isParam_iff`). What stands between the braces is taken as it is, so a segment
with two placeholders adds one parameter, under a name that is none of theirs.
-/
import ApiCommands.Proofs.Outcome.Note
import ApiCommands.Proofs.Spec.Operation
import ApiCommands.Spec.Parameters

namespace ApiCommands

namespace PathTemplate

/-- A segment that stands for a parameter is a name in braces. -/
theorem isParam_iff {segment : String} :
    isParam segment = true ↔ ∃ name, segment = Text.braced name := by
  unfold isParam
  rw [Bool.and_eq_true, List.isPrefixOf_iff_prefix, List.isSuffixOf_iff_suffix]
  constructor
  · rintro ⟨⟨rest, hrest⟩, ⟨front, hfront⟩⟩
    have hne : front ≠ [] := by
      rintro rfl
      rw [← hfront] at hrest
      simp at hrest
    obtain ⟨c, name, rfl⟩ := List.exists_cons_of_ne_nil hne
    refine ⟨String.ofList name, ?_⟩
    rw [← hfront] at hrest
    obtain ⟨rfl, -⟩ := List.cons.inj hrest
    rw [← String.toList_inj, ← hfront]
    simp
  · rintro ⟨name, rfl⟩
    refine ⟨⟨name.toList ++ ['}'], ?_⟩, ⟨'{' :: name.toList, ?_⟩⟩
    · simp
    · simp

/-- The parameter of a name in braces has this name. -/
theorem paramName_braced (name : String) : paramName (Text.braced name) = name := by
  unfold paramName
  rw [if_pos (isParam_iff.mpr ⟨name, rfl⟩), ← String.toList_inj]
  simp

end PathTemplate

namespace Parameter

-- ====================================================== overriding

/-- An overridden list has what it had before, where only name and location count, and the new
parameter. -/
theorem exists_mem_override_iff {Q : String → Location → Prop} {p : Parameter}
    {ps : List Parameter} :
    (∃ q ∈ override p ps, Q q.name q.location)
      ↔ Q p.name p.location ∨ ∃ q ∈ ps, Q q.name q.location := by
  induction ps with
  | nil => simp [override]
  | cons q rest ih =>
      rw [override]
      by_cases hslot : q.sameSlot p = true
      · have hsame : q.name = p.name ∧ q.location = p.location := by
          simpa [sameSlot] using hslot
        rw [if_pos hslot, List.exists_mem_cons_iff, List.exists_mem_cons_iff, hsame.1, hsame.2,
          ← or_assoc, or_self]
      · rw [if_neg hslot, List.exists_mem_cons_iff, List.exists_mem_cons_iff, ih, or_left_comm]

/-- The names and locations of parameters put over one another are those of all. -/
theorem exists_mem_overrideAll_iff {Q : String → Location → Prop} {ps : List Parameter} :
    (∃ q ∈ overrideAll ps, Q q.name q.location) ↔ ∃ q ∈ ps, Q q.name q.location := by
  unfold overrideAll
  have hgeneral : ∀ merged : List Parameter,
      (∃ q ∈ ps.foldl (fun merged p => override p merged) merged, Q q.name q.location)
        ↔ (∃ q ∈ merged, Q q.name q.location) ∨ ∃ q ∈ ps, Q q.name q.location := by
    induction ps with
    | nil => simp
    | cons p rest ih =>
        intro merged
        rw [List.foldl_cons, ih, exists_mem_override_iff, List.exists_mem_cons_iff, or_assoc,
          or_left_comm]
  simpa using hgeneral []

-- ====================================================== parameters for placeholders

/-- The keys of the parameters made for names, beside those known, are the keys of the names. -/
theorem mem_pathKeys_synthesized_iff {key : String} {known names : List String} :
    key ∈ known ∨ key ∈ pathKeys (synthesized known names)
      ↔ key ∈ known ∨ ∃ name ∈ names, Text.lowered name = key := by
  induction names generalizing known with
  | nil => simp [synthesized, pathKeys]
  | cons name rest ih =>
      rw [synthesized, List.exists_mem_cons_iff]
      by_cases hknown : known.contains (Text.lowered name) = true
      · have hmem : Text.lowered name ∈ known := by simpa using hknown
        rw [if_pos hknown, ih]
        constructor
        · rintro (h | h)
          · exact Or.inl h
          · exact Or.inr (Or.inr h)
        · rintro (h | rfl | h)
          · exact Or.inl h
          · exact Or.inl hmem
          · exact Or.inr h
      · have hstep := @ih (Text.lowered name :: known)
        have hkeys : pathKeys (ofPlaceholder name :: synthesized (Text.lowered name :: known) rest)
            = Text.lowered name :: pathKeys (synthesized (Text.lowered name :: known) rest) := rfl
        rw [if_neg hknown, hkeys, List.mem_cons, ← or_assoc]
        rw [List.mem_cons, or_comm (a := key = _)] at hstep
        rw [hstep, or_assoc, eq_comm (a := key)]

/-- The keys of complete path parameters are those of the declared ones and of the segments that
stand for parameters. -/
theorem mem_pathKeys_complete_iff {key path : String} {declared : List Parameter} :
    key ∈ pathKeys (complete path declared)
      ↔ key ∈ pathKeys declared
        ∨ ∃ segment ∈ PathTemplate.segments path, ∃ name,
            segment = Text.braced name ∧ Text.lowered name = key := by
  have hkeys : pathKeys (complete path declared)
      = pathKeys declared ++ pathKeys (synthesized (pathKeys declared)
          (((PathTemplate.segments path).filter PathTemplate.isParam).map
            PathTemplate.paramName)) := by
    unfold complete pathKeys
    rw [List.filter_append, List.map_append]
  rw [hkeys, List.mem_append, mem_pathKeys_synthesized_iff]
  refine or_congr_right ?_
  constructor
  · rintro ⟨_, hname, rfl⟩
    obtain ⟨segment, hsegment, rfl⟩ := List.mem_map.mp hname
    obtain ⟨hmem, hparam⟩ := List.mem_filter.mp hsegment
    obtain ⟨name, rfl⟩ := PathTemplate.isParam_iff.mp hparam
    exact ⟨_, hmem, name, rfl, by rw [PathTemplate.paramName_braced]⟩
  · rintro ⟨_, hmem, name, rfl, hkey⟩
    refine ⟨name, List.mem_map.mpr ⟨_, List.mem_filter.mpr ⟨hmem, ?_⟩, ?_⟩, hkey⟩
    · exact PathTemplate.isParam_iff.mpr ⟨name, rfl⟩
    · exact PathTemplate.paramName_braced name

end Parameter

-- ====================================================== the parameters of an operation

namespace Operation

/-- The path parameters of an operation have the keys of all that are sent in the path. -/
theorem exists_mem_pathParameters_iff_mem_pathKeys {op : Operation} {key : String} :
    (∃ p ∈ op.pathParameters, p.key = key) ↔ key ∈ Parameter.pathKeys op.parameters := by
  rw [exists_mem_pathParameters_iff]
  unfold Parameter.pathKeys
  rw [List.mem_map]
  rfl

end Operation

namespace Api

variable {a : Api}

/-- The parameters of an operation are the declarations on its path and then its own, each over
those before it, completed by the path. -/
theorem outcome_parameters_eq_ok_iff {path : String} {item node : Value} {ps : List Parameter} :
    (a.parameters path item node).outcome = .ok ps
      ↔ ∃ shared own, (a.readParameters (item.itemsAt "parameters")).outcome = .ok shared
          ∧ (a.readParameters (node.itemsAt "parameters")).outcome = .ok own
          ∧ ps = Parameter.complete path (Parameter.overrideAll (shared ++ own)) := by
  unfold parameters
  simp only [Noted.outcome_bind_eq_ok_iff, Noted.outcome_pure, Except.ok.injEq]
  constructor
  · rintro ⟨shared, hshared, own, hown, rfl⟩
    exact ⟨shared, own, hshared, hown, rfl⟩
  · rintro ⟨shared, own, hshared, hown, rfl⟩
    exact ⟨shared, hshared, own, hown, rfl⟩

end Api

end ApiCommands
