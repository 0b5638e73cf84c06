/-
Visits: a walk through schemas, one step after the other.

# The measure

A walk stands at a node, and it remembers the references it has followed on the
way (`Visit`). A step follows a reference that has not been seen, to somewhere
in the document, or goes to a value inside the node with the same references
seen (`Api.Descends`). The first leaves fewer references that are fresh, the
second as many of them and a smaller node. So the number of fresh references
and then the size of the node decrease with every step (`Descends.measure_lt`),
whatever circles the references run in; and on the way from one visit to another
no reference is followed twice (`exists_followed`).

# How deep it goes

Nodes that references lead to are no larger than the document. So the measure
is below one number for all visits (`rank`), and a walk is no deeper than that
(`Api.depth`).

# Fresh and seen

The readers of schemas carry the list of fresh references in place of those
seen. A list goes with a visit if it has the references that are not seen, each
once (`Api.Tracks`).
-/
import ApiCommands.Proofs.Naming.Grouping
import ApiCommands.Proofs.Outcome.Note
import ApiCommands.Proofs.Schema.Reference
import ApiCommands.Schema.BodyFields
import Mathlib.Data.List.Perm.Subperm
import Mathlib.Logic.Relation

namespace ApiCommands

/-- Where a walk stands: the references it has followed so far, and the node it looks at. -/
structure Visit where
  seen : List String
  node : Value

-- ====================================================== values inside a value

namespace Value

variable {inner outer schema : Value} {name : String}

/-- The value stands inside the other: it is smaller, and its references are references of that. -/
structure Inside (inner outer : Value) : Prop where
  references : inner.references ⊆ outer.references
  size : sizeOf inner < sizeOf outer

theorem inside_of_get? (h : outer.get? name = some inner) : inner.Inside outer :=
  ⟨references_subset_of_get? h, sizeOf_get?_lt h⟩

/-- A move leads to a value inside. -/
theorem inside_of_part? {move : Pointer.Move} (h : move.part? outer = some inner) :
    inner.Inside outer := by
  refine ⟨references_subset_of_part? h, ?_⟩
  obtain ⟨name, entries, -, rfl, hfind⟩ | ⟨i, items, -, rfl, hitem⟩ := Pointer.Move.cases_of_part? h
  · have hsize := sizeOf_find?_lt hfind
    simp only [map.sizeOf_spec]
    omega
  · have hsize := List.sizeOf_lt_of_mem (List.mem_of_getElem? hitem)
    simp only [list.sizeOf_spec]
    omega

theorem inside_of_part {parts : List Value} (h : schema.parts? = some parts)
    (hpart : inner ∈ parts) : inner.Inside schema where
  references := references_subset_of_part h hpart
  size := Nat.lt_trans (List.sizeOf_lt_of_mem hpart) (sizeOf_parts?_lt h)

/-- The references of the value of an entry are references of its mapping. -/
theorem references_subset_of_entry {entries : Entries} {key : Scalar}
    (h : (key, inner) ∈ entries) : inner.references ⊆ entryReferences entries := by
  induction entries with
  | nil => cases h
  | cons e rest ih =>
      intro ref href
      rw [mem_entryReferences_cons]
      rcases List.mem_cons.mp h with rfl | hrest
      · exact Or.inr (Or.inl href)
      · exact Or.inr (Or.inr (ih hrest href))

/-- The schemas of properties stand inside. -/
theorem inside_of_property {properties : Entries} {key : Scalar}
    (h : schema.properties? = some properties) (hproperty : (key, inner) ∈ properties) :
    inner.Inside schema := by
  have hget : schema.get? "properties" = some (.map properties) := by
    unfold properties? at h
    split at h
    · next heq => rw [heq, Option.some.inj h]
    · cases h
  have hproperties := inside_of_get? hget
  constructor
  · refine List.Subset.trans (references_subset_of_entry hproperty) ?_
    have hreferences := hproperties.references
    rwa [references] at hreferences
  · have hentry := List.sizeOf_lt_of_mem hproperty
    have hsize := hproperties.size
    simp only [map.sizeOf_spec, Prod.mk.sizeOf_spec] at hentry hsize
    omega

/-- No value is smaller than nothing. -/
theorem sizeOf_null_le (v : Value) : sizeOf Value.null ≤ sizeOf v := by
  cases v with
  | scalar s => cases s <;> simp [Value.null] <;> omega
  | list items => cases items <;> simp [Value.null]; omega
  | map entries => cases entries <;> simp [Value.null]; omega

end Value

namespace Api

variable {a : Api} {v w : Visit} {target : Value} {ref : String} {fresh : List String}

-- ====================================================== values of the document

/-- The value is no larger than the document and has references of the document only. -/
structure Holds (a : Api) (target : Value) : Prop where
  references : target.references ⊆ a.references
  size : sizeOf target ≤ sizeOf a.document

/-- The parts of a value that the document holds are held as well. -/
theorem Holds.of_inside {inner : Value} (h : a.Holds target) (hinner : inner.Inside target) :
    a.Holds inner where
  references := List.Subset.trans hinner.references h.references
  size := Nat.le_trans (Nat.le_of_lt hinner.size) h.size

theorem holds_document (a : Api) : a.Holds a.document where
  references := fun _ href => mem_references_iff.mpr href
  size := Nat.le_refl _

/-- References lead to what the document holds. -/
theorem holds_of_resolve (h : (a.resolve ref).outcome = .ok (some target)) : a.Holds target := by
  obtain ⟨path, hplace⟩ := exists_place_of_resolve h
  refine Pointer.target?_preserves (P := a.Holds) ?_ hplace a.holds_document
  exact fun _ _ _ hpart houter => houter.of_inside (Value.inside_of_part? hpart)

/-- The schemas stand in the document. -/
theorem holds_of_schema {key : Scalar} (h : a.schemas.find? key = some target) :
    a.Holds target := by
  unfold schemas at h
  split at h
  · next components hcomponents =>
    split at h
    · next entries hentries =>
      have hschemas := (a.holds_document.of_inside (Value.inside_of_get? hcomponents)).of_inside
        (Value.inside_of_get? hentries)
      refine hschemas.of_inside ⟨?_, ?_⟩
      · rw [Value.references]
        exact Value.references_subset_of_find? h
      · have hsize := Value.sizeOf_find?_lt h
        simp only [Value.map.sizeOf_spec]
        omega
    · cases h
  · cases h

-- ====================================================== steps

/-- A step of a walk: after a reference that has not been seen, or to a value inside the node. -/
inductive Descends (a : Api) (v : Visit) : Visit → Prop
  | follow {ref : String} {target : Value} (href : v.node.ref? = some ref) (hunseen : ref ∉ v.seen)
      (htarget : a.Holds target) : Descends a v ⟨ref :: v.seen, target⟩
  | inside {inner : Value} (h : inner.Inside v.node) : Descends a v ⟨v.seen, inner⟩

/-- Every reference is fresh once. -/
theorem nodup_fresh (a : Api) (seen : List String) (node : Value) : (a.fresh seen node).Nodup := by
  unfold fresh
  refine (List.Nodup.append (nodup_eraseDups _) ?_ ?_).filter _
  · rw [a.references_eq]
    exact nodup_eraseDups _
  · intro ref hforeign hdocument
    have hother := (List.mem_filter.mp (List.mem_eraseDups.mp hforeign)).2
    simp [hdocument] at hother

namespace Descends

/-- A step sees at most one reference more, which is that of the node and has not been seen. -/
theorem seen_eq (h : a.Descends v w) :
    w.seen = v.seen ∨ ∃ ref, v.node.ref? = some ref ∧ ref ∉ v.seen ∧ w.seen = ref :: v.seen := by
  cases h with
  | follow href hunseen _ => exact Or.inr ⟨_, href, hunseen, rfl⟩
  | inside _ => exact Or.inl rfl

/-- After a reference fewer are fresh; inside a node there are no more, and the node is smaller. -/
theorem lt_or_le (h : a.Descends v w) :
    ((a.fresh w.seen w.node).length < (a.fresh v.seen v.node).length ∧ a.Holds w.node)
      ∨ ((a.fresh w.seen w.node).length ≤ (a.fresh v.seen v.node).length
        ∧ sizeOf w.node < sizeOf v.node) := by
  cases h with
  | @follow ref target href hunseen htarget =>
      refine Or.inl ⟨?_, htarget⟩
      have hfresh : ref ∈ a.fresh v.seen v.node :=
        mem_fresh_iff.mpr ⟨Or.inl (Value.mem_references_of_ref? href), hunseen⟩
      have hsubset : a.fresh (ref :: v.seen) target ⊆ (a.fresh v.seen v.node).erase ref := by
        intro other hother
        obtain ⟨hmem, hnew⟩ := mem_fresh_iff.mp hother
        obtain ⟨hne, hseen⟩ := not_or.mp (List.mem_cons.not.mp hnew)
        exact (List.mem_erase_of_ne hne).mpr
          (mem_fresh_iff.mpr ⟨Or.inr (hmem.elim (htarget.references ·) id), hseen⟩)
      exact Nat.lt_of_le_of_lt ((nodup_fresh a _ _).subperm hsubset).length_le
        (length_erase_lt hfresh)
  | inside h =>
      refine Or.inr ⟨((nodup_fresh a _ _).subperm fun other hother => ?_).length_le, h.size⟩
      obtain ⟨hmem, hseen⟩ := mem_fresh_iff.mp hother
      exact mem_fresh_iff.mpr ⟨hmem.imp_left (h.references ·), hseen⟩

/-- With every step the number of fresh references and the size of the node decrease, the number
first. -/
theorem measure_lt (h : a.Descends v w) :
    Prod.Lex (· < ·) (· < ·) ((a.fresh w.seen w.node).length, sizeOf w.node)
      ((a.fresh v.seen v.node).length, sizeOf v.node) := by
  rcases h.lt_or_le with ⟨hfewer, -⟩ | ⟨hsame, hsmaller⟩
  · exact .left _ _ hfewer
  · rcases Nat.lt_or_eq_of_le hsame with hfewer | heq
    · exact .left _ _ hfewer
    · rw [heq]
      exact .right _ hsmaller

end Descends

/-- On the way from one visit to another references are followed that had not been seen, and none
of them twice. -/
theorem exists_followed (h : Relation.ReflTransGen a.Descends v w) :
    ∃ followed, w.seen = followed ++ v.seen ∧ followed.Nodup ∧ ∀ ref ∈ followed, ref ∉ v.seen := by
  induction h with
  | refl => exact ⟨[], rfl, List.nodup_nil, List.forall_mem_nil _⟩
  | tail _ hstep ih =>
      obtain ⟨followed, hseen, hnodup, hnew⟩ := ih
      rcases hstep.seen_eq with hsame | ⟨ref, -, hunseen, hnext⟩
      · exact ⟨followed, hsame.trans hseen, hnodup, hnew⟩
      · rw [hseen] at hunseen hnext
        obtain ⟨hfollowed, hbefore⟩ := not_or.mp (List.mem_append.not.mp hunseen)
        exact ⟨ref :: followed, hnext, List.nodup_cons.mpr ⟨hfollowed, hnodup⟩,
          List.forall_mem_cons.mpr ⟨hbefore, hnew⟩⟩

-- ====================================================== how deep it goes

/-- The measure as one number, for nodes of at most the given size. -/
noncomputable def rank (a : Api) (size : Nat) (v : Visit) : Nat :=
  (a.fresh v.seen v.node).length * (size + 1) + sizeOf v.node

/-- The number of steps that no walk from here takes. -/
noncomputable def depth (a : Api) (v : Visit) : Nat :=
  a.rank (max (sizeOf a.document) (sizeOf v.node)) v + 1

/-- Every step is to a lower rank, and sizes stay below the bound. -/
theorem Descends.rank_lt {size : Nat} (h : a.Descends v w) (hdocument : sizeOf a.document ≤ size)
    (hnode : sizeOf v.node ≤ size) : a.rank size w < a.rank size v ∧ sizeOf w.node ≤ size := by
  unfold rank
  rcases h.lt_or_le with ⟨hfewer, hholds⟩ | ⟨hsame, hsmaller⟩
  · have hsize := Nat.le_trans hholds.size hdocument
    have hmul := Nat.mul_le_mul_right (size + 1) (Nat.succ_le_of_lt hfewer)
    rw [Nat.succ_mul] at hmul
    exact ⟨by omega, hsize⟩
  · have hmul := Nat.mul_le_mul_right (size + 1) hsame
    exact ⟨by omega, by omega⟩

-- ====================================================== fresh and seen

/-- The list has the references that a walk may still follow from the visit, each once. -/
structure Tracks (a : Api) (fresh : List String) (v : Visit) : Prop where
  nodup : fresh.Nodup
  mem_iff : ∀ ref, ref ∈ v.node.references ∨ ref ∈ a.references → (ref ∈ fresh ↔ ref ∉ v.seen)

namespace Tracks

theorem start (a : Api) (v : Visit) : a.Tracks (a.fresh v.seen v.node) v where
  nodup := nodup_fresh a _ _
  mem_iff := fun _ href => mem_fresh_iff.trans (and_iff_right href)

/-- The reference of the node is fresh if it has not been seen. -/
theorem mem_iff_of_ref? (h : a.Tracks fresh v) (href : v.node.ref? = some ref) :
    ref ∈ fresh ↔ ref ∉ v.seen :=
  h.mem_iff ref (Or.inl (Value.mem_references_of_ref? href))

/-- Behind a reference it is struck out. -/
theorem follow (h : a.Tracks fresh v) (ref : String) (htarget : a.Holds target) :
    a.Tracks (fresh.erase ref) ⟨ref :: v.seen, target⟩ where
  nodup := h.nodup.erase ref
  mem_iff := fun other hother => by
    have hbefore := h.mem_iff other (Or.inr (hother.elim (htarget.references ·) id))
    rw [h.nodup.mem_erase_iff, hbefore, List.mem_cons, not_or]

/-- Inside a node the same references are fresh. -/
theorem inside (h : a.Tracks fresh v) {inner : Value} (hinner : inner.Inside v.node) :
    a.Tracks fresh ⟨v.seen, inner⟩ where
  nodup := h.nodup
  mem_iff := fun ref href => h.mem_iff ref (href.imp_left (hinner.references ·))

end Tracks

-- ====================================================== following references

/-- One reference is followed: it has not been seen, and it leads to a node. -/
def Follows (a : Api) (v w : Visit) : Prop :=
  ∃ ref target, v.node.ref? = some ref ∧ ref ∉ v.seen
    ∧ (a.resolve ref).outcome = .ok (some target) ∧ w = ⟨ref :: v.seen, target⟩

/-- The reference of the node can be read, unless it has been seen. -/
def ReadableAt (a : Api) (v : Visit) : Prop :=
  ∀ ref, v.node.ref? = some ref → ref ∉ v.seen → ∃ found, (a.resolve ref).outcome = .ok found

/-- All references that are met from the visit on can be read. -/
def ReadableFrom (a : Api) (v : Visit) : Prop :=
  ∀ w, Relation.ReflTransGen a.Follows v w → a.ReadableAt w

/-- One is followed in one way only. -/
theorem Follows.unique {u : Visit} (h : a.Follows v w) (h' : a.Follows v u) : w = u := by
  obtain ⟨ref, target, href, -, hresolve, rfl⟩ := h
  obtain ⟨ref', target', href', -, hresolve', rfl⟩ := h'
  obtain rfl := Option.some.inj (href.symm.trans href')
  obtain rfl := Option.some.inj (Except.ok.inj (hresolve.symm.trans hresolve'))
  rfl

/-- A reference that is followed can be read. -/
theorem Follows.readableAt (h : a.Follows v w) : a.ReadableAt v := by
  obtain ⟨ref, target, href, -, hresolve, -⟩ := h
  intro other hother _
  rw [← Option.some.inj (href.symm.trans hother)]
  exact ⟨some target, hresolve⟩

/-- Where a reference is followed, what can be read is decided behind it. -/
theorem Follows.readableFrom_iff (h : a.Follows v w) : a.ReadableFrom v ↔ a.ReadableFrom w := by
  constructor
  · exact fun hall u hu => hall u (.head h hu)
  · intro hall u hu
    rcases Relation.ReflTransGen.cases_head hu with rfl | ⟨next, hnext, hrest⟩
    · exact h.readableAt
    · rw [h.unique hnext] at hall
      exact hall u hrest

/-- Where nothing is followed, it is decided at the node. -/
theorem readableFrom_iff_readableAt (h : ∀ w, ¬a.Follows v w) :
    a.ReadableFrom v ↔ a.ReadableAt v := by
  constructor
  · exact fun hall => hall v .refl
  · intro hv w hw
    rcases Relation.ReflTransGen.cases_head hw with rfl | ⟨next, hnext, -⟩
    · exact hv
    · exact absurd hnext (h next)

/-- Following gives an answer exactly if the references that are met can be read. -/
theorem exists_outcome_derefWith_iff {fresh : List String} {v : Visit} (h : a.Tracks fresh v) :
    (∃ found, (a.derefWith fresh v.node).outcome = .ok found) ↔ a.ReadableFrom v := by
  rw [derefWith]
  split
  · next href =>
    rw [readableFrom_iff_readableAt]
    · refine iff_of_true ⟨_, rfl⟩ fun ref href' => ?_
      rw [href] at href'
      cases href'
    · rintro w ⟨ref, -, href', -⟩
      rw [href] at href'
      cases href'
  · next ref href =>
    split
    · next hfresh =>
      have hunseen := (h.mem_iff_of_ref? href).mp hfresh
      rw [Noted.outcome_bind]
      cases hresolve : (a.resolve ref).outcome with
      | error e =>
          refine iff_of_false (fun ⟨_, hfound⟩ => by cases hfound) fun hall => ?_
          obtain ⟨found, hfound⟩ := hall v .refl ref href hunseen
          rw [hresolve] at hfound
          cases hfound
      | ok found =>
          cases found with
          | none =>
              have hother : ∀ other, v.node.ref? = some other →
                  (a.resolve other).outcome = .ok none := by
                intro other hother
                rw [← Option.some.inj (href.symm.trans hother), hresolve]
              rw [readableFrom_iff_readableAt]
              · exact iff_of_true ⟨none, rfl⟩ fun other href' _ => ⟨none, hother other href'⟩
              · rintro w ⟨other, target, href', -, hfound, -⟩
                rw [hother other href'] at hfound
                cases hfound
          | some target =>
              have := length_erase_lt hfresh
              have hstep : a.Follows v ⟨ref :: v.seen, target⟩ :=
                ⟨ref, target, href, hunseen, hresolve, rfl⟩
              rw [hstep.readableFrom_iff]
              exact exists_outcome_derefWith_iff (h.follow ref (holds_of_resolve hresolve))
    · next hstale =>
      have hseen : ∀ other, v.node.ref? = some other → other ∈ v.seen := by
        intro other hother
        rw [← Option.some.inj (href.symm.trans hother)]
        by_contra hunseen
        exact hstale ((h.mem_iff_of_ref? href).mpr hunseen)
      rw [readableFrom_iff_readableAt]
      · exact iff_of_true ⟨none, rfl⟩ fun other hother hunseen => absurd (hseen other hother) hunseen
      · rintro w ⟨other, -, hother, hunseen, -⟩
        exact hunseen (hseen other hother)
termination_by fresh.length

/-- It does not matter which list of fresh references goes with the visit. -/
theorem derefWith_eq_of_tracks {fresh fresh' : List String} {v : Visit} (h : a.Tracks fresh v)
    (h' : a.Tracks fresh' v) : a.derefWith fresh v.node = a.derefWith fresh' v.node := by
  rw [derefWith, derefWith]
  split
  · rfl
  · next ref href =>
    have hiff : ref ∈ fresh ↔ ref ∈ fresh' :=
      (h.mem_iff_of_ref? href).trans (h'.mem_iff_of_ref? href).symm
    by_cases hfresh : ref ∈ fresh
    · rw [dif_pos hfresh, dif_pos (hiff.mp hfresh)]
      refine Noted.bind_congr fun found hfound => ?_
      cases found with
      | none => rfl
      | some target =>
          have := length_erase_lt hfresh
          have hholds := holds_of_resolve hfound
          exact derefWith_eq_of_tracks (h.follow ref hholds) (h'.follow ref hholds)
    · rw [dif_neg hfresh, dif_neg (hiff.not.mp hfresh)]
termination_by fresh.length

/-- What a node is followed to is a mapping without a reference. -/
theorem spec_of_outcome_deref {node s : Value} {seen : List String}
    (h : (a.deref node seen).outcome = .ok (some s)) : s.isMap = true ∧ s.ref? = none :=
  (leads_of_derefWith h).end_spec.symm

end Api

end ApiCommands
