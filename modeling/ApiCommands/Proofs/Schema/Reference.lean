/-
Where references lead.

# Chains

A node leads to a mapping through the references that are followed on the way
(`Chain`). Every reference leads to one node, so a node has at most one chain
(`Chain.unique`), and a reference on a chain leads to its end by itself
(`Chain.leads_of_mem`). So no reference is on a chain twice: what is behind it
would be as long as a part of itself (`Chain.nodup`).

# Fresh references

A walk follows fresh references only. The references of a part of a node are
references of that node, and what a reference leads to is a part of the document
(`references_subset_of_resolve`). So a walk that starts with all references
finds those on a chain fresh, unless it has been there already
(`Chain.subset_references`), and then the end of the chain is what it comes to
(`derefWith_of_chain`).
-/
import ApiCommands.Proofs.Document.Entries
import ApiCommands.Proofs.Outcome.Note
import ApiCommands.Proofs.Schema.Pointer
import ApiCommands.Schema.Kind
import Mathlib.Data.List.Basic

namespace ApiCommands

-- ====================================================== references of parts

namespace Value

/-- The references of an entry: itself, if it is one, and those in its value. -/
theorem mem_entryReferences_cons {k : Scalar} {v : Value} {rest : Entries} {ref : String} :
    ref ∈ entryReferences ((k, v) :: rest)
      ↔ (k = .text "$ref" ∧ v = .text ref) ∨ ref ∈ v.references ∨ ref ∈ entryReferences rest := by
  rw [entryReferences.eq_def]
  dsimp only
  rw [List.mem_append, List.mem_append, or_assoc]
  refine or_congr_left ?_
  split
  · simp [eq_comm]
  · next hother =>
    simp only [List.not_mem_nil, false_iff]
    exact fun ⟨hk, hv⟩ => hother ref hk hv

/-- The references of a value under a key are references of its mapping. -/
theorem references_subset_of_find? {key : Scalar} {entries : Entries} {v : Value}
    (h : Entries.find? key entries = some v) : v.references ⊆ entryReferences entries := by
  induction entries with
  | nil => cases h
  | cons e rest ih =>
      obtain ⟨k, w⟩ := e
      intro ref href
      rw [mem_entryReferences_cons]
      rw [Entries.find?] at h
      split at h
      · obtain rfl := Option.some.inj h
        exact Or.inr (Or.inl href)
      · exact Or.inr (Or.inr (ih h href))

theorem references_subset_of_get? {name : String} {node v : Value} (h : node.get? name = some v) :
    v.references ⊆ node.references := by
  cases node with
  | map entries =>
      rw [references]
      exact references_subset_of_find? h
  | scalar s => cases h
  | list items => cases h

/-- The references of an item are references of its list. -/
theorem references_subset_of_mem {items : List Value} {v : Value} (h : v ∈ items) :
    v.references ⊆ itemReferences items := by
  induction items with
  | nil => cases h
  | cons w rest ih =>
      rw [itemReferences]
      rcases List.mem_cons.mp h with rfl | hrest
      · exact List.subset_append_left _ _
      · exact List.Subset.trans (ih hrest) (List.subset_append_right _ _)

/-- What is found as parts stands under `allOf`. -/
theorem get?_of_parts? {schema : Value} {parts : List Value} (h : schema.parts? = some parts) :
    schema.get? "allOf" = some (.list parts) := by
  unfold parts? at h
  split at h
  · next heq =>
    rw [heq, Option.some.inj h]
  · cases h

/-- The references of a part are references of the schema. -/
theorem references_subset_of_part {schema part : Value} {parts : List Value}
    (h : schema.parts? = some parts) (hpart : part ∈ parts) :
    part.references ⊆ schema.references := by
  have hlist : (list parts).references = itemReferences parts := by rw [references]
  have hitems : itemReferences parts ⊆ schema.references := by
    rw [← hlist]
    exact references_subset_of_get? (get?_of_parts? h)
  exact List.Subset.trans (references_subset_of_mem hpart) hitems

/-- The reference of a node is among its references. -/
theorem mem_references_of_ref? {node : Value} {ref : String} (h : node.ref? = some ref) :
    ref ∈ node.references := by
  have hget : node.get? "$ref" = some (.text ref) := by
    unfold ref? text? at h
    split at h
    · next heq => rw [heq, Option.some.inj h]
    · cases h
  cases node with
  | scalar s => cases hget
  | list items => cases hget
  | map entries =>
      rw [references]
      have hfind : Entries.find? (.text "$ref") entries = some (.text ref) := hget
      clear h hget
      induction entries with
      | nil => cases hfind
      | cons e rest ih =>
          obtain ⟨k, w⟩ := e
          rw [Entries.find?] at hfind
          rw [mem_entryReferences_cons]
          split at hfind
          · next hkey =>
            exact Or.inl ⟨Scalar.sameKey_text_iff.mp hkey, Option.some.inj hfind⟩
          · exact Or.inr (Or.inr (ih hfind))

/-- Nodes with a reference are mappings. -/
theorem isMap_of_ref? {node : Value} {ref : String} (h : node.ref? = some ref) :
    node.isMap = true := by
  cases node with
  | map entries => rfl
  | scalar s => cases h
  | list items => cases h

/-- The references of a part are references of the node. -/
theorem references_subset_of_part? {move : Pointer.Move} {node part : Value}
    (h : move.part? node = some part) : part.references ⊆ node.references := by
  obtain ⟨name, entries, -, rfl, hfind⟩ | ⟨i, items, -, rfl, hitem⟩ := Pointer.Move.cases_of_part? h
  · rw [references]
    exact references_subset_of_find? hfind
  · rw [references]
    exact references_subset_of_mem (List.mem_of_getElem? hitem)

end Value

namespace Api

variable {a : Api} {node s t : Value} {ref : String} {refs fresh : List String}

-- ====================================================== references of the document

theorem mem_references_iff : ref ∈ a.references ↔ ref ∈ a.document.references := by
  rw [a.references_eq, List.mem_eraseDups]

/-- What a reference comes to where its pointer does, with a note if that is nothing. -/
def ofPointer (ref : String) : Except Fault (Option Value) → Noted (Option Value)
  | .error fault => Noted.fail (.fault fault)
  | .ok (some node) => pure (some node)
  | .ok none => do
    Noted.note (.danglingReference ref)
    return none

theorem outcome_ofPointer (ref : String) (found : Except Fault (Option Value)) :
    (ofPointer ref found).outcome = found.mapError Error.fault := by
  cases found with
  | error fault => rfl
  | ok found => cases found <;> rfl

theorem ofPointer_eq_pure_iff {found : Except Fault (Option Value)} :
    ofPointer ref found = pure (some node) ↔ found = .ok (some node) := by
  constructor
  · intro h
    have houtcome := congrArg Noted.outcome h
    rw [outcome_ofPointer] at houtcome
    cases found with
    | error fault => cases houtcome
    | ok found => exact congrArg Except.ok (Except.ok.inj houtcome)
  · rintro rfl
    rfl

/-- A reference into the document leads where its pointer does. -/
theorem resolve_internal {written : List Char} (h : ref.toList = '#' :: '/' :: written) :
    a.resolve ref = ofPointer ref (Pointer.follow (Pointer.segments written) a.document) := by
  have hdrop : Text.dropPrefix? ['#', '/'] ref.toList = some written :=
    Text.dropPrefix?_eq_some_iff.mpr h
  unfold resolve ofPointer
  split
  · next hnone =>
    rw [hdrop] at hnone
    cases hnone
  · next found hfound =>
    obtain rfl := Option.some.inj (hdrop.symm.trans hfound)
    rfl

/-- Any other leads nowhere. -/
theorem resolve_external (h : ∀ written, ref.toList ≠ '#' :: '/' :: written) :
    a.resolve ref = (do
      Noted.note (.externalReference ref)
      return none) := by
  have hdrop : Text.dropPrefix? ['#', '/'] ref.toList = none :=
    Option.eq_none_iff_forall_ne_some.mpr fun written hwritten =>
      h written (Text.dropPrefix?_eq_some_iff.mp hwritten)
  unfold resolve
  rw [hdrop]

/-- What a reference leads to is a place of the document. -/
theorem exists_place_of_resolve {target : Value}
    (h : (a.resolve ref).outcome = .ok (some target)) :
    ∃ path, Pointer.target? path a.document = some target := by
  by_cases href : ∃ written, ref.toList = '#' :: '/' :: written
  · obtain ⟨written, hwritten⟩ := href
    rw [resolve_internal hwritten, outcome_ofPointer] at h
    cases hfollow : Pointer.follow (Pointer.segments written) a.document with
    | error fault =>
        rw [hfollow] at h
        cases h
    | ok found =>
        rw [hfollow] at h
        obtain rfl := Except.ok.inj h
        exact Pointer.exists_target?_of_follow hfollow
  · rw [resolve_external (not_exists.mp href)] at h
    cases h

/-- What a reference leads to has references of the document only. -/
theorem references_subset_of_resolve {target : Value}
    (h : (a.resolve ref).outcome = .ok (some target)) : target.references ⊆ a.references := by
  obtain ⟨path, hplace⟩ := exists_place_of_resolve h
  refine Pointer.target?_preserves (P := fun v => v.references ⊆ a.references) ?_ hplace ?_
  · exact fun _ _ _ hpart houter =>
      List.Subset.trans (Value.references_subset_of_part? hpart) houter
  · exact fun _ hother => mem_references_iff.mpr hother

/-- The reference points into the document, and it comes to a list at a segment that looks like
digits and is no numeral. -/
def Misreads (a : Api) (ref : String) : Prop :=
  ∃ written, ref.toList = '#' :: '/' :: written
    ∧ Pointer.Stops (Pointer.segments written) a.document

/-- What is written in a reference is misread where its pointer stops. -/
theorem misreads_iff {written : List Char} (h : ref.toList = '#' :: '/' :: written) :
    a.Misreads ref ↔ Pointer.Stops (Pointer.segments written) a.document := by
  unfold Misreads
  simp only [h, List.cons.injEq, true_and, exists_eq_left']

/-- A reference fails to lead to a node or to nothing only by being misread. -/
theorem resolve_eq_error_iff {e : Error} :
    (a.resolve ref).outcome = .error e ↔ e = .fault .badNumeral ∧ a.Misreads ref := by
  by_cases href : ∃ written, ref.toList = '#' :: '/' :: written
  · obtain ⟨written, hwritten⟩ := href
    rw [resolve_internal hwritten, outcome_ofPointer, misreads_iff hwritten]
    cases hfollow : Pointer.follow (Pointer.segments written) a.document with
    | error fault =>
        obtain ⟨rfl, hstops⟩ := Pointer.follow_eq_error_iff.mp hfollow
        exact ⟨fun h => ⟨(Except.error.inj h).symm, hstops⟩,
          fun h => congrArg Except.error h.1.symm⟩
    | ok found =>
        refine iff_of_false (fun h => by cases h) fun ⟨_, hstops⟩ => ?_
        have hfault := Pointer.follow_eq_error_iff.mpr ⟨rfl, hstops⟩
        rw [hfollow] at hfault
        cases hfault
  · rw [resolve_external (not_exists.mp href)]
    exact iff_of_false (fun h => by cases h) fun ⟨_, written, hwritten, _⟩ => href ⟨written, hwritten⟩

/-- Fresh are the references of the node and of the document, but for those seen. -/
theorem mem_fresh_iff {seen : List String} :
    ref ∈ a.fresh seen node ↔ (ref ∈ node.references ∨ ref ∈ a.references) ∧ ref ∉ seen := by
  unfold fresh
  rw [List.mem_filter, List.mem_append, List.mem_eraseDups, List.mem_filter]
  by_cases hmem : ref ∈ a.references <;> simp [hmem]

/-- At the start all references of the document are fresh. -/
theorem references_subset_fresh (a : Api) (node : Value) : a.references ⊆ a.fresh [] node :=
  fun _ href => mem_fresh_iff.mpr ⟨Or.inr href, List.not_mem_nil⟩

/-- So are those of the node. -/
theorem node_references_subset_fresh (a : Api) (node : Value) :
    node.references ⊆ a.fresh [] node :=
  fun _ href => mem_fresh_iff.mpr ⟨Or.inl href, List.not_mem_nil⟩

-- ====================================================== chains

/-- The node leads to the mapping `s` through references: it is that mapping, or its reference
leads to a node that does. -/
inductive Chain (a : Api) : Value → List String → Value → Prop
  | here {s : Value} (href : s.ref? = none) (hmap : s.isMap = true) : Chain a s [] s
  | follow {node target s : Value} {ref : String} {refs : List String}
      (href : node.ref? = some ref) (hresolve : (a.resolve ref).outcome = .ok (some target))
      (h : Chain a target refs s) : Chain a node (ref :: refs) s

/-- The node leads to the mapping. -/
def Leads (a : Api) (node s : Value) : Prop := ∃ refs, a.Chain node refs s

/-- The reference leads to the mapping. -/
def RefLeads (a : Api) (ref : String) (s : Value) : Prop :=
  ∃ target, (a.resolve ref).outcome = .ok (some target) ∧ a.Leads target s

namespace Chain

/-- A chain ends in a mapping without a reference. -/
theorem end_spec (h : a.Chain node refs s) : s.ref? = none ∧ s.isMap = true := by
  induction h with
  | here href hmap => exact ⟨href, hmap⟩
  | follow _ _ _ ih => exact ih

/-- What has a chain is a mapping. -/
theorem isMap (h : a.Chain node refs s) : node.isMap = true := by
  cases h with
  | here _ hmap => exact hmap
  | follow href => exact Value.isMap_of_ref? href

/-- A node has at most one chain. -/
theorem unique (h : a.Chain node refs s) {refs' : List String} (h' : a.Chain node refs' t) :
    refs = refs' ∧ s = t := by
  induction h generalizing refs' with
  | here href _ =>
      cases h' with
      | here => exact ⟨rfl, rfl⟩
      | follow href' => rw [href] at href'; cases href'
  | follow href hresolve _ ih =>
      cases h' with
      | here href' => rw [href] at href'; cases href'
      | follow href' hresolve' h' =>
          obtain rfl := Option.some.inj (href.symm.trans href')
          obtain rfl := Option.some.inj (Except.ok.inj (hresolve.symm.trans hresolve'))
          obtain ⟨rfl, rfl⟩ := ih h'
          exact ⟨rfl, rfl⟩

/-- Behind every reference of a chain stands the rest of it. -/
theorem exists_of_mem (h : a.Chain node refs s) (href : ref ∈ refs) :
    ∃ front rest target, refs = front ++ ref :: rest
      ∧ (a.resolve ref).outcome = .ok (some target) ∧ a.Chain target rest s := by
  induction h with
  | here => cases href
  | @follow node target s first refs _ hresolve h ih =>
      rcases List.mem_cons.mp href with rfl | hrest
      · exact ⟨[], refs, target, rfl, hresolve, h⟩
      · obtain ⟨front, rest, target', rfl, hresolve', h'⟩ := ih hrest
        exact ⟨first :: front, rest, target', rfl, hresolve', h'⟩

/-- A reference on a chain leads to its end. -/
theorem refLeads_of_mem (h : a.Chain node refs s) (href : ref ∈ refs) : a.RefLeads ref s := by
  obtain ⟨_, rest, target, -, hresolve, htarget⟩ := h.exists_of_mem href
  exact ⟨target, hresolve, rest, htarget⟩

/-- No reference is on a chain twice. -/
theorem nodup (h : a.Chain node refs s) : refs.Nodup := by
  induction h with
  | here => exact List.nodup_nil
  | @follow node target s first refs _ hresolve h ih =>
      refine List.nodup_cons.mpr ⟨fun hmem => ?_, ih⟩
      -- behind its second place the chain would be the same again, but shorter
      obtain ⟨front, rest, target', hrefs, hresolve', h'⟩ := h.exists_of_mem hmem
      obtain rfl := Option.some.inj (Except.ok.inj (hresolve.symm.trans hresolve'))
      have hlength := congrArg List.length hrefs
      rw [(h.unique h').1, List.length_append, List.length_cons] at hlength
      omega

/-- All references on a chain, and those of its end, are references of the node or the document. -/
theorem subset_references (h : a.Chain node refs s) {known : List String}
    (hnode : node.references ⊆ known) (hdocument : a.references ⊆ known) :
    refs ⊆ known ∧ s.references ⊆ known := by
  induction h with
  | here => exact ⟨List.nil_subset _, hnode⟩
  | follow href hresolve _ ih =>
      obtain ⟨hrefs, hs⟩ := ih (List.Subset.trans (references_subset_of_resolve hresolve) hdocument)
      exact ⟨List.cons_subset.mpr ⟨hnode (Value.mem_references_of_ref? href), hrefs⟩, hs⟩

end Chain

/-- A reference leads to one mapping at most. -/
theorem RefLeads.unique (h : a.RefLeads ref s) (h' : a.RefLeads ref t) : s = t := by
  obtain ⟨target, hresolve, refs, hchain⟩ := h
  obtain ⟨target', hresolve', refs', hchain'⟩ := h'
  obtain rfl := Option.some.inj (Except.ok.inj (hresolve.symm.trans hresolve'))
  exact (hchain.unique hchain').2

/-- So does a node. -/
theorem Leads.unique (h : a.Leads node s) (h' : a.Leads node t) : s = t := by
  obtain ⟨refs, hchain⟩ := h
  obtain ⟨refs', hchain'⟩ := h'
  exact (hchain.unique hchain').2

/-- The reference of a node leads where the node does. -/
theorem Leads.refLeads (h : a.Leads node s) (href : node.ref? = some ref) : a.RefLeads ref s := by
  obtain ⟨refs, hchain⟩ := h
  cases hchain with
  | here hnone =>
      rw [hnone] at href
      cases href
  | follow href' hresolve hrest =>
      obtain rfl := Option.some.inj (href.symm.trans href')
      exact ⟨_, hresolve, _, hrest⟩

/-- A node leads to a mapping without a reference. -/
theorem Leads.end_spec (h : a.Leads node s) : s.ref? = none ∧ s.isMap = true :=
  h.elim fun _ hchain => hchain.end_spec

/-- The references of what a node leads to are found among known ones again. -/
theorem Leads.references_subset (h : a.Leads node s) {known : List String}
    (hnode : node.references ⊆ known) (hdocument : a.references ⊆ known) : s.references ⊆ known :=
  h.elim fun _ hchain => (hchain.subset_references hnode hdocument).2

/-- Striking out the first reference of a chain leaves the others. -/
theorem Chain.subset_erase {first : String} (h : a.Chain node (first :: refs) s)
    (hfresh : refs ⊆ fresh) : refs ⊆ fresh.erase first := by
  intro ref hmem
  have hne : ref ≠ first := by
    rintro rfl
    exact (List.nodup_cons.mp h.nodup).1 hmem
  exact (List.mem_erase_of_ne hne).mpr (hfresh hmem)

-- ====================================================== following a chain

/-- Where all references on its chain are fresh, a node is followed to the end. -/
theorem derefWith_of_chain (h : a.Chain node refs s) (hfresh : refs ⊆ fresh) :
    (a.derefWith fresh node).outcome = .ok (some s) := by
  induction h generalizing fresh with
  | here href hmap =>
      rw [derefWith, href]
      simp [hmap]
  | @follow node target s first refs href hresolve h ih =>
      obtain ⟨hfirst, hrefs⟩ := List.cons_subset.mp hfresh
      rw [derefWith, href]
      dsimp only
      rw [dif_pos hfirst, Noted.outcome_bind, hresolve]
      exact ih ((Chain.follow href hresolve h).subset_erase hrefs)

/-- What following comes to is led to. -/
theorem leads_of_derefWith {fresh : List String} {node : Value}
    (h : (a.derefWith fresh node).outcome = .ok (some s)) : a.Leads node s := by
  rw [derefWith] at h
  split at h
  · next href =>
    by_cases hmap : node.isMap = true
    · rw [if_pos hmap] at h
      obtain rfl := Option.some.inj (Except.ok.inj h)
      exact ⟨[], .here href hmap⟩
    · rw [if_neg hmap] at h
      cases h
  · next ref href =>
    split at h
    · next hfresh =>
      obtain ⟨found, hresolve, hrest⟩ := Noted.outcome_bind_eq_ok_iff.mp h
      cases found with
      | none => cases hrest
      | some target =>
          have := length_erase_lt hfresh
          obtain ⟨refs, hchain⟩ := leads_of_derefWith hrest
          exact ⟨ref :: refs, .follow href hresolve hchain⟩
    · cases h
termination_by fresh.length

/-- Following fails only by a numeral in a reference. -/
theorem eq_badNumeral_of_derefWith {fresh : List String} {node : Value} {e : Error}
    (h : (a.derefWith fresh node).outcome = .error e) : e = .fault .badNumeral := by
  rw [derefWith] at h
  split at h
  · cases h
  · next ref href =>
    split at h
    · next hfresh =>
      rcases Noted.outcome_bind_eq_error_iff.mp h with hresolve | ⟨found, -, hrest⟩
      · exact (resolve_eq_error_iff.mp hresolve).1
      · cases found with
        | none => cases hrest
        | some target =>
            have := length_erase_lt hfresh
            exact eq_badNumeral_of_derefWith hrest
    · cases h
termination_by fresh.length

/-- The mapping that a node is followed to is the one it leads to. -/
theorem outcome_deref_eq_some_iff :
    (a.deref node).outcome = .ok (some s) ↔ a.Leads node s := by
  constructor
  · exact leads_of_derefWith
  · rintro ⟨refs, hchain⟩
    exact derefWith_of_chain hchain (hchain.subset_references (a.node_references_subset_fresh _)
      (a.references_subset_fresh _)).1

/-- The references can be read: each leads to a node or to nothing. -/
def Readable (a : Api) (refs : List String) : Prop :=
  ∀ ref ∈ refs, ∃ found, (a.resolve ref).outcome = .ok found

theorem Readable.erase (h : a.Readable fresh) (ref : String) : a.Readable (fresh.erase ref) :=
  fun other hother => h other (List.mem_of_mem_erase hother)

/-- Where fresh references can be read, following gives an answer. -/
theorem exists_outcome_derefWith {fresh : List String} (h : a.Readable fresh) (node : Value) :
    ∃ found, (a.derefWith fresh node).outcome = .ok found := by
  rw [derefWith]
  split
  · exact ⟨_, rfl⟩
  · next ref href =>
    split
    · next hfresh =>
      obtain ⟨found, hresolve⟩ := h ref hfresh
      rw [Noted.outcome_bind, hresolve]
      cases found with
      | none => exact ⟨none, rfl⟩
      | some target =>
          have := length_erase_lt hfresh
          exact exists_outcome_derefWith (h.erase ref) target
    · exact ⟨none, rfl⟩
termination_by fresh.length

/-- A node that leads nowhere is followed to nothing. -/
theorem derefWith_of_not_leads (h : ∀ s, ¬a.Leads node s) (hfresh : a.Readable fresh) :
    (a.derefWith fresh node).outcome = .ok none := by
  obtain ⟨found, hfound⟩ := exists_outcome_derefWith hfresh node
  cases found with
  | none => exact hfound
  | some s => exact absurd (leads_of_derefWith hfound) (h s)

end Api

end ApiCommands
