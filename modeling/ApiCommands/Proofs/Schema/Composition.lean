/-
Compositions: what a composed schema is made of.

# Going down

A composed schema has the schemas its parts lead to (`Api.HasPart`). Where no
schema on the way down contains itself, the way ends: a walk follows references
that are fresh or goes into a smaller value, and it never meets a reference it
has struck out. Such a reference leads to a schema that the walk is inside of
(`Api.Trail`), so following it again would close a circle
(`Trail.mem_fresh`). That is the induction behind `acc_of_trail`, on the number
of fresh references and then on the size of the schema.

# Contributions

Read flat, a composition is a list of schemas: every part with what it is made of
before it (`Api.Contributes`). The list is determined by the parts
(`Contributes.unique`), and there is one exactly where the way down ends
(`exists_contributes`, `Contributes.grounded`).
-/
import ApiCommands.Proofs.Schema.Reference
import Mathlib.Logic.Relation

namespace ApiCommands

namespace Api

variable {a : Api} {s t : Value} {ref : String} {known fresh : List String}

open Relation (ReflTransGen TransGen)

-- ====================================================== going down

/-- One of the parts of `s` leads to `t`. -/
def HasPart (a : Api) (s t : Value) : Prop :=
  ∃ parts part, s.parts? = some parts ∧ part ∈ parts ∧ a.Leads part t

/-- No schema on the way down from this one contains itself. -/
def Acyclic (a : Api) (schema : Value) : Prop :=
  ∀ s, ReflTransGen a.HasPart schema s → ¬TransGen a.HasPart s s

/-- The way down from this schema ends. -/
def Grounded (a : Api) (schema : Value) : Prop := Acc (fun t s => a.HasPart s t) schema

/-- Where the way down ends, no schema contains itself. -/
theorem Grounded.not_transGen (h : a.Grounded s) : ¬TransGen a.HasPart s s := by
  induction h with
  | intro s _ ih =>
      intro hcycle
      obtain ⟨t, hpart, hback⟩ := TransGen.head'_iff.mp hcycle
      exact ih t hpart (TransGen.tail' hback hpart)

theorem Grounded.of_hasPart (h : a.Grounded s) (hpart : a.HasPart s t) : a.Grounded t :=
  Acc.inv h hpart

/-- What references of a part lead to is found among known references again. -/
theorem references_subset_of_hasPart (hs : s.references ⊆ known) (hdocument : a.references ⊆ known)
    (hpart : a.HasPart s t) : t.references ⊆ known := by
  obtain ⟨parts, part, hparts, hmem, hleads⟩ := hpart
  exact hleads.references_subset
    (List.Subset.trans (Value.references_subset_of_part hparts hmem) hs) hdocument

-- ====================================================== struck-out references

/-- The references that are known and not fresh lead to schemas that this one is inside of. -/
def Trail (a : Api) (known fresh : List String) (s : Value) : Prop :=
  ∀ ref ∈ known, ref ∉ fresh → ∃ t, a.RefLeads ref t ∧ ReflTransGen a.HasPart t s

namespace Trail

/-- At the start all references are fresh. -/
theorem start (known : List String) (s : Value) : a.Trail known known s :=
  fun _ href hstruck => absurd href hstruck

/-- A reference to a part is fresh, unless the schema contains itself. -/
theorem mem_fresh (h : a.Trail known fresh s) (hs : ¬TransGen a.HasPart s s)
    (hpart : a.HasPart s t) (href : a.RefLeads ref t) (hknown : ref ∈ known) : ref ∈ fresh := by
  by_contra hstruck
  obtain ⟨t', ht', hdown⟩ := h ref hknown hstruck
  obtain rfl := href.unique ht'
  exact hs (TransGen.head' hpart hdown)

/-- Going to a part strikes out references to it. -/
theorem diff (h : a.Trail known fresh s) (hpart : a.HasPart s t) {refs : List String}
    (hrefs : ∀ ref ∈ refs, a.RefLeads ref t) : a.Trail known (fresh.diff refs) t := by
  intro ref hknown hstruck
  by_cases hmem : ref ∈ refs
  · exact ⟨t, hrefs ref hmem, .refl⟩
  · have hbefore : ref ∉ fresh := fun hfresh => hstruck (List.mem_diff_of_mem hfresh hmem)
    obtain ⟨t', ht', hdown⟩ := h ref hknown hbefore
    exact ⟨t', ht', hdown.tail hpart⟩

end Trail

/-- The way down ends where no schema on it contains itself. -/
theorem grounded_of_trail {fresh : List String} {s : Value} (hdocument : a.references ⊆ known)
    (hacyclic : a.Acyclic s) (hs : s.references ⊆ known) (h : a.Trail known fresh s) :
    a.Grounded s := by
  refine Acc.intro s fun t hpart => ?_
  have hbelow : a.Acyclic t := fun u hu => hacyclic u (.head hpart hu)
  have ht := references_subset_of_hasPart hs hdocument hpart
  obtain ⟨parts, part, hparts, hmem, refs, hchain⟩ := id hpart
  cases hchain with
  | here =>
      have := List.sizeOf_lt_of_mem hmem
      have := Value.sizeOf_parts?_lt hparts
      have htrail := h.diff hpart (List.forall_mem_nil _)
      exact grounded_of_trail hdocument hbelow ht htrail
  | @follow _ target _ first rest href hresolve hrest =>
      have hleads : a.RefLeads first t := ⟨target, hresolve, rest, hrest⟩
      have hfirst : first ∈ known :=
        hs (Value.references_subset_of_part hparts hmem (Value.mem_references_of_ref? href))
      have hfresh := h.mem_fresh (hacyclic s .refl) hpart hleads hfirst
      have := length_erase_lt hfresh
      have htrail : a.Trail known (fresh.erase first) t := by
        have hdiff := h.diff hpart (List.forall_mem_singleton.mpr hleads)
        rwa [List.diff_cons, List.diff_nil] at hdiff
      exact grounded_of_trail hdocument hbelow ht htrail
termination_by (fresh.length, sizeOf s)

-- ====================================================== contributions

/-- What parts contribute, depth first: what a part leads to, and before it, if it is composed, the
contributions of its own parts. A part that leads nowhere contributes nothing. -/
inductive Contributes (a : Api) : List Value → List Value → Prop
  | nil : Contributes a [] []
  | skip {part : Value} {rest cs : List Value} (hpart : ∀ s, ¬a.Leads part s)
      (h : Contributes a rest cs) : Contributes a (part :: rest) cs
  | plain {part s : Value} {rest cs : List Value} (hpart : a.Leads part s)
      (hparts : s.parts? = none) (h : Contributes a rest cs) :
      Contributes a (part :: rest) (s :: cs)
  | composed {part s : Value} {inner rest ds cs : List Value} (hpart : a.Leads part s)
      (hparts : s.parts? = some inner) (hinner : Contributes a inner ds)
      (h : Contributes a rest cs) : Contributes a (part :: rest) (ds ++ s :: cs)

/-- Parts contribute one list. -/
theorem Contributes.unique {parts cs cs' : List Value} (h : a.Contributes parts cs)
    (h' : a.Contributes parts cs') : cs = cs' := by
  induction h generalizing cs' with
  | nil =>
      cases h'
      rfl
  | skip hpart _ ih =>
      cases h' with
      | skip _ h' => exact ih h'
      | plain hpart' => exact absurd hpart' (hpart _)
      | composed hpart' => exact absurd hpart' (hpart _)
  | plain hpart hparts _ ih =>
      cases h' with
      | skip hpart' => exact absurd hpart (hpart' _)
      | plain hpart' _ h' =>
          rw [hpart.unique hpart', ih h']
      | composed hpart' hparts' =>
          rw [hpart.unique hpart', hparts'] at hparts
          cases hparts
  | composed hpart hparts _ _ ihinner ih =>
      cases h' with
      | skip hpart' => exact absurd hpart (hpart' _)
      | plain hpart' hparts' =>
          rw [hpart.unique hpart', hparts'] at hparts
          cases hparts
      | composed hpart' hparts' hinner' h' =>
          obtain rfl := hpart.unique hpart'
          obtain rfl := Option.some.inj (hparts.symm.trans hparts')
          rw [ihinner hinner', ih h']

/-- What parts of a schema contribute is below it. -/
theorem Contributes.transGen_of_mem {parts cs : List Value} (h : a.Contributes parts cs)
    {c : Value} (hc : c ∈ cs) {s : Value}
    (hs : ∀ part ∈ parts, ∀ t, a.Leads part t → a.HasPart s t) :
    TransGen a.HasPart s c := by
  induction h generalizing s with
  | nil => cases hc
  | skip _ _ ih => exact ih hc fun part hpart => hs part (List.mem_cons_of_mem _ hpart)
  | plain hpart _ _ ih =>
      rcases List.mem_cons.mp hc with rfl | hrest
      · exact .single (hs _ List.mem_cons_self _ hpart)
      · exact ih hrest fun part hpart => hs part (List.mem_cons_of_mem _ hpart)
  | composed hpart hparts _ _ ihinner ih =>
      have hfirst := hs _ List.mem_cons_self _ hpart
      rcases List.mem_append.mp hc with hinner | hrest
      · exact .head hfirst (ihinner hinner fun part hmem t ht => ⟨_, part, hparts, hmem, ht⟩)
      · rcases List.mem_cons.mp hrest with rfl | hrest
        · exact .single hfirst
        · exact ih hrest fun part hpart => hs part (List.mem_cons_of_mem _ hpart)

/-- A schema whose parts have their contributions is one from which the way down ends. -/
theorem Contributes.grounded {parts cs : List Value} (h : a.Contributes parts cs) :
    ∀ part ∈ parts, ∀ t, a.Leads part t → a.Grounded t := by
  induction h with
  | nil => exact List.forall_mem_nil _
  | skip hpart _ ih =>
      exact List.forall_mem_cons.mpr ⟨fun t ht => absurd ht (hpart t), ih⟩
  | plain hpart hparts _ ih =>
      refine List.forall_mem_cons.mpr ⟨fun t ht => Acc.intro t ?_, ih⟩
      rintro u ⟨inner, part, hinner, -⟩
      rw [ht.unique hpart, hparts] at hinner
      cases hinner
  | composed hpart hparts _ _ ihinner ih =>
      refine List.forall_mem_cons.mpr ⟨fun t ht => Acc.intro t ?_, ih⟩
      rintro u ⟨inner, part, hinner, hmem, hleads⟩
      rw [ht.unique hpart, hparts] at hinner
      obtain rfl := Option.some.inj hinner
      exact ihinner part hmem u hleads

/-- Where the way down ends, parts have their contributions. -/
theorem exists_contributes (h : a.Grounded s) {parts : List Value}
    (hparts : s.parts? = some parts) : ∃ cs, a.Contributes parts cs := by
  induction h generalizing parts with
  | intro s _ ih =>
      have hall : ∀ rest : List Value, (∀ part ∈ rest, part ∈ parts) →
          ∃ cs, a.Contributes rest cs := by
        intro rest
        induction rest with
        | nil => exact fun _ => ⟨[], .nil⟩
        | cons part rest ihrest =>
            intro hmem
            obtain ⟨cs, hcs⟩ := ihrest fun p hp => hmem p (List.mem_cons_of_mem _ hp)
            by_cases hleads : ∃ t, a.Leads part t
            · obtain ⟨t, ht⟩ := hleads
              cases hinner : t.parts? with
              | none => exact ⟨_, .plain ht hinner hcs⟩
              | some inner =>
                  obtain ⟨ds, hds⟩ := ih t ⟨parts, part, hparts, hmem part List.mem_cons_self, ht⟩
                    hinner
                  exact ⟨_, .composed ht hinner hds hcs⟩
            · exact ⟨cs, .skip (fun t ht => hleads ⟨t, ht⟩) hcs⟩
      exact hall parts fun _ hpart => hpart

end Api

end ApiCommands
