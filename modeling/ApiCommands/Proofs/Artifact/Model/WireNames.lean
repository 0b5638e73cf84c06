/-
Wire names that are the name of another field.

# What a field is called

A field is called by the base of its wire name if no field before it is, and else
by the base with a number (`named_of_split`).

# Shared keys

A model reads a key as a wire name and as a name, so a key that is the wire name of
one field and the name of another is read into both (`SharesKey`). A key with a capital,
a keyword and what else no field is called is safe. A field whose wire name is its own
base prefers that name, and it shares its key exactly if a field before it was
faster. Any other field has no claim on its wire name: its key is shared as soon as
any field has it for a base (`sharesKey_iff`). Numbers stand in the way of saying
this of the bases alone, since a wire name can look like a name with a number.
-/
import ApiCommands.Proofs.Artifact.Model.Fields

namespace ApiCommands

open ModelNames (fieldBase fieldCandidates IsFieldName)

/-- Another field has the wire name of this one for its name. -/
def ModelField.SharesKey (g : ModelField) (fields : List ModelField) : Prop :=
  ∃ f ∈ fields, f ≠ g ∧ f.name = g.wireName

/-- The text looks like a name with a number behind it. -/
def ModelNames.IsNumbered (s : String) : Prop :=
  ∃ (base : String) (i : Nat), s = base ++ "_" ++ toString (i + 2)

namespace Catalog

open ModelField (SharesKey)
open ModelNames (IsNumbered)

variable {c : Catalog} {schema : Value} {fields before after : List ModelField} {g : ModelField}

-- ====================================================== names

/-- Fields with different names are different. -/
theorem ne_of_split (h : (c.objectFields schema).outcome = .ok fields)
    (hsplit : fields = before ++ g :: after) :
    ∀ f, f ∈ before ∨ f ∈ after → f.name ≠ g.name := by
  have hnodup := nodup_lowered_objectFields h
  rw [hsplit, List.map_append, List.map_cons, List.nodup_middle, ← List.map_append,
    List.nodup_cons] at hnodup
  intro f hf heq
  refine hnodup.1 (List.mem_map.mpr ⟨f, List.mem_append.mpr hf, ?_⟩)
  rw [heq]

/-- A name of fields is taken by the fields before if one of them has it. -/
theorem contains_names_iff (h : (c.objectFields schema).outcome = .ok fields)
    (hsub : ∀ f ∈ before, f ∈ fields) {name : String} (hname : IsFieldName name) :
    (Taken.ofList (before.map ModelField.name)).contains name = true
      ↔ ∃ f ∈ before, f.name = name := by
  rw [← Bool.not_eq_false, Taken.contains_ofList_eq_false_iff, List.forall_mem_map]
  push Not
  refine exists_congr fun f => and_congr_right fun hf => ?_
  rw [hname.lowered_eq, (isFieldName_of_mem_objectFields h (hsub f hf)).lowered_eq, eq_comm]

/-- A field is called by the base of its wire name if none before it is called so, and else by
that with a number. -/
theorem named_of_split (h : (c.objectFields schema).outcome = .ok fields)
    (hsplit : fields = before ++ g :: after) :
    (g.name = fieldBase c.attributes c.tables g.wireName
        ∧ ∀ f ∈ before, f.name ≠ fieldBase c.attributes c.tables g.wireName)
      ∨ (∃ i, g.name = fieldBase c.attributes c.tables g.wireName ++ "_" ++ toString (i + 2))
        ∧ ∃ f ∈ before, f.name = fieldBase c.attributes c.tables g.wireName := by
  have hsub : ∀ f ∈ before, f ∈ fields := fun f hf => hsplit ▸ List.mem_append_left _ hf
  have htaken := contains_names_iff h hsub
    (ModelNames.isFieldName_fieldBase c.attributes c.tables g.wireName)
  have hchain : (fields.map fun f => fieldCandidates c.attributes c.tables f.wireName)[before.length]?
      = some (fieldCandidates c.attributes c.tables g.wireName) := by
    rw [hsplit]
    simp
  obtain ⟨name, hat, hfirst⟩ := Taken.empty.claimAll_getElem? hchain
  rw [← map_name_objectFields h] at hat hfirst
  obtain rfl : g.name = name := by
    rw [hsplit] at hat
    simpa using hat
  have hbefore : (fields.map ModelField.name).take before.length = before.map ModelField.name := by
    rw [hsplit]
    simp
  rw [hbefore] at hfirst
  have hfree := hfirst.congr (Taken.contains_foldl_insert _)
  unfold fieldCandidates at hfree
  have hname := hfree.eq_or_numbered
  rw [htaken, ← Bool.not_eq_true, htaken, not_exists] at hname
  simpa only [not_and] using hname

/-- So the base of a wire name is the name of the field or of one before. -/
theorem exists_name_eq_base (h : (c.objectFields schema).outcome = .ok fields)
    (hsplit : fields = before ++ g :: after) :
    g.name = fieldBase c.attributes c.tables g.wireName
      ∨ ∃ f ∈ before, f.name = fieldBase c.attributes c.tables g.wireName := by
  rcases named_of_split h hsplit with ⟨hname, -⟩ | ⟨-, hbefore⟩
  · exact Or.inl hname
  · exact Or.inr hbefore

/-- A field whose name does not look numbered is called by the base of its wire name. -/
theorem base_eq_name (h : (c.objectFields schema).outcome = .ok fields) {f : ModelField}
    (hf : f ∈ fields) (hplain : ¬ IsNumbered f.name) :
    fieldBase c.attributes c.tables f.wireName = f.name := by
  obtain ⟨before, after, hsplit⟩ := List.append_of_mem hf
  rcases named_of_split h hsplit with ⟨hname, -⟩ | ⟨⟨i, hname⟩, -⟩
  · exact hname.symm
  · exact absurd ⟨_, i, hname⟩ hplain

/-- Where all wire names are different and their own bases, they are the names. -/
theorem name_eq_wireName (h : (c.objectFields schema).outcome = .ok fields)
    (hnodup : (fields.map ModelField.wireName).Nodup)
    (hbase : ∀ f ∈ fields, fieldBase c.attributes c.tables f.wireName = f.wireName) :
    ∀ f ∈ fields, f.name = f.wireName := by
  have hrun : ∀ before after, fields = before ++ after → ∀ f ∈ before, f.name = f.wireName := by
    intro before
    induction before using List.reverseRecOn with
    | nil =>
        intro after hsplit f hf
        cases hf
    | append_singleton front g ih =>
        intro after hsplit
        rw [List.append_assoc, List.singleton_append] at hsplit
        have hfront := ih _ hsplit
        refine List.forall_mem_append.mpr ⟨hfront, List.forall_mem_singleton.mpr ?_⟩
        have hown := hbase g (hsplit ▸ List.mem_append_right _ List.mem_cons_self)
        rcases exists_name_eq_base h hsplit with hname | ⟨f, hf, hname⟩
        · rw [hname, hown]
        · -- the field before would have the same wire name
          rw [hsplit, List.map_append, List.map_cons, List.nodup_middle, List.nodup_cons] at hnodup
          refine absurd (List.mem_append_left _ (List.mem_map.mpr ⟨f, hf, ?_⟩)) hnodup.1
          rw [← hfront f hf, hname, hown]
  exact hrun fields [] (List.append_nil _).symm

-- ====================================================== shared keys

/-- A key is shared if a field before is called so. -/
theorem sharesKey_of_mem_before (h : (c.objectFields schema).outcome = .ok fields)
    (hsplit : fields = before ++ g :: after) (hbefore : ∃ f ∈ before, f.name = g.wireName) :
    g.SharesKey fields := by
  obtain ⟨f, hf, hname⟩ := hbefore
  have hne := ne_of_split h hsplit f (Or.inl hf)
  refine ⟨f, hsplit ▸ List.mem_append_left _ hf, fun heq => ?_, hname⟩
  rw [heq] at hne
  exact hne rfl

/-- Only the name of a field can be shared. -/
theorem isFieldName_of_sharesKey (h : (c.objectFields schema).outcome = .ok fields)
    (hshares : g.SharesKey fields) : IsFieldName g.wireName := by
  obtain ⟨f, hf, -, hname⟩ := hshares
  rw [← hname]
  exact isFieldName_of_mem_objectFields h hf

/-- And none that is reserved. -/
theorem notMem_reservedFields_of_sharesKey (hleaves : ModelNames.LeavesFieldNames c.attributes)
    (h : (c.objectFields schema).outcome = .ok fields) (hshares : g.SharesKey fields) :
    g.wireName ∉ ModelNames.reservedFields c.attributes := by
  obtain ⟨f, hf, -, hname⟩ := hshares
  rw [← hname]
  exact notMem_reservedFields_of_mem_objectFields hleaves h hf

/-- A field whose wire name is its own base shares its key only if a field before it is called
so. -/
theorem sharesKey_iff_of_base (h : (c.objectFields schema).outcome = .ok fields)
    (hsplit : fields = before ++ g :: after)
    (hbase : fieldBase c.attributes c.tables g.wireName = g.wireName) :
    g.SharesKey fields ↔ ∃ f ∈ before, f.name = g.wireName := by
  refine ⟨?_, sharesKey_of_mem_before h hsplit⟩
  rintro ⟨f, hf, hne, hname⟩
  have hown := exists_name_eq_base h hsplit
  rw [hbase] at hown
  refine hown.resolve_left fun hg => ?_
  rw [hsplit, List.mem_append, List.mem_cons] at hf
  have hother : f ∈ before ∨ f ∈ after := hf.imp_right fun hf => hf.resolve_left hne
  exact ne_of_split h hsplit f hother (hname.trans hg.symm)

/-- A key that does not look numbered is shared exactly if it is the base of a field before, or of
one behind and not its own. -/
theorem sharesKey_iff_of_plain (h : (c.objectFields schema).outcome = .ok fields)
    (hsplit : fields = before ++ g :: after) (hplain : ¬ IsNumbered g.wireName) :
    g.SharesKey fields
      ↔ (∃ f ∈ before, fieldBase c.attributes c.tables f.wireName = g.wireName)
        ∨ (fieldBase c.attributes c.tables g.wireName ≠ g.wireName
          ∧ ∃ f ∈ after, fieldBase c.attributes c.tables f.wireName = g.wireName) := by
  have hnamed : ∀ f ∈ fields, f.name = g.wireName →
      fieldBase c.attributes c.tables f.wireName = g.wireName := by
    intro f hf hname
    rw [← hname] at hplain ⊢
    exact base_eq_name h hf hplain
  constructor
  · rintro ⟨f, hf, hne, hname⟩
    by_cases hbase : fieldBase c.attributes c.tables g.wireName = g.wireName
    · obtain ⟨f, hf, hname⟩ :=
        (sharesKey_iff_of_base h hsplit hbase).mp ⟨f, hf, hne, hname⟩
      exact Or.inl ⟨f, hf, hnamed f (hsplit ▸ List.mem_append_left _ hf) hname⟩
    · have hf' := hf
      rw [hsplit, List.mem_append, List.mem_cons] at hf'
      rcases hf' with hbefore | rfl | hafter
      · exact Or.inl ⟨f, hbefore, hnamed f hf hname⟩
      · exact absurd rfl hne
      · exact Or.inr ⟨hbase, f, hafter, hnamed f hf hname⟩
  · rintro (⟨f, hf, hbase⟩ | ⟨hg, f, hf, hbase⟩)
    · obtain ⟨front, back, rfl⟩ := List.append_of_mem hf
      refine sharesKey_of_mem_before h hsplit ?_
      rw [List.append_assoc, List.cons_append] at hsplit
      rcases exists_name_eq_base h hsplit with hname | ⟨other, hother, hname⟩
      · exact ⟨f, hf, hname.trans hbase⟩
      · exact ⟨other, List.mem_append_left _ hother, hname.trans hbase⟩
    · have hne : ∀ other ∈ fields, other.name = g.wireName → other ≠ g := by
        rintro other hother hname rfl
        exact hg (hnamed other hother hname)
      obtain ⟨front, back, rfl⟩ := List.append_of_mem hf
      have hlater : fields = (before ++ g :: front) ++ f :: back := by
        rw [hsplit, List.append_assoc, List.cons_append]
      have hname : ∃ other ∈ fields, other.name = g.wireName := by
        rcases exists_name_eq_base h hlater with hname | ⟨other, hother, hname⟩
        · exact ⟨f, hlater ▸ List.mem_append_right _ List.mem_cons_self, hname.trans hbase⟩
        · exact ⟨other, hlater ▸ List.mem_append_left _ hother, hname.trans hbase⟩
      obtain ⟨other, hother, hname⟩ := hname
      exact ⟨other, hother, hne other hother hname, hname⟩

/-- In the model of an object, a key that no field can be called like is not shared, and no reserved
name is, if the attributes of models leave fields their names. A field whose
wire name is its own base shares its key exactly if a field before it is called so. Where a wire
name does not look numbered, its key is shared exactly if it is the base of a field before, or of
one behind and not its own. And where all wire names are different and their own bases, they
are the names, and no key is shared. -/
theorem sharesKey_iff {attributes : List String} {t : Tables} {a : Api}
    (hc : ofApi attributes t a = .ok c) {models : List DataModel}
    (h : c.models.outcome = .ok models) {m : DataModel} (hm : m ∈ models)
    (hobject : m.isWrapper = false) :
    (∀ before g after, m.fields = before ++ g :: after →
      (¬ IsFieldName g.wireName → ¬ g.SharesKey m.fields)
      ∧ (ModelNames.LeavesFieldNames attributes → g.wireName ∈ ModelNames.reservedFields attributes →
        ¬ g.SharesKey m.fields)
      ∧ (fieldBase attributes t g.wireName = g.wireName →
        (g.SharesKey m.fields ↔ ∃ f ∈ before, f.name = g.wireName))
      ∧ (¬ IsNumbered g.wireName →
        (g.SharesKey m.fields
          ↔ (∃ f ∈ before, fieldBase attributes t f.wireName = g.wireName)
            ∨ (fieldBase attributes t g.wireName ≠ g.wireName
              ∧ ∃ f ∈ after, fieldBase attributes t f.wireName = g.wireName))))
      ∧ ((m.fields.map ModelField.wireName).Nodup →
        (∀ f ∈ m.fields, fieldBase attributes t f.wireName = f.wireName) →
        ∀ f ∈ m.fields, f.name = f.wireName ∧ ¬ f.SharesKey m.fields) := by
  obtain ⟨rfl, rfl, -⟩ := ofApi_spec hc
  have hmade : ∀ m ∈ models, m.isWrapper = false →
      ∃ schema, (c.objectFields schema).outcome = .ok m.fields :=
    forall_mem_models hc h fun _ schema _ hmodel hobject =>
      ⟨schema, (hmodel.of_isWrapper_eq_false hobject).2⟩
  obtain ⟨schema, hfields⟩ := hmade m hm hobject
  refine ⟨fun before g after hsplit => ⟨mt (isFieldName_of_sharesKey hfields),
    fun hleaves hreserved hshares =>
      notMem_reservedFields_of_sharesKey hleaves hfields hshares hreserved,
    sharesKey_iff_of_base hfields hsplit, sharesKey_iff_of_plain hfields hsplit⟩,
    fun hnodup hbase => ?_⟩
  have hnames := name_eq_wireName hfields hnodup hbase
  refine fun f hf => ⟨hnames f hf, ?_⟩
  rintro ⟨other, hother, hne, hname⟩
  rw [hnames other hother] at hname
  exact hne (List.inj_on_of_nodup_map hnodup hother hf hname)

/-- The field of `firstName` is called like the next property, which is read into both. -/
theorem account_sharesKey :
    ofApi ModelNames.standardAttributes .standard (.ofDocument Account.document)
        = .ok Account.catalog
      ∧ Account.catalog.models.outcome = .ok [Account.model]
      ∧ (⟨"first_name_2", "first_name", "typing.Any", false⟩ : ModelField).SharesKey
        Account.model.fields := by
  obtain ⟨hshared, -⟩ := sharesKey_iff Account.ofApi_document Account.outcome_models
    (m := Account.model) List.mem_cons_self rfl
  have hlast : Account.model.fields = Account.fields.take 4
      ++ ⟨"first_name_2", "first_name", "typing.Any", false⟩ :: [] := rfl
  obtain ⟨-, -, hkey, -⟩ := hshared _ _ _ hlast
  refine ⟨Account.ofApi_document, Account.outcome_models, ?_⟩
  exact (hkey (by decide +kernel)).mpr (by decide)

end Catalog

end ApiCommands
