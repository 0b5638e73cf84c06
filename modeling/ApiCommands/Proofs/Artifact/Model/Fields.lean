/-
Models and their fields, one for one.

# Fields

Every property has a field, with its name as the wire name (`IsFieldOf`), and the
names of the fields are claimed in the order of the properties
(`outcome_fieldsOf_eq_ok_iff`). So no two are the same up to case, and as all candidates
for fields are names of fields, so are the fields.

# Models

Every schema has a model, in the order of the document and under the name of its
class (`outcome_models_eq_ok_iff`). A model is that of the node which the schema is or leads
to (`IsModelOf`): an object has the fields of its merged properties, anything else has
one. What is said of classes and of fields comes together in `models_named`.

# Types of fields

The type of a field is written over the classes, and so is the one it is declared
with. No class has a bracket, so a type that is written like an option is
one, and the default of a field that may be missing is one of its values
(`models_typed`).
-/
import ApiCommands.Proofs.Artifact.Model.Classes
import ApiCommands.Proofs.Outcome.Result

namespace ApiCommands

/-- The candidates for the field of a property. -/
def ModelNames.fieldCandidates (attributes : List String) (t : Tables) (wireName : String) :
    Candidates :=
  .numbered (fieldBase attributes t wireName) "_"

namespace Catalog

variable {c : Catalog} {schema : Value} {fields : List ModelField}

-- ====================================================== fields

/-- The field of a property, but for its name. -/
structure IsFieldOf (c : Catalog) (required : List String) (property : Scalar × Value)
    (f : ModelField) : Prop where
  key : property.1 = .text f.wireName
  type : (c.typeOf property.2).outcome = .ok f.type
  required : f.required = required.contains f.wireName

/-- The field of the first property is claimed, and then those of the rest. -/
theorem outcome_fieldsOf_cons_eq_ok_iff {required : List String} {taken : Taken} {key : Scalar}
    {rest : Entries} :
    (c.fieldsOf required taken ((key, schema) :: rest)).outcome = .ok fields
      ↔ ∃ f others next, fields = f :: others ∧ c.IsFieldOf required (key, schema) f
        ∧ taken.claim (ModelNames.fieldCandidates c.attributes c.tables f.wireName)
          = (f.name, next)
        ∧ (c.fieldsOf required next rest).outcome = .ok others := by
  rw [fieldsOf]
  cases key with
  | text wire =>
      simp only [wireName, Noted.outcome_bind_eq_ok_iff, Noted.outcome_pure, Except.ok.injEq]
      constructor
      · rintro ⟨type, htype, others, hothers, rfl⟩
        exact ⟨_, others, _, rfl, ⟨rfl, htype, rfl⟩, rfl, hothers⟩
      · rintro ⟨⟨name, wire', type, required'⟩, others, next, rfl, hf, hclaim, hothers⟩
        obtain rfl : wire = wire' := Scalar.text.inj hf.key
        obtain rfl : required' = required.contains wire := hf.required
        unfold ModelNames.fieldCandidates at hclaim
        rw [hclaim]
        exact ⟨type, hf.type, others, hothers, rfl⟩
  | _ =>
      refine iff_of_false (fun h => by cases h) ?_
      rintro ⟨f, -, -, -, hf, -⟩
      cases hf.key

/-- Every property has its field, in order, and the names of the fields are claimed one after the
other. -/
theorem outcome_fieldsOf_eq_ok_iff {required : List String} {taken : Taken}
    {properties : Entries} :
    (c.fieldsOf required taken properties).outcome = .ok fields
      ↔ List.Forall₂ (c.IsFieldOf required) properties fields
        ∧ fields.map ModelField.name
          = taken.claimAll
              (fields.map fun f => ModelNames.fieldCandidates c.attributes c.tables f.wireName) := by
  induction properties generalizing taken fields with
  | nil =>
      rw [fieldsOf, Noted.outcome_pure, Except.ok.injEq, List.forall₂_nil_left_iff]
      constructor
      · rintro rfl
        exact ⟨rfl, rfl⟩
      · rintro ⟨rfl, -⟩
        rfl
  | cons property rest ih =>
      obtain ⟨key, schema⟩ := property
      rw [outcome_fieldsOf_cons_eq_ok_iff, List.forall₂_cons_left_iff]
      constructor
      · rintro ⟨f, others, next, rfl, hf, hclaim, hothers⟩
        obtain ⟨hrest, hnames⟩ := ih.mp hothers
        refine ⟨⟨f, others, hf, hrest, rfl⟩, ?_⟩
        rw [List.map_cons, List.map_cons, Taken.claimAll, hclaim, hnames]
      · rintro ⟨⟨f, others, hf, hrest, rfl⟩, hnames⟩
        rw [List.map_cons, List.map_cons, Taken.claimAll] at hnames
        obtain ⟨hname, hnames⟩ := List.cons.inj hnames
        exact ⟨f, others, _, rfl, hf, Prod.ext hname.symm rfl, ih.mpr ⟨hrest, hnames⟩⟩

/-- The wire names are the keys of the properties. -/
theorem map_text_wireName {required : List String} {properties : Entries}
    (h : List.Forall₂ (c.IsFieldOf required) properties fields) :
    (fields.map fun f => Scalar.text f.wireName) = properties.map Prod.fst := by
  induction h with
  | nil => rfl
  | cons hfirst _ ih => rw [List.map_cons, List.map_cons, hfirst.key, ih]

/-- The fields of an object are those of its merged properties. -/
theorem outcome_objectFields_eq_ok_iff :
    (c.objectFields schema).outcome = .ok fields
      ↔ ∃ whole, (c.api.merged schema).outcome = .ok whole
        ∧ ((whole.properties? = none ∧ fields = [])
          ∨ ∃ properties required, whole.properties? = some properties
            ∧ whole.requiredNames = .ok required
            ∧ (c.fieldsOf required .empty properties).outcome = .ok fields) := by
  unfold objectFields
  rw [Noted.outcome_bind_eq_ok_iff]
  refine exists_congr fun whole => and_congr_right fun _ => ?_
  cases whole.properties? with
  | none => simp [eq_comm]
  | some properties =>
      cases whole.requiredNames with
      | error fault => simp [Noted.outcome_fail]
      | ok required => simp

/-- The names of the fields of an object are claimed in their order. -/
theorem map_name_objectFields (h : (c.objectFields schema).outcome = .ok fields) :
    fields.map ModelField.name
      = Taken.empty.claimAll
          (fields.map fun f => ModelNames.fieldCandidates c.attributes c.tables f.wireName) := by
  obtain ⟨whole, -, ⟨-, rfl⟩ | ⟨properties, required, -, -, hfields⟩⟩ :=
    outcome_objectFields_eq_ok_iff.mp h
  · rfl
  · exact (outcome_fieldsOf_eq_ok_iff.mp hfields).2

/-- Each is a candidate for the field of some property. -/
theorem has_of_mem_objectFields (h : (c.objectFields schema).outcome = .ok fields)
    {f : ModelField} (hf : f ∈ fields) :
    ∃ wireName, (ModelNames.fieldCandidates c.attributes c.tables wireName).Has f.name := by
  have hname : f.name ∈ fields.map ModelField.name := List.mem_map_of_mem hf
  rw [map_name_objectFields h] at hname
  obtain ⟨chain, hchain, hhas⟩ := Taken.exists_has_of_mem_claimAll _ hname
  obtain ⟨g, -, rfl⟩ := List.mem_map.mp hchain
  exact ⟨g.wireName, hhas⟩

/-- They are names of fields. -/
theorem isFieldName_of_mem_objectFields (h : (c.objectFields schema).outcome = .ok fields)
    {f : ModelField} (hf : f ∈ fields) : ModelNames.IsFieldName f.name := by
  obtain ⟨wireName, hhas⟩ := has_of_mem_objectFields h hf
  exact ModelNames.isFieldName_of_has hhas

/-- None of them is reserved. -/
theorem notMem_reservedFields_of_mem_objectFields
    (hleaves : ModelNames.LeavesFieldNames c.attributes)
    (h : (c.objectFields schema).outcome = .ok fields) {f : ModelField} (hf : f ∈ fields) :
    f.name ∉ ModelNames.reservedFields c.attributes := by
  obtain ⟨wireName, hhas⟩ := has_of_mem_objectFields h hf
  exact ModelNames.notMem_reservedFields_of_has hleaves hhas

/-- No two of them are the same up to case. -/
theorem nodup_lowered_objectFields (h : (c.objectFields schema).outcome = .ok fields) :
    (fields.map fun f => Text.lowered f.name).Nodup := by
  have hnodup := Taken.empty.nodup_claimAll
    (fields.map fun f => ModelNames.fieldCandidates c.attributes c.tables f.wireName)
  rw [← map_name_objectFields h, List.map_map] at hnodup
  exact hnodup

/-- The wire names of an object are the keys of its merged properties. -/
theorem exists_merged_of_objectFields (h : (c.objectFields schema).outcome = .ok fields) :
    ∃ whole, (c.api.merged schema).outcome = .ok whole
      ∧ (fields.map fun f => Scalar.text f.wireName)
        = (whole.properties?.getD []).map Prod.fst := by
  obtain ⟨whole, hwhole, ⟨hnone, rfl⟩ | ⟨properties, required, hproperties, -, hfields⟩⟩ :=
    outcome_objectFields_eq_ok_iff.mp h
  · refine ⟨whole, hwhole, ?_⟩
    rw [hnone]
    rfl
  · refine ⟨whole, hwhole, ?_⟩
    rw [hproperties]
    exact map_text_wireName (outcome_fieldsOf_eq_ok_iff.mp hfields).1

-- ====================================================== models

/-- The model of the schema under an entry, which is or leads to `schema`. -/
structure IsModelOf (c : Catalog) (entry : Scalar × Value) (schema : Value) (m : DataModel) :
    Prop where
  found : ∃ found, (c.api.deref entry.2).outcome = .ok found ∧ schema = found.getD (.map [])
  schemaName : m.schemaName = entry.1
  description : ∃ name text, entry.1.display = .ok name ∧ descriptionText schema = .ok text
    ∧ m.description = DocText.summary text ("Schema \x60\x60" ++ name ++ "\x60\x60.")
  isWrapper : m.isWrapper = !isObject schema
  fields : ∃ name, entry.1.display = .ok name
    ∧ (if isObject schema then c.objectFields schema
      else c.valueField name schema).outcome = .ok m.fields

/-- A model that holds no value is of an object, and has its fields. -/
theorem IsModelOf.of_isWrapper_eq_false {entry : Scalar × Value} {m : DataModel}
    (h : c.IsModelOf entry schema m) (hobject : m.isWrapper = false) :
    (c.api.deref entry.2).outcome = .ok (some schema)
      ∧ (c.objectFields schema).outcome = .ok m.fields := by
  have hisObject : isObject schema = true := by simpa [h.isWrapper] using hobject
  obtain ⟨name, -, hfields⟩ := h.fields
  rw [if_pos hisObject] at hfields
  refine ⟨?_, hfields⟩
  obtain ⟨found, hfound, rfl⟩ := h.found
  cases found with
  | none => cases hisObject
  | some found => exact hfound

/-- The fields of a model, the one of a value included, have names of fields. -/
theorem IsModelOf.isFieldName {entry : Scalar × Value} {m : DataModel}
    (h : c.IsModelOf entry schema m) : ∀ f ∈ m.fields, ModelNames.IsFieldName f.name := by
  obtain ⟨name, -, hfields⟩ := h.fields
  split at hfields
  · exact fun f hf => isFieldName_of_mem_objectFields hfields hf
  · obtain ⟨type, -, hfield⟩ := Noted.outcome_bind_eq_ok_iff.mp hfields
    rw [← Except.ok.inj hfield, List.forall_mem_singleton]
    have hstem : ModelNames.IsStem "value" :=
      ⟨⟨Or.inl (by decide), List.all_eq_true.mp (by decide)⟩, by decide, by simp⟩
    exact hstem.isFieldName (by decide)

/-- The rest of a model, around its fields. -/
theorem outcome_map_model_eq_ok_iff {made : Noted (List ModelField)}
    {className description : String}
    {schemaName : Scalar} {isWrapper : Bool} {m : DataModel} :
    (made >>= fun fields => pure (DataModel.mk className schemaName description fields
        isWrapper)).outcome = .ok m
      ↔ m.className = className ∧ m.schemaName = schemaName ∧ m.description = description
        ∧ m.isWrapper = isWrapper ∧ made.outcome = .ok m.fields := by
  rw [Noted.outcome_bind_eq_ok_iff]
  constructor
  · rintro ⟨fields, hfields, h⟩
    obtain rfl := Except.ok.inj h
    exact ⟨rfl, rfl, rfl, rfl, hfields⟩
  · rintro ⟨rfl, rfl, rfl, rfl, hfields⟩
    exact ⟨m.fields, hfields, rfl⟩

/-- A model has the class it is made with and is one of its schema. -/
theorem outcome_modelOf_eq_ok_iff {key : Scalar} {node : Value} {className : String}
    {m : DataModel} :
    (c.modelOf key node className).outcome = .ok m
      ↔ m.className = className ∧ ∃ schema, c.IsModelOf (key, node) schema m := by
  unfold modelOf
  simp only [Noted.outcome_bind_eq_ok_iff, Noted.outcome_ofFault_eq_ok_iff]
  constructor
  · rintro ⟨found, hfound, name, hname, text, htext, h⟩
    split at h <;>
    · next hobject =>
      obtain ⟨hclass, hkey, hdescription, hwrapper, hfields⟩ := outcome_map_model_eq_ok_iff.mp h
      refine ⟨hclass, _, ⟨found, hfound, rfl⟩, hkey, ⟨name, text, hname, htext, hdescription⟩,
        hwrapper, name, hname, ?_⟩
      simpa [hobject] using hfields
  · rintro ⟨hclass, schema, hm⟩
    obtain ⟨found, hfound, rfl⟩ := hm.found
    obtain ⟨name, text, hname, htext, hdescription⟩ := hm.description
    obtain ⟨name', hname', hfields⟩ := hm.fields
    obtain rfl := Except.ok.inj (hname.symm.trans hname')
    refine ⟨found, hfound, name, hname, text, htext, ?_⟩
    split <;>
    · next hobject =>
      refine outcome_map_model_eq_ok_iff.mpr
        ⟨hclass, hm.schemaName, hdescription, hm.isWrapper, ?_⟩
      simpa [hobject] using hfields

/-- Every schema has its model, in order and under the name of its class. -/
theorem outcome_modelsOf_eq_ok_iff {entries : Entries} {classes : List String}
    {models : List DataModel} (hlength : entries.length = classes.length) :
    (c.modelsOf (entries.zip classes)).outcome = .ok models
      ↔ models.map DataModel.className = classes
        ∧ List.Forall₂ (fun entry m => ∃ schema, c.IsModelOf entry schema m) entries models := by
  induction entries generalizing classes models with
  | nil =>
      obtain rfl := List.eq_nil_of_length_eq_zero hlength.symm
      rw [List.zip_nil_left, modelsOf, Noted.outcome_pure, Except.ok.injEq,
        List.forall₂_nil_left_iff, List.map_eq_nil_iff, and_self, eq_comm]
  | cons entry rest ih =>
      obtain ⟨key, node⟩ := entry
      obtain ⟨className, others, rfl⟩ := List.exists_cons_of_length_eq_add_one hlength.symm
      have hrest := Nat.succ.inj hlength
      rw [List.zip_cons_cons, modelsOf, Noted.outcome_bind_eq_ok_iff, List.forall₂_cons_left_iff]
      constructor
      · rintro ⟨m, hm, hrun⟩
        obtain ⟨ms, hms, h⟩ := Noted.outcome_bind_eq_ok_iff.mp hrun
        obtain ⟨rfl, hmodel⟩ := outcome_modelOf_eq_ok_iff.mp hm
        obtain ⟨rfl, hmodels⟩ := (ih hrest).mp hms
        obtain rfl := Except.ok.inj h
        exact ⟨rfl, m, ms, hmodel, hmodels, rfl⟩
      · rintro ⟨hclasses, m, ms, hmodel, hmodels, rfl⟩
        obtain ⟨hclass, hclasses⟩ := List.cons.inj hclasses
        refine ⟨m, outcome_modelOf_eq_ok_iff.mpr ⟨hclass, hmodel⟩, ?_⟩
        exact Noted.outcome_bind_eq_ok_iff.mpr ⟨ms, (ih hrest).mpr ⟨hclasses, hmodels⟩, rfl⟩

/-- Every schema of the document has its model, under the name of its class. -/
theorem outcome_models_eq_ok_iff {attributes : List String} {t : Tables} {a : Api}
    {models : List DataModel} (hc : ofApi attributes t a = .ok c) :
    c.models.outcome = .ok models
      ↔ models.map DataModel.className = c.classes
        ∧ List.Forall₂ (fun entry m => ∃ schema, c.IsModelOf entry schema m) a.schemas models := by
  obtain ⟨-, -, rfl, -⟩ := ofApi_spec hc
  exact outcome_modelsOf_eq_ok_iff (length_classes hc).symm

/-- One field for every property, in order and by its wire name, and the names of the fields are as
they must be where every model has the attributes. -/
structure NamesFields (attributes : List String) (properties : Entries)
    (fields : List ModelField) : Prop where
  wireNames : (fields.map fun f => Scalar.text f.wireName) = properties.map Prod.fst
  distinct : (fields.map fun f => Text.lowered f.name).Nodup
  named : ∀ f ∈ fields, ModelNames.IsFieldName f.name
  notReserved : ∀ f ∈ fields, f.name ∉ ModelNames.reservedFields attributes

/-- No two classes are the same up to case, and each is public and no import in any case. The models
are the classes one for one, in the order of the schemas. A model that holds no value is of
an object, and has a field for every merged property. Of the attributes that every model has it is
assumed that they leave fields their names. -/
theorem models_named {attributes : List String} (hleaves : ModelNames.LeavesFieldNames attributes)
    {t : Tables} {a : Api} (hc : ofApi attributes t a = .ok c) :
    (c.classes.map Text.lowered).Nodup
      ∧ (∀ name ∈ c.classes, ModelNames.IsPublic name
        ∧ ∀ taken ∈ ModelNames.imports, Text.lowered name ≠ Text.lowered taken)
      ∧ ∀ models, c.models.outcome = .ok models →
        models.map DataModel.className = c.classes
          ∧ List.Forall₂ (fun entry m => m.schemaName = entry.1
            ∧ (m.isWrapper = false → ∃ schema whole, (a.deref entry.2).outcome = .ok (some schema)
              ∧ (a.merged schema).outcome = .ok whole
              ∧ NamesFields attributes (whole.properties?.getD []) m.fields)) a.schemas
            models := by
  obtain ⟨rfl, -, rfl, -⟩ := ofApi_spec hc
  refine ⟨nodup_classes hc, fun name hname => ⟨isPublic_of_mem_classes hc hname,
    fun taken htaken => lowered_ne_of_mem_imports hc hname htaken⟩, fun models hmodels => ?_⟩
  obtain ⟨hclasses, hall⟩ := (outcome_models_eq_ok_iff hc).mp hmodels
  refine ⟨hclasses, hall.imp ?_⟩
  rintro entry m ⟨schema, hm⟩
  refine ⟨hm.schemaName, fun hobject => ?_⟩
  obtain ⟨hschema, hfields⟩ := hm.of_isWrapper_eq_false hobject
  obtain ⟨whole, hwhole, hwire⟩ := exists_merged_of_objectFields hfields
  exact ⟨schema, whole, hschema, hwhole, hwire, nodup_lowered_objectFields hfields,
    fun f hf => isFieldName_of_mem_objectFields hfields hf,
    fun f hf => notMem_reservedFields_of_mem_objectFields hleaves hfields hf⟩

/-- What every model of a schema has, all models have. -/
theorem forall_mem_models {attributes : List String} {t : Tables} {a : Api}
    (hc : ofApi attributes t a = .ok c) {models : List DataModel}
    (h : c.models.outcome = .ok models) {p : DataModel → Prop}
    (hp : ∀ entry schema m, c.IsModelOf entry schema m → p m) : ∀ m ∈ models, p m := by
  refine forall_mem_of_forall₂ ?_ ((outcome_models_eq_ok_iff hc).mp h).2
  rintro entry m ⟨schema, hm⟩
  exact hp entry schema m hm

-- ====================================================== types of fields

/-- The fields of a model have types. -/
theorem IsModelOf.isTypeText {entry : Scalar × Value} {m : DataModel}
    (h : c.IsModelOf entry schema m) : ∀ f ∈ m.fields, IsTypeText c.classes f.type := by
  obtain ⟨name, -, hfields⟩ := h.fields
  split at hfields
  · obtain ⟨whole, -, ⟨-, hnone⟩ | ⟨properties, required, -, -, hrun⟩⟩ :=
      outcome_objectFields_eq_ok_iff.mp hfields
    · rw [hnone]
      exact List.forall_mem_nil _
    · exact forall_mem_of_forall₂ (fun _ _ hf => isTypeText_typeOf hf.type)
        (outcome_fieldsOf_eq_ok_iff.mp hrun).1
  · obtain ⟨type, htype, hvalue⟩ := Noted.outcome_bind_eq_ok_iff.mp hfields
    rw [← Except.ok.inj hvalue, List.forall_mem_singleton]
    exact isTypeText_typeOf htype

/-- No class has a bracket. -/
theorem bracket_notMem_of_mem_classes {attributes : List String} {t : Tables} {a : Api}
    (hc : ofApi attributes t a = .ok c) :
    ∀ name ∈ c.classes, '[' ∉ name.toList := by
  intro name hname hmem
  have hword := (isPublic_of_mem_classes hc hname).spelling.isWordChar '[' hmem
  exact absurd hword (by decide)

/-- Every field has a type and is declared with one. A field that may be missing is declared as
anything or as an option, with nothing as its default. -/
theorem models_typed {attributes : List String} {t : Tables} {a : Api}
    (hc : ofApi attributes t a = .ok c) {models : List DataModel}
    (h : c.models.outcome = .ok models) {m : DataModel} (hm : m ∈ models) {f : ModelField}
    (hf : f ∈ m.fields) :
    IsTypeText c.classes f.type ∧ IsTypeText c.classes f.declaredType
      ∧ (f.required = false →
        (f.declaredType = TypeText.any
          ∨ ∃ inner, IsTypeText c.classes inner ∧ f.declaredType = TypeText.optional inner)
        ∧ f.declaration = f.name ++ ": " ++ f.declaredType
          ++ if f.wireName = f.name then " = None"
            else " = pydantic.Field(default=None, alias=" ++ Text.quoted f.wireName ++ ")") := by
  have htype : IsTypeText c.classes f.type :=
    forall_mem_models hc h (fun _ _ _ hmodel => hmodel.isTypeText) m hm f hf
  have hoptional := ModelField.declaredType_of_optional (bracket_notMem_of_mem_classes hc) htype
  refine ⟨htype, ?_, fun hrequired =>
    ⟨hoptional hrequired, ModelField.declaration_of_optional hrequired⟩⟩
  cases hrequired : f.required with
  | true =>
      rw [ModelField.declaredType_of_required hrequired]
      exact htype
  | false =>
      rcases hoptional hrequired with hany | ⟨inner, hinner, heq⟩
      · rw [hany]
        exact .any
      · rw [heq]
        exact .optional hinner

end Catalog

-- ====================================================== an account

namespace Account

/-- A schema with a property for each repair of a name. -/
def schema : Value := .map [
  (.text "type", .text "object"),
  (.text "required", .list [.text "class"]),
  (.text "properties", .map [
    (.text "class", .map [(.text "type", .text "string"), (.text "format", .text "uuid")]),
    (.text "schema", .map [(.text "$ref", .text "#/components/schemas/uuid")]),
    (.text "1st", .map [(.text "type", .text "array"), (.text "items", .map [])]),
    (.text "firstName", .map [(.text "type", .text "string")]),
    (.text "first_name", .map [])])]

/-- A document with that schema, called like an import. -/
def document : Value :=
  .map [(.text "components", .map [(.text "schemas", .map [(.text "uuid", schema)])])]

/-- The class of the schema. -/
def catalog : Catalog :=
  ⟨ModelNames.standardAttributes, .standard, .ofDocument document, [(.text "uuid", "Uuid2")]⟩

/-- Its fields. -/
def fields : List ModelField := [
  ⟨"class_", "class", "uuid.UUID", true⟩,
  ⟨"schema_", "schema", "Uuid2", false⟩,
  ⟨"f_1st", "1st", "list[typing.Any]", false⟩,
  ⟨"first_name", "firstName", "str", false⟩,
  ⟨"first_name_2", "first_name", "typing.Any", false⟩]

/-- Its model. -/
def model : DataModel := ⟨"Uuid2", .text "uuid", "Schema \x60\x60uuid\x60\x60.", fields, false⟩

/-- The import is taken, so the class is the next one. -/
theorem ofApi_document :
    Catalog.ofApi ModelNames.standardAttributes .standard (.ofDocument document)
      = .ok catalog := by
  have hbases : [Scalar.text "uuid"].mapM (ModelNames.classBase .standard) = .ok ["Uuid"] := by
    decide +kernel
  have hnames : (Taken.ofList ModelNames.imports).claimAll
      (["Uuid"].map (Candidates.numbered · "")) = ["Uuid2"] := by
    decide
  refine Except.bind_eq_ok_iff.mpr ⟨["Uuid"], hbases, ?_⟩
  rw [hnames]
  rfl

/-- The schema leads nowhere else. -/
theorem outcome_deref : (catalog.api.deref schema).outcome = .ok (some schema) := by
  cbv

/-- It has no parts. -/
theorem outcome_merged : (catalog.api.merged schema).outcome = .ok schema := by
  cbv

/-- A reference to the schema is one to its class. -/
theorem target?_uuid : catalog.target? "#/components/schemas/uuid" = some ("Uuid2", schema) := by
  have hname : Api.refName? "#/components/schemas/uuid" = some "uuid" := by decide +kernel
  unfold Catalog.target?
  rw [hname]
  rfl

/-- The types of the other properties, which lead nowhere. -/
theorem outcome_typeWith (fresh : List String) :
    (catalog.typeWith fresh (.map [(.text "type", .text "string"),
        (.text "format", .text "uuid")])).outcome = .ok "uuid.UUID"
      ∧ (catalog.typeWith fresh (.map [(.text "type", .text "array"),
        (.text "items", .map [])])).outcome = .ok "list[typing.Any]"
      ∧ (catalog.typeWith fresh (.map [(.text "type", .text "string")])).outcome = .ok "str"
      ∧ (catalog.typeWith fresh (.map [])).outcome = .ok "typing.Any" :=
  ⟨by cbv, by cbv, by cbv, by cbv⟩

/-- The properties have these fields. -/
theorem outcome_fields : (catalog.objectFields schema).outcome = .ok fields := by
  have href : (catalog.typeOf (.map [(.text "$ref", .text "#/components/schemas/uuid")])).outcome
      = .ok "Uuid2" := by
    rw [Catalog.typeOf_of_target? rfl rfl target?_uuid (by decide)]
    rfl
  refine Catalog.outcome_objectFields_eq_ok_iff.mpr ⟨schema, outcome_merged, Or.inr ⟨_, ["class"],
    rfl, by decide +kernel, Catalog.outcome_fieldsOf_eq_ok_iff.mpr ⟨?_, by decide +kernel⟩⟩⟩
  exact .cons ⟨rfl, (outcome_typeWith _).1, by decide⟩ <| .cons ⟨rfl, href, by decide⟩ <|
    .cons ⟨rfl, (outcome_typeWith _).2.1, by decide⟩ <|
    .cons ⟨rfl, (outcome_typeWith _).2.2.1, by decide⟩ <|
    .cons ⟨rfl, (outcome_typeWith _).2.2.2, by decide⟩ .nil

/-- The schema has this model. -/
theorem outcome_models : catalog.models.outcome = .ok [model] := by
  refine (Catalog.outcome_models_eq_ok_iff ofApi_document).mpr ⟨rfl, .cons ⟨schema, ?_⟩ .nil⟩
  exact ⟨⟨some schema, outcome_deref, rfl⟩, rfl, ⟨"uuid", none, rfl, by decide, by decide⟩,
    by decide, ⟨"uuid", rfl, outcome_fields⟩⟩

end Account

/-- A keyword, a reserved name, a digit in front and two names of the same words. -/
theorem Catalog.account_models_named :
    ModelNames.LeavesFieldNames ModelNames.standardAttributes
      ∧ ofApi ModelNames.standardAttributes .standard (.ofDocument Account.document)
        = .ok Account.catalog
      ∧ Account.catalog.models.outcome = .ok [Account.model]
      ∧ Account.catalog.classes = ["Uuid2"]
      ∧ NamesFields ModelNames.standardAttributes (((Account.schema).properties?).getD [])
        Account.fields := by
  have hleaves := ModelNames.leavesFieldNames_standardAttributes
  obtain ⟨-, -, hmodels⟩ := models_named hleaves Account.ofApi_document
  obtain ⟨hclasses, hall⟩ := hmodels _ Account.outcome_models
  obtain ⟨⟨-, hmodel⟩, -⟩ := List.forall₂_cons.mp hall
  obtain ⟨schema, whole, hschema, hwhole, hnames⟩ := hmodel rfl
  refine ⟨hleaves, Account.ofApi_document, Account.outcome_models, hclasses.symm, ?_⟩
  obtain rfl := Option.some.inj (Except.ok.inj (Account.outcome_deref.symm.trans hschema))
  obtain rfl := Except.ok.inj (Account.outcome_merged.symm.trans hwhole)
  exact hnames

/-- The names, which are not all the wire names, are declared with options. -/
theorem Catalog.account_models_typed :
    ofApi ModelNames.standardAttributes .standard (.ofDocument Account.document)
        = .ok Account.catalog
      ∧ Account.catalog.models.outcome = .ok [Account.model]
      ∧ (ModelField.mk "schema_" "schema" "Uuid2" false).declaration
        = "schema_: typing.Optional[Uuid2] = pydantic.Field(default=None, alias='schema')" := by
  obtain ⟨-, -, hdeclared⟩ := models_typed Account.ofApi_document Account.outcome_models
    (m := Account.model) List.mem_cons_self
    (f := ⟨"schema_", "schema", "Uuid2", false⟩) (by decide)
  refine ⟨Account.ofApi_document, Account.outcome_models, ?_⟩
  rw [(hdeclared rfl).2]
  decide

end ApiCommands
