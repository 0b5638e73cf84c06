/-
Types of fields, as the emitted source writes them.

A type is one without parts, a class of the module, or a list, a mapping or an
option of a type. The type of a schema is written so, whatever the schema
(`Catalog.isTypeText_typeOf`): the induction is along the walk through the schema
and its references, and every step of it either ends in a type without parts or
in a class, or puts one of the three around the type of a step further in.

A field that may be missing is declared with its type as an option, unless that
admits nothing already. Whether it does is seen from how it starts: no type but an
option starts so (`IsTypeText.exists_optional`), since no class has a bracket.
-/
import ApiCommands.Artifact.ModelModule
import ApiCommands.Proofs.Outcome.Note
import ApiCommands.Proofs.Outcome.Result

namespace ApiCommands

/-- Types without parts. -/
def TypeText.simple : List String :=
  [TypeText.any, "str", "bytes", "int", "float", "bool", "decimal.Decimal", "datetime.datetime",
    "datetime.date", "uuid.UUID"]

/-- Types in the emitted source, made of those without parts and of classes. -/
inductive IsTypeText (classes : List String) : String → Prop
  | simple {type : String} (h : type ∈ TypeText.simple) : IsTypeText classes type
  | ofClass {className : String} (h : className ∈ classes) : IsTypeText classes className
  | listOf {type : String} (h : IsTypeText classes type) : IsTypeText classes (TypeText.listOf type)
  | mapOf {type : String} (h : IsTypeText classes type) : IsTypeText classes (TypeText.mapOf type)
  | optional {type : String} (h : IsTypeText classes type) :
      IsTypeText classes (TypeText.optional type)

namespace IsTypeText

variable {classes : List String} {schema : Value} {type : String}

/-- Any value at all. -/
theorem any : IsTypeText classes TypeText.any := .simple List.mem_cons_self

/-- A type that may be missing, if the schema is marked so. -/
theorem markNullable (h : IsTypeText classes type) :
    IsTypeText classes (Catalog.markNullable schema type) := by
  unfold Catalog.markNullable
  split
  · exact .optional h
  · exact h

/-- A type or, if the schema may be null, nothing. -/
theorem withNull (h : IsTypeText classes type) :
    IsTypeText classes (Catalog.withNull schema type) := by
  unfold Catalog.withNull
  split
  · exact .optional h
  · exact h

/-- A type that is written like an option is one, unless a class has a bracket. -/
theorem exists_optional (hclasses : ∀ name ∈ classes, '[' ∉ name.toList)
    (h : IsTypeText classes type)
    (hstart : "typing.Optional[".toList.isPrefixOf type.toList = true) :
    ∃ inner, IsTypeText classes inner ∧ type = TypeText.optional inner := by
  cases h with
  | simple h =>
      have hall : ∀ type ∈ TypeText.simple,
          "typing.Optional[".toList.isPrefixOf type.toList = false := by decide
      rw [hall type h] at hstart
      cases hstart
  | ofClass h =>
      have hfront := List.isPrefixOf_iff_prefix.mp hstart
      exact absurd (hfront.subset (by decide)) (hclasses type h)
  | listOf h =>
      unfold TypeText.listOf at hstart
      rw [String.toList_append, String.toList_append] at hstart
      cases hstart
  | mapOf h =>
      unfold TypeText.mapOf at hstart
      rw [String.toList_append, String.toList_append] at hstart
      cases hstart
  | optional h => exact ⟨_, h, rfl⟩

end IsTypeText

-- ====================================================== declarations

namespace ModelField

variable {f : ModelField}

/-- A field that must be there is declared with its type. -/
theorem declaredType_of_required (h : f.required = true) : f.declaredType = f.type := by
  unfold declaredType
  rw [h]
  rfl

/-- A field that may be missing is declared as anything or as an option. -/
theorem declaredType_of_optional {classes : List String}
    (hclasses : ∀ name ∈ classes, '[' ∉ name.toList) (htype : IsTypeText classes f.type)
    (h : f.required = false) :
    f.declaredType = TypeText.any
      ∨ ∃ inner, IsTypeText classes inner ∧ f.declaredType = TypeText.optional inner := by
  unfold declaredType
  split
  · exact Or.inr ⟨f.type, htype, rfl⟩
  · next hkept =>
    simp only [h, Bool.not_false, Bool.true_and, Bool.and_eq_true, bne_iff_ne, ne_eq,
      Bool.not_eq_true', not_and, Bool.not_eq_false] at hkept
    by_cases hany : f.type = TypeText.any
    · exact Or.inl hany
    · exact Or.inr (htype.exists_optional hclasses (hkept hany))

/-- A field that may be missing is declared with nothing as its default. -/
theorem declaration_of_optional (h : f.required = false) :
    f.declaration = f.name ++ ": " ++ f.declaredType
      ++ if f.wireName = f.name then " = None"
        else " = pydantic.Field(default=None, alias=" ++ Text.quoted f.wireName ++ ")" := by
  unfold declaration
  dsimp only
  rw [h]
  by_cases hwire : f.wireName = f.name
  · rw [if_pos hwire, if_pos hwire]
    rfl
  · have hstart : " = pydantic.Field(" ++ "default=None" ++ ", " ++ "alias="
        = " = pydantic.Field(default=None, alias=" := by decide
    rw [if_neg hwire, if_neg hwire, ← hstart]
    simp only [String.append_assoc]
    rfl

end ModelField

-- ====================================================== types of schemas

namespace Catalog

/-- The type of a text in a format has no parts. -/
theorem ofFormat_mem_simple (format : String) : TypeText.ofFormat format ∈ TypeText.simple := by
  unfold TypeText.ofFormat
  split <;> decide

/-- The type of a text has no parts. -/
theorem mem_simple_of_textType {schema : Value} {type : String} (h : textType schema = .ok type) :
    type ∈ TypeText.simple := by
  unfold textType at h
  split at h
  · rw [← Except.ok.inj h]
    exact ofFormat_mem_simple _
  · cases h
  · cases h
  · rw [← Except.ok.inj h]
    exact ofFormat_mem_simple _

/-- A schema that says what it is by itself has a type without parts. -/
theorem mem_simple_of_plainType {schema : Value} {type : String}
    (h : plainType schema = .ok (some type)) : type ∈ TypeText.simple := by
  unfold plainType at h
  split at h
  · cases htext : textType schema with
    | error f =>
        rw [htext] at h
        cases h
    | ok text =>
        rw [htext] at h
        rw [← Option.some.inj (Except.ok.inj h)]
        exact mem_simple_of_textType htext
  · rw [← Option.some.inj (Except.ok.inj h)]
    decide
  · rw [← Option.some.inj (Except.ok.inj h)]
    split <;> decide
  · rw [← Option.some.inj (Except.ok.inj h)]
    decide
  · cases h
  · cases h
  · split at h
    · cases h
    · split at h
      · rw [← Option.some.inj (Except.ok.inj h)]
        decide
      · rw [← Option.some.inj (Except.ok.inj h)]
        decide

/-- The classes of a catalog. -/
def classes (c : Catalog) : List String := c.classNames.map Prod.snd

/-- A reference leads to a class of the catalog. -/
theorem mem_classes_of_target? {c : Catalog} {ref className : String} {target : Value}
    (h : c.target? ref = some (className, target)) : className ∈ c.classes := by
  unfold target? at h
  simp only [Option.bind_eq_bind, Option.bind_eq_some_iff, Option.pure_def, Option.some.injEq,
    Prod.mk.injEq] at h
  obtain ⟨name, -, ⟨key, found⟩, hfind, hclass, -⟩ := h
  exact List.mem_map.mpr ⟨_, List.mem_of_find?_eq_some hfind, hclass⟩

/-- A reference to an object has the class of the object for its type. -/
theorem typeOf_of_target? {c : Catalog} {seen : List String} {schema target : Value}
    {ref className : String} (hmap : schema.isMap = true) (href : schema.ref? = some ref)
    (htarget : c.target? ref = some (className, target)) (hobject : isObject target = true) :
    c.typeOf schema seen = pure className := by
  unfold typeOf
  rw [typeWith]
  simp [hmap, href, htarget, hobject]

/-- The type of a schema is written over the classes of the catalog. -/
theorem isTypeText_typeWith {c : Catalog} {fresh : List String} {schema : Value} {type : String}
    (h : (c.typeWith fresh schema).outcome = .ok type) : IsTypeText c.classes type := by
  fun_induction c.typeWith fresh schema generalizing type with
  | case1 fresh schema hmap =>
      -- no mapping
      rw [← Except.ok.inj h]
      exact .any
  | case2 fresh schema hmap ref href htarget =>
      -- a reference that leads nowhere
      rw [← Except.ok.inj h]
      exact .any
  | case3 fresh schema hmap ref href className target htarget hobject =>
      -- a reference to an object
      rw [← Except.ok.inj h]
      exact .ofClass (mem_classes_of_target? htarget)
  | case4 fresh schema hmap ref href className target htarget hobject hfresh _ ih =>
      -- a reference to something else
      exact ih h
  | case5 fresh schema hmap ref href className target htarget hobject hfresh =>
      -- a reference that was followed before
      rw [← Except.ok.inj h]
      exact .any
  | case6 fresh schema hmap href part hparts _ ih =>
      -- a single part
      obtain ⟨inner, hinner, htype⟩ := Noted.outcome_bind_eq_ok_iff.mp h
      rw [← Except.ok.inj htype]
      exact (ih hinner).markNullable
  | case7 fresh schema hmap href parts hparts hsome =>
      -- parts
      rw [← Except.ok.inj h]
      exact (IsTypeText.any.mapOf).markNullable
  | case8 fresh schema hmap href hparts hchoice =>
      -- a choice
      rw [← Except.ok.inj h]
      exact .any
  | case9 fresh schema hmap href hparts hchoice fault hplain =>
      cases h
  | case10 fresh schema hmap href hparts hchoice plain hplain =>
      rw [← Except.ok.inj h]
      exact (IsTypeText.simple (mem_simple_of_plainType hplain)).withNull
  | case11 fresh schema hmap href hparts hchoice hplain harray items hitems _ ih =>
      obtain ⟨inner, hinner, htype⟩ := Noted.outcome_bind_eq_ok_iff.mp h
      rw [← Except.ok.inj htype]
      exact (ih hinner).listOf.withNull
  | case12 fresh schema hmap href hparts hchoice hplain harray hitems =>
      rw [← Except.ok.inj h]
      exact (IsTypeText.any.listOf).withNull
  | case13 fresh schema hmap href hparts hchoice hplain harray extra hextra hmapping _ ih =>
      obtain ⟨inner, hinner, htype⟩ := Noted.outcome_bind_eq_ok_iff.mp h
      rw [← Except.ok.inj htype]
      exact (ih hinner).mapOf.withNull
  | case14 fresh schema hmap href hparts hchoice hplain harray extra hextra hmapping =>
      rw [← Except.ok.inj h]
      exact (IsTypeText.any.mapOf).withNull
  | case15 fresh schema hmap href hparts hchoice hplain harray hextra =>
      rw [← Except.ok.inj h]
      exact (IsTypeText.any.mapOf).withNull

/-- The type of a schema is written as one, whatever was seen before. -/
theorem isTypeText_typeOf {c : Catalog} {schema : Value} {seen : List String} {type : String}
    (h : (c.typeOf schema seen).outcome = .ok type) : IsTypeText c.classes type :=
  isTypeText_typeWith h

end Catalog

end ApiCommands
