/-
Classes of a model module.

# One class for every schema

Class names are claimed in the order of the schemas, with the imports taken from
the start (`ofApi_spec`). So no two of them are the same up to case, and none is
an import in any case; and as all candidates for classes are public, so are the classes
(`isPublic_of_mem_classes`).

# Types that need no import

Such types are not taken from the start. What keeps classes away from them is that
words are capitalised, and this is seen in a name as long as it is ASCII
(`not_isLower_of_filter_pascal`). A capital of another script is dropped when the name
is made an identifier, and what stood behind it comes to the front. So a class can be
called like a type, and it is if a schema comes to that name before any comes to it
in another case (`class_hides_builtin_iff`).
-/
import ApiCommands.Naming.Tables.Standard
import ApiCommands.Proofs.Artifact.Model.Names
import ApiCommands.Proofs.Artifact.Model.TypeText
import ApiCommands.Proofs.Naming.Words

namespace ApiCommands

-- ====================================================== classes and types

namespace ModelNames

open Identifier (isWordChar)

/-- A word that starts with a small letter stays as it is when it is made public, and nothing else
becomes one. -/
theorem guardUnderscore_eq_iff {s b : String} (hsmall : b.toList.head?.any Char.isLower = true) :
    guardUnderscore s = b ↔ s = b := by
  have hfirst : ∀ c : Char, c.isLower = false → b.toList.head? ≠ some c := by
    intro c hc hhead
    rw [hhead] at hsmall
    exact absurd hsmall (by simp [hc])
  unfold guardUnderscore
  split
  · next hunderscore =>
    obtain ⟨rest, hrest⟩ := List.isPrefixOf_iff_prefix.mp hunderscore
    refine iff_of_false ?_ ?_
    · rintro rfl
      refine hfirst 'M' (by decide) ?_
      rw [String.toList_append]
      rfl
    · rintro rfl
      refine hfirst '_' (by decide) ?_
      rw [← hrest]
      rfl
  · exact Iff.rfl

/-- How types that need no import are spelled: without capitals, with a letter at both ends, and
like no keyword. -/
theorem spelling_of_mem_builtinTypes {b : String} (h : b ∈ builtinTypes) :
    b.toList.head?.any Char.isLower = true ∧ b.toList.getLast?.any Char.isDigit = false
      ∧ b ∉ keywords ∧ Text.lowered b = b := by
  have hall : ∀ b ∈ builtinTypes, b.toList.head?.any Char.isLower = true
      ∧ b.toList.getLast?.any Char.isDigit = false ∧ b ∉ keywords ∧ Text.lowered b = b := by
    decide
  exact hall b h

/-- Such a type is what a schema is called exactly if it is what is usable of its name in
capitals. -/
theorem classBase_eq_ok_iff {t : Tables} {key : Scalar} {b : String} (hb : b ∈ builtinTypes) :
    classBase t key = .ok b
      ↔ ∃ s, key = .text s ∧ (t.pascal s).toList.filter isWordChar = b.toList := by
  obtain ⟨hsmall, -, hkeyword, -⟩ := spelling_of_mem_builtinTypes hb
  have hstart : b.toList.head?.any Char.isAlpha = true := by
    cases hhead : b.toList.head? with
    | none =>
        rw [hhead] at hsmall
        cases hsmall
    | some c =>
        rw [hhead] at hsmall
        exact Bool.or_eq_true_iff.mpr (Or.inr hsmall)
  unfold classBase
  split
  · next name =>
    simp only [Scalar.text.injEq, exists_eq_left', Except.ok.injEq]
    rw [guardUnderscore_eq_iff hsmall, Identifier.ofString_eq_iff hstart hkeyword]
  · next hkey =>
    refine iff_of_false (fun h => ?_) ?_
    · split at h
      · cases h
      · have hplaceholder := (guardUnderscore_eq_iff hsmall).mp (Except.ok.inj h)
        rw [← hplaceholder] at hsmall
        exact absurd hsmall (by decide)
    · rintro ⟨s, rfl, -⟩
      exact hkey s rfl

/-- A name that is ASCII and has words is usable from a capital or a digit on. -/
theorem not_isLower_of_filter_pascal {t : Tables} {s : String}
    (hascii : ∀ c ∈ Words.prepared t s.toList, c.toNat < 128)
    (hany : ∃ c ∈ Words.prepared t s.toList, Text.isAlphanumeric c = true) :
    ((t.pascal s).toList.filter isWordChar).head?.any Char.isLower = false := by
  unfold Tables.pascal Words.pascal
  rw [String.toList_ofList]
  split
  · next hblank =>
    rw [Identifier.filter_isWordChar_of_isBlank hblank]
    rfl
  · have hwords : Words.FallsInto (Words.prepared t s.toList) (Words.splitWords t s.toList) :=
      Words.fallsInto_ofPrepared _
    split
    · next hnone =>
      obtain ⟨c, hc, halnum⟩ := hany
      have hmem := List.mem_filter.mpr ⟨hc, halnum⟩
      rw [← hwords.flatten_eq, hnone] at hmem
      cases hmem
    · next words hsome =>
      cases hfirst : Words.splitWords t s.toList with
      | nil => exact absurd hfirst hsome
      | cons word more =>
          obtain ⟨c, rest, rfl⟩ :=
            List.exists_cons_of_ne_nil (hwords.ne_nil word (by rw [hfirst]; exact List.mem_cons_self))
          -- the first character of the first word is ASCII, and so is its capital
          have hc : Words.IsPlain c := by
            have hmem : c ∈ (Words.splitWords t s.toList).flatten := by
              rw [hfirst]
              exact List.mem_cons_self
            rw [hwords.flatten_eq] at hmem
            obtain ⟨hin, halnum⟩ := List.mem_filter.mp hmem
            exact ⟨hascii c hin, halnum⟩
          have hcapital : isWordChar c.toUpper = true ∧ c.toUpper.isLower = false :=
            hc.of_all (p := fun c => isWordChar c.toUpper = true ∧ c.toUpper.isLower = false)
              (by decide)
          rw [List.map_cons, List.flatten_cons, Words.capitalize, Text.upperChar, if_pos hc.1,
            List.singleton_append, List.cons_append, List.filter_cons_of_pos hcapital.1]
          exact hcapital.2

end ModelNames

-- ====================================================== names of classes

namespace Catalog

variable {attributes : List String} {t : Tables} {a : Api} {c : Catalog}

/-- A catalog is made of the attributes, the tables, the API and a class for every schema, named one
after the other with the imports taken. -/
theorem ofApi_spec (h : ofApi attributes t a = .ok c) :
    c.attributes = attributes ∧ c.tables = t ∧ c.api = a
      ∧ c.classNames.map Prod.fst = a.schemas.map Prod.fst
      ∧ ∃ base : Scalar → String, (∀ e ∈ a.schemas, ModelNames.classBase t e.1 = .ok (base e.1))
        ∧ c.classes = (Taken.ofList ModelNames.imports).claimAll
            (a.schemas.map fun e => .numbered (base e.1) "") := by
  obtain ⟨bases, hbases, hc⟩ := Except.bind_eq_ok_iff.mp h
  obtain ⟨rfl, hall⟩ := Except.eq_map_of_mapM
    (g := fun key => (ModelNames.classBase t key).toOption.getD "")
    (fun key base hbase => by rw [hbase]; rfl) hbases
  rw [List.forall_mem_map] at hall
  obtain rfl := Except.ok.inj hc
  refine ⟨rfl, rfl, rfl, ?_, fun key => (ModelNames.classBase t key).toOption.getD "", hall, ?_⟩
  · rw [List.map_fst_zip]
    rw [Taken.length_claimAll]
    simp only [List.length_map, le_refl]
  · unfold classes
    rw [List.map_snd_zip, List.map_map, List.map_map]
    · rfl
    · rw [Taken.length_claimAll]
      simp only [List.length_map, le_refl]

/-- No two classes are the same up to case. -/
theorem nodup_classes (h : ofApi attributes t a = .ok c) : (c.classes.map Text.lowered).Nodup := by
  obtain ⟨-, -, -, -, base, -, hclasses⟩ := ofApi_spec h
  rw [hclasses]
  exact Taken.nodup_claimAll _ _

/-- There is a class for every schema. -/
theorem length_classes (h : ofApi attributes t a = .ok c) : c.classes.length = a.schemas.length := by
  obtain ⟨-, -, -, -, base, -, hclasses⟩ := ofApi_spec h
  rw [hclasses, Taken.length_claimAll, List.length_map]

/-- A class has a public name. -/
theorem isPublic_of_mem_classes (h : ofApi attributes t a = .ok c) {name : String}
    (hname : name ∈ c.classes) :
    ModelNames.IsPublic name := by
  obtain ⟨-, -, -, -, base, hbase, hclasses⟩ := ofApi_spec h
  rw [hclasses] at hname
  obtain ⟨chain, hchain, hhas⟩ := Taken.exists_has_of_mem_claimAll _ hname
  obtain ⟨e, he, rfl⟩ := List.mem_map.mp hchain
  exact ModelNames.isPublic_of_has (ModelNames.isPublic_of_classBase (hbase e he)) hhas

/-- No class is an import, in any case. -/
theorem lowered_ne_of_mem_imports (h : ofApi attributes t a = .ok c) {name taken : String}
    (hname : name ∈ c.classes) (htaken : taken ∈ ModelNames.imports) :
    Text.lowered name ≠ Text.lowered taken := by
  obtain ⟨-, -, -, -, base, -, hclasses⟩ := ofApi_spec h
  rw [hclasses] at hname
  exact Taken.contains_ofList_eq_false_iff.mp (Taken.claimAll_free _ hname) taken htaken

/-- A type that needs no import is a class exactly if a schema comes to it, and none before comes to
it in any case. -/
theorem mem_classes_iff_of_builtin (h : ofApi attributes t a = .ok c) {b : String}
    (hb : b ∈ ModelNames.builtinTypes) :
    b ∈ c.classes
      ↔ ∃ before e after, a.schemas = before ++ e :: after
        ∧ ModelNames.classBase t e.1 = .ok b
        ∧ ∀ f ∈ before, ∀ base, ModelNames.classBase t f.1 = .ok base → Text.lowered base ≠ b := by
  obtain ⟨-, hlast, -, hlowered⟩ := ModelNames.spelling_of_mem_builtinTypes hb
  obtain ⟨-, -, -, -, base, hbase, hclasses⟩ := ofApi_spec h
  have hfree : (Taken.ofList ModelNames.imports).contains b = false := by
    have hall : ∀ b ∈ ModelNames.builtinTypes,
        (Taken.ofList ModelNames.imports).contains b = false := by decide
    exact hall b hb
  have honly : ∀ (e : Scalar × Value) (other : String),
      (Candidates.numbered (base e.1) "").Has other → Text.lowered other = Text.lowered b →
        other = base e.1 := by
    rintro e other (hfirst | ⟨i, rfl⟩) heq
    · exact List.mem_singleton.mp hfirst
    · -- a numbered candidate ends in a digit in lower case as well
      unfold Candidates.tailAt at heq
      rw [Text.lowered_append_toString, hlowered] at heq
      rw [← heq, Text.any_isDigit_append_toString] at hlast
      cases hlast
  have hmem : ∀ {before after e}, a.schemas = before ++ e :: after →
      e ∈ a.schemas ∧ ∀ f ∈ before, f ∈ a.schemas := by
    intro before after e hsplit
    rw [hsplit]
    exact ⟨List.mem_append_right _ List.mem_cons_self, fun f hf => List.mem_append_left _ hf⟩
  rw [hclasses, Taken.mem_claimAll_map_iff _ (fun _ => rfl) honly, and_iff_right hfree, hlowered,
    List.find?_map, Option.map_eq_some_iff]
  simp only [List.find?_eq_some_iff_append, Function.comp_apply, beq_iff_eq, Bool.not_eq_true',
    beq_eq_false_iff_ne, ne_eq]
  constructor
  · rintro ⟨e, ⟨-, before, after, hsplit, hbefore⟩, rfl⟩
    refine ⟨before, e, after, hsplit, hbase e (hmem hsplit).1, fun f hf other hother => ?_⟩
    obtain rfl := Except.ok.inj ((hbase f ((hmem hsplit).2 f hf)).symm.trans hother)
    exact hbefore f hf
  · rintro ⟨before, e, after, hsplit, hname, hbefore⟩
    have heq : base e.1 = b := Except.ok.inj ((hbase e (hmem hsplit).1).symm.trans hname)
    refine ⟨e, ⟨by rw [heq, hlowered], before, after, hsplit, fun f hf => ?_⟩, heq⟩
    exact hbefore f hf _ (hbase f ((hmem hsplit).2 f hf))

/-- No class is an import. A type that needs no import is a class exactly if a schema is called so in
capitals, what is not usable of it left out, and no schema before comes to the same name in any
case. Then a character of the schema's name is not ASCII, unless there is no word in it. -/
theorem class_hides_builtin_iff (h : ofApi attributes t a = .ok c) :
    (∀ name ∈ c.classes, name ∉ ModelNames.imports)
      ∧ ∀ b ∈ ModelNames.builtinTypes,
        (b ∈ c.classes
          ↔ ∃ before s node after, a.schemas = before ++ (.text s, node) :: after
            ∧ (t.pascal s).toList.filter Identifier.isWordChar = b.toList
            ∧ ∀ f ∈ before, ∀ base, ModelNames.classBase t f.1 = .ok base →
              Text.lowered base ≠ b)
        ∧ ∀ s, (t.pascal s).toList.filter Identifier.isWordChar = b.toList →
          (∃ ch ∈ Words.prepared t s.toList, 128 ≤ ch.toNat)
            ∨ ∀ ch ∈ Words.prepared t s.toList, Text.isAlphanumeric ch = false := by
  refine ⟨fun name hname htaken => lowered_ne_of_mem_imports h hname htaken rfl,
    fun b hb => ⟨?_, fun s hs => ?_⟩⟩
  · rw [mem_classes_iff_of_builtin h hb]
    constructor
    · rintro ⟨before, ⟨key, node⟩, after, hsplit, hname, hbefore⟩
      obtain ⟨s, rfl, hs⟩ := (ModelNames.classBase_eq_ok_iff hb).mp hname
      exact ⟨before, s, node, after, hsplit, hs, hbefore⟩
    · rintro ⟨before, s, node, after, hsplit, hs, hbefore⟩
      exact ⟨before, _, after, hsplit, (ModelNames.classBase_eq_ok_iff hb).mpr ⟨s, rfl, hs⟩, hbefore⟩
  · by_contra hplain
    rw [not_or] at hplain
    push Not at hplain
    obtain ⟨hascii, c, hc, halnum⟩ := hplain
    have hcapital := ModelNames.not_isLower_of_filter_pascal hascii ⟨c, hc, by simpa using halnum⟩
    rw [hs, (ModelNames.spelling_of_mem_builtinTypes hb).1] at hcapital
    cases hcapital

end Catalog

-- ====================================================== a list of users

namespace UserList

/-- A document with a schema whose name ends in that of a type. -/
def document : Value := .map [(.text "components", .map [(.text "schemas", .map
  [(.text "用户list", .map [(.text "type", .text "object")])])])]

/-- Its class. -/
def catalog : Catalog :=
  ⟨ModelNames.standardAttributes, .standard, .ofDocument document, [(.text "用户list", "list")]⟩

end UserList

/-- The first two letters have no capitals and are dropped, and what is left is a type. -/
theorem Catalog.userList_hides_list :
    ofApi ModelNames.standardAttributes .standard (.ofDocument UserList.document)
        = .ok UserList.catalog
      ∧ "list" ∈ ModelNames.builtinTypes ∧ "list" ∈ UserList.catalog.classes := by
  have hbases : [Scalar.text "用户list"].mapM (ModelNames.classBase .standard) = .ok ["list"] := by
    decide +kernel
  have hnames : (Taken.ofList ModelNames.imports).claimAll
      (["list"].map (Candidates.numbered · "")) = ["list"] := by
    decide
  have hcatalog : ofApi ModelNames.standardAttributes .standard (.ofDocument UserList.document)
      = .ok UserList.catalog := by
    refine Except.bind_eq_ok_iff.mpr ⟨["list"], hbases, ?_⟩
    rw [hnames]
    rfl
  have hbuiltin : "list" ∈ ModelNames.builtinTypes := by decide
  refine ⟨hcatalog, hbuiltin, ?_⟩
  obtain ⟨-, hclass⟩ := class_hides_builtin_iff hcatalog
  refine (hclass "list" hbuiltin).1.mpr ⟨[], "用户list", _, [], rfl, by decide +kernel, ?_⟩
  intro f hf
  cases hf

end ApiCommands
