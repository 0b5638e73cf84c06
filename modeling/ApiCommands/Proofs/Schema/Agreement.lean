/-
Where the two readers of a composition agree.

The properties of a request body and the composed schema in one piece are read
from the same contributions, but not in the same way. The body reader takes the
properties of plain contributions, and a name is required as the last of them
that declares it says (`flag?_readMarks`). Merging takes the properties of all
contributions and of the schema itself, and what any of them requires is
required.

So the names agree exactly if no composed schema brings a name that no plain
contribution has, and the marks agree exactly if no name is required elsewhere
only (`readers_agree_iff`). Neither is sure: a schema may well declare properties
beside its parts, and require what a part declares.
-/
import ApiCommands.Proofs.Schema.BodyFields

namespace ApiCommands

-- ====================================================== marks of contributions

/-- Marks with different names say what each of them says. -/
theorem flag?_eq_some_of_mem {marks : List Mark} (h : (marks.map (·.1)).Nodup) {mark : Mark}
    (hmem : mark ∈ marks) : flag? marks mark.1 = some mark.2 := by
  induction marks with
  | nil => cases hmem
  | cons first rest ih =>
      obtain ⟨hfirst, hrest⟩ := List.nodup_cons.mp h
      rw [← List.singleton_append (l := rest), flag?_append]
      rcases List.mem_cons.mp hmem with rfl | hmem
      · have hnone : flag? rest mark.1 = none := by
          rw [← Option.not_isSome_iff_eq_none, flag?_isSome_iff]
          rintro ⟨other, hother, heq⟩
          exact hfirst (List.mem_map.mpr ⟨other, hother, heq⟩)
        rw [hnone, Option.none_or, flag?_singleton, if_pos rfl]
      · rw [ih hrest hmem, Option.some_or]

/-- Marks that are made from names say of these what they are made to say. -/
theorem flag?_map (f : String → Bool) (keys : List String) (key : String) :
    flag? (keys.map fun k => (k, f k)) key = if key ∈ keys then some (f key) else none := by
  induction keys with
  | nil => rfl
  | cons k rest ih =>
      rw [List.map_cons, ← List.singleton_append, flag?_append, ih, flag?_singleton]
      by_cases hrest : key ∈ rest
      · rw [if_pos hrest, if_pos (List.mem_cons_of_mem _ hrest), Option.some_or]
      · rw [if_neg hrest, Option.none_or]
        by_cases hk : key = k
        · rw [if_pos hk, hk, if_pos List.mem_cons_self]
        · rw [if_neg hk, if_neg (by simp [hk, hrest])]

namespace Value

variable {schema : Value} {key : String}

/-- The names of properties are the texts among the keys. -/
theorem mem_fieldKeys_iff :
    key ∈ schema.fieldKeys
      ↔ ∃ name, schema.declaredProperties.Has (.text name) ∧ Text.lowered name = key := by
  unfold fieldKeys
  rw [List.mem_map]
  refine exists_congr fun name => and_congr_left fun _ => ?_
  unfold Entries.Has
  simp only [Scalar.sameKey_text_iff]
  unfold typeNames
  rw [List.filterMap_map, List.mem_filterMap]
  refine exists_congr fun e => and_congr_right fun _ => ?_
  obtain ⟨k, v⟩ := e
  cases k <;> simp

theorem requires_iff :
    schema.requires key = true ↔ ∃ name ∈ schema.requiredTexts, Text.lowered name = key := by
  unfold requires
  rw [List.contains_iff_mem, List.mem_map]

end Value

namespace Api

variable {a : Api}

/-- The schema is plain and declares a property of this name. -/
def declaresPlainly (key : String) (c : Value) : Bool :=
  c.parts?.isNone && c.fieldKeys.contains key

/-- The last plain contribution that declares a name says whether it is required. -/
theorem flag?_readMarks (cs : List Value) (key : String) :
    flag? (cs.flatMap readMarks) key
      = (cs.reverse.find? (declaresPlainly key)).map (·.requires key) := by
  induction cs with
  | nil => rfl
  | cons c rest ih =>
      have hone : flag? (readMarks c) key
          = ([c].find? (declaresPlainly key)).map (·.requires key) := by
        unfold readMarks declaresPlainly
        cases hplain : c.parts?.isNone with
        | false => simp [hplain, flag?]
        | true =>
            unfold Value.marks
            rw [if_pos rfl, flag?_map]
            by_cases hkey : key ∈ c.fieldKeys <;> simp [hplain, hkey]
      rw [List.flatMap_cons, flag?_append, ih, hone, List.reverse_cons, List.find?_append,
        Option.map_or]

-- ====================================================== both readers

/-- A schema whose composition both readers can go through. -/
structure Composable (a : Api) (schema : Value) : Prop where
  /-- There is no reference beside the parts. -/
  noRef : schema.ref? = none
  /-- No schema on the way down contains itself. -/
  acyclic : a.Acyclic schema
  /-- Every part leads to a schema. -/
  complete : a.Complete schema
  /-- All schemas on the way down can be merged. -/
  mergeable : ∀ s, Relation.ReflTransGen a.HasPart schema s → s.IsMergeable
  /-- Those without parts are object schemas. -/
  objects : ∀ s, Relation.TransGen a.HasPart schema s → s.parts? = none → s.IsObject
  /-- The references of the schema and of the document can be read. -/
  readable : a.Readable (a.fresh [] schema)

namespace Composable

variable {schema : Value} {parts : List Value}

theorem grounded (h : a.Composable schema) : a.Grounded schema :=
  grounded_of_trail (a.references_subset_fresh schema) h.acyclic
    (a.node_references_subset_fresh schema) (.start _ schema)

/-- What parts contribute is below the schema. -/
theorem transGen_of_mem (hparts : schema.parts? = some parts) {cs : List Value}
    (hcs : a.Contributes parts cs) {c : Value} (hc : c ∈ cs) :
    Relation.TransGen a.HasPart schema c :=
  hcs.transGen_of_mem hc fun part hpart _ ht => ⟨parts, part, hparts, hpart, ht⟩

/-- The body reader gives a property for every name that a plain contribution declares, and the
last of these says whether it is required. -/
theorem exists_outcome_bodyFields (h : a.Composable schema) (hparts : schema.parts? = some parts)
    {cs : List Value} (hcs : a.Contributes parts cs) :
    ∃ fields, (a.bodyFields schema).outcome = .ok fields
      ∧ (∀ key, (∃ p ∈ fields, Text.lowered p.name = key)
          ↔ ∃ d, cs.reverse.find? (declaresPlainly key) = some d)
      ∧ ∀ p ∈ fields, ∃ d, cs.reverse.find? (declaresPlainly (Text.lowered p.name)) = some d
          ∧ d.requires (Text.lowered p.name) = p.required := by
  obtain ⟨fields, hfields, hflags⟩ := exists_outcome_partFieldsWith
    (a.references_subset_fresh schema) h.readable hcs h.grounded h.complete
    (a.node_references_subset_fresh schema) (.start _ schema) (List.Subset.refl _) hparts
    (fun _ hpart => hpart)
    (fun c hc hplain => h.objects c (transGen_of_mem hparts hcs hc) hplain)
  have hsaid : ∀ key, flag? ((fields.foldl BodyProperty.override []).map BodyProperty.mark) key
      = (cs.reverse.find? (declaresPlainly key)).map (·.requires key) := by
    intro key
    rw [flag?_foldl_override, List.nil_append, hflags, flag?_readMarks]
  have hnodup : (((fields.foldl BodyProperty.override []).map BodyProperty.mark).map
      (·.1)).Nodup := by
    have hnil : (([] : List BodyProperty).map fun p => Text.lowered p.name).Nodup :=
      List.nodup_nil
    rw [List.map_map]
    exact nodup_foldl_override hnil fields
  refine ⟨_, outcome_bodyFieldsWith_of_composed h.noRef hparts hfields, fun key => ?_,
    fun p hp => ?_⟩
  · rw [← Option.isSome_iff_exists, ← Option.isSome_map (f := (·.requires key)), ← hsaid,
      flag?_isSome_iff]
    simp only [List.mem_map, exists_exists_and_eq_and, BodyProperty.mark]
  · have hmark := flag?_eq_some_of_mem hnodup (List.mem_map.mpr ⟨p, hp, rfl⟩)
    rw [hsaid] at hmark
    exact Option.map_eq_some_iff.mp hmark

/-- The schema in one piece has the names of all contributions and its own, and requires what any
of them requires. -/
theorem exists_outcome_merged (h : a.Composable schema) (hmap : schema.isMap = true)
    (hparts : schema.parts? = some parts) {cs : List Value} (hcs : a.Contributes parts cs) :
    ∃ whole, (a.merged schema).outcome = .ok whole
      ∧ (∀ key, key ∈ whole.fieldKeys ↔ ∃ c ∈ cs ++ [schema], key ∈ c.fieldKeys)
      ∧ ∀ key, whole.requires key = true ↔ ∃ c ∈ cs ++ [schema], c.requires key = true := by
  have hmerge : ∀ c ∈ cs ++ [schema], c.IsMergeable := by
    intro c hc
    rcases List.mem_append.mp hc with hbelow | hlast
    · exact h.mergeable c (transGen_of_mem hparts hcs hbelow).to_reflTransGen
    · rw [List.mem_singleton.mp hlast]
      exact h.mergeable schema .refl
  obtain ⟨whole, hwhole, hproperties, hrequired⟩ :=
    Api.exists_outcome_merged h.grounded h.readable hmap hparts hcs hmerge
  refine ⟨whole, hwhole, fun key => ?_, fun key => ?_⟩
  · have hempty : ∀ k, ¬Contribution.empty.properties.Has k := by
      rintro k ⟨e, he, -⟩
      cases he
    simp only [Value.mem_fieldKeys_iff, hproperties, Contribution.has_properties_flat_iff, hempty,
      false_or]
    constructor
    · rintro ⟨name, ⟨c, hc, hhas⟩, hkey⟩
      exact ⟨c, hc, name, hhas, hkey⟩
    · rintro ⟨c, hc, name, hhas, hkey⟩
      exact ⟨name, ⟨c, hc, hhas⟩, hkey⟩
  · simp only [Value.requires_iff, hrequired]
    constructor
    · rintro ⟨name, ⟨c, hc, hmem⟩, hkey⟩
      exact ⟨c, hc, name, hmem, hkey⟩
    · rintro ⟨c, hc, name, hmem, hkey⟩
      exact ⟨name, ⟨c, hc, hmem⟩, hkey⟩

end Composable

/-- Where the two readers of a composition agree. Both answer, and both read the same contributions.
The names they give are the same exactly if every name that a composed schema declares beside its
parts is declared by a plain contribution too. A property is marked as required exactly where the
schema in one piece requires its name, exactly if, of each name that is required anywhere, the
last plain contribution that declares it requires it. -/
theorem readers_agree_iff {schema : Value} {parts : List Value} (h : a.Composable schema)
    (hparts : schema.parts? = some parts) :
    ∃ contributions fields whole, a.Contributes parts contributions
      ∧ (a.bodyFields schema).outcome = .ok fields
      ∧ (a.merged schema).outcome = .ok whole
      ∧ ((∀ key, (∃ p ∈ fields, Text.lowered p.name = key) ↔ key ∈ whole.fieldKeys)
          ↔ ∀ c ∈ contributions ++ [schema], ∀ key ∈ c.fieldKeys,
              ∃ d ∈ contributions, d.parts? = none ∧ key ∈ d.fieldKeys)
      ∧ ((∀ p ∈ fields, p.required = true ↔ whole.requires (Text.lowered p.name) = true)
          ↔ ∀ key d, contributions.reverse.find? (declaresPlainly key) = some d →
              (∃ c ∈ contributions ++ [schema], c.requires key = true) →
                d.requires key = true) := by
  have hmap : schema.isMap = true := by
    cases schema with
    | map _ => rfl
    | scalar _ => cases hparts
    | list _ => cases hparts
  obtain ⟨cs, hcs⟩ := exists_contributes h.grounded hparts
  obtain ⟨fields, hfields, hfound, hflags⟩ := h.exists_outcome_bodyFields hparts hcs
  obtain ⟨whole, hwhole, hkeys, hrequires⟩ := h.exists_outcome_merged hmap hparts hcs
  have hnames : ∀ key, (∃ p ∈ fields, Text.lowered p.name = key)
      ↔ ∃ d ∈ cs, d.parts? = none ∧ key ∈ d.fieldKeys := by
    intro key
    rw [hfound, ← Option.isSome_iff_exists, List.find?_isSome]
    simp [declaresPlainly]
  refine ⟨cs, fields, whole, hcs, hfields, hwhole, ?_, ?_⟩
  · constructor
    · intro hagree c hc key hkey
      exact (hnames key).mp ((hagree key).mpr ((hkeys key).mpr ⟨c, hc, hkey⟩))
    · intro hall key
      rw [hnames, hkeys]
      constructor
      · rintro ⟨d, hd, -, hkey⟩
        exact ⟨d, List.mem_append_left _ hd, hkey⟩
      · rintro ⟨c, hc, hkey⟩
        exact hall c hc key hkey
  · constructor
    · intro hagree key d hd hrequired
      obtain ⟨p, hp, rfl⟩ := (hfound key).mpr ⟨d, hd⟩
      obtain ⟨d', hd', hflag⟩ := hflags p hp
      obtain rfl := Option.some.inj (hd.symm.trans hd')
      rw [hflag]
      exact (hagree p hp).mpr ((hrequires _).mpr hrequired)
    · intro hall p hp
      obtain ⟨d, hd, hflag⟩ := hflags p hp
      have hmem : d ∈ cs := List.mem_reverse.mp (List.mem_of_find?_eq_some hd)
      rw [← hflag, hrequires]
      exact ⟨fun hrequired => ⟨d, List.mem_append_left _ hmem, hrequired⟩, hall _ d hd⟩

end Api

-- ====================================================== a property beside the parts

namespace SizedName

/-- A part with one property. -/
def part : Value :=
  .map [(.text "properties", .map [(.text "name", .map [(.text "type", .text "string")])])]

/-- A schema that declares a property beside its part, and requires that of the part. -/
def schema : Value :=
  .map
    [(.text "allOf", .list [part]),
     (.text "properties", .map [(.text "size", .map [(.text "type", .text "integer")])]),
     (.text "required", .list [.text "name"])]

/-- A document without anything. -/
def api : Api := .ofDocument (.map [])

theorem parts?_schema : schema.parts? = some [part] := by
  rfl

/-- The schema has its part, and no other. -/
theorem hasPart_schema_iff {t : Value} : api.HasPart schema t ↔ t = part := by
  have hpart : api.Chain part [] part := .here rfl rfl
  constructor
  · rintro ⟨parts, p, hparts, hmem, refs, hchain⟩
    obtain rfl := Option.some.inj (parts?_schema.symm.trans hparts)
    rw [List.mem_singleton.mp hmem] at hchain
    exact (hchain.unique hpart).2
  · rintro rfl
    exact ⟨[part], part, parts?_schema, List.mem_singleton_self _, [], hpart⟩

/-- The part has no parts. -/
theorem not_hasPart_part (t : Value) : ¬api.HasPart part t := by
  rintro ⟨parts, p, hparts, -⟩
  cases hparts

/-- Below the schema is its part, and nothing else. -/
theorem eq_part_of_transGen {s : Value} (h : Relation.TransGen api.HasPart schema s) :
    s = part := by
  induction h with
  | single h => exact hasPart_schema_iff.mp h
  | tail _ h ih =>
      rw [ih] at h
      exact absurd h (not_hasPart_part _)

/-- On the way down are the schema and its part. -/
theorem eq_of_reflTransGen {s : Value} (h : Relation.ReflTransGen api.HasPart schema s) :
    s = schema ∨ s = part := by
  rcases Relation.reflTransGen_iff_eq_or_transGen.mp h with heq | hbelow
  · exact Or.inl heq
  · exact Or.inr (eq_part_of_transGen hbelow)

/-- Both readers can go through the schema. -/
theorem composable : api.Composable schema where
  noRef := rfl
  acyclic := by
    intro s hs hcycle
    rcases eq_of_reflTransGen hs with rfl | rfl
    · have hparts := parts?_schema
      rw [eq_part_of_transGen hcycle] at hparts
      cases hparts
    · obtain ⟨t, hpart, -⟩ := Relation.TransGen.head'_iff.mp hcycle
      exact not_hasPart_part t hpart
  complete := by
    intro s hs parts hparts p hp
    rcases eq_of_reflTransGen hs with rfl | rfl
    · obtain rfl := Option.some.inj (parts?_schema.symm.trans hparts)
      rw [List.mem_singleton.mp hp]
      exact ⟨part, [], .here rfl rfl⟩
    · cases hparts
  mergeable := by
    intro s hs
    rcases eq_of_reflTransGen hs with rfl | rfl
    · refine ⟨⟨_, rfl⟩, fun _ v hv => Or.inl ?_⟩
      obtain rfl := Option.some.inj hv
      rfl
    · exact ⟨⟨_, rfl⟩, fun hparts => by cases hparts⟩
  objects := by
    intro s hs _
    rw [eq_part_of_transGen hs]
    refine ⟨rfl, ⟨_, rfl⟩, fun e he => ⟨"name", ?_⟩⟩
    rw [List.mem_singleton.mp he]
  readable := by
    intro ref href
    have hschema : schema.references = [] := by decide
    have hdocument : api.references = [] := by decide
    rw [Api.mem_fresh_iff, hschema, hdocument] at href
    rcases href.1 with hnone | hnone <;> cases hnone

end SizedName

/-- For a property beside the parts, and for a name that is required beside the part that declares
it, the two readers disagree. -/
theorem Api.sizedName_readers_disagree :
    SizedName.api.Composable SizedName.schema ∧ SizedName.schema.parts? = some [SizedName.part]
      ∧ ∃ fields whole, (SizedName.api.bodyFields SizedName.schema).outcome = .ok fields
          ∧ (SizedName.api.merged SizedName.schema).outcome = .ok whole
          ∧ ¬(∀ key, (∃ p ∈ fields, Text.lowered p.name = key) ↔ key ∈ whole.fieldKeys)
          ∧ ¬∀ p ∈ fields, p.required = true
              ↔ whole.requires (Text.lowered p.name) = true := by
  obtain ⟨contributions, fields, whole, hcs, hfields, hwhole, hnames, hmarks⟩ :=
    Api.readers_agree_iff SizedName.composable SizedName.parts?_schema
  have hpart : SizedName.api.Leads SizedName.part SizedName.part := ⟨[], .here rfl rfl⟩
  obtain rfl : contributions = [SizedName.part] := hcs.unique (.plain hpart rfl .nil)
  refine ⟨SizedName.composable, SizedName.parts?_schema, fields, whole, hfields, hwhole,
    fun hagree => ?_, fun hagree => ?_⟩
  · obtain ⟨d, hd, -, hkey⟩ :=
      hnames.mp hagree SizedName.schema (by simp) "size" (by decide)
    rw [List.mem_singleton.mp hd] at hkey
    revert hkey
    decide
  · have hrequires := hmarks.mp hagree "name" SizedName.part (by rfl)
      ⟨SizedName.schema, by simp, by decide⟩
    revert hrequires
    decide

end ApiCommands
