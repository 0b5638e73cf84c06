/-
Merging a composition: the flat reading.

# Laying schemas over each other

A schema lays its properties and required names over those of others
(`Contribution.lay`). Merging composed parts one by one comes to laying all
contributions over each other, depth first (`Contribution.flat`). For that a
part in one piece must lay over others what its contributions would
(`lay_close`). It does since what is gathered is a mapping: entries that are
set in a mapping first may as well be set after it.

# Merging is finite

Parts are entered through fresh references. Where the way down from a schema
ends, the references that are not fresh lead to schemas it is inside of, so
each part that has to be entered can be. The induction in
`outcome_gatherWith` is on the contributions: it follows the parts and, for a
composed one, its own parts.
-/
import ApiCommands.Proofs.Schema.Composition
import ApiCommands.Schema.Composition

namespace ApiCommands

namespace Value

/-- The properties a schema declares itself. -/
def declaredProperties (schema : Value) : Entries := schema.properties?.getD []

/-- The texts among what a schema requires itself. -/
def requiredTexts (schema : Value) : List String :=
  match schema.requiredNames with
  | .ok names => names
  | .error _ => []

/-- What a schema needs for being merged: one can go through what it requires, and if it has parts,
then its properties are a mapping or nothing. -/
structure IsMergeable (schema : Value) : Prop where
  required : ∃ items, schema.requiredElements = .ok items
  properties : schema.parts?.isSome → ∀ v, schema.get? "properties" = some v →
    v.isMap = true ∨ v.isTruthy = false

theorem requiredNames_of_elements {schema : Value} {items : List Value}
    (h : schema.requiredElements = .ok items) : schema.requiredNames = .ok (typeNames items) := by
  unfold requiredNames
  rw [h]
  rfl

theorem requiredTexts_of_elements {schema : Value} {items : List Value}
    (h : schema.requiredElements = .ok items) : schema.requiredTexts = typeNames items := by
  unfold requiredTexts
  rw [requiredNames_of_elements h]

/-- The required names of a schema that can be merged are its required texts. -/
theorem IsMergeable.requiredNames {schema : Value} (h : schema.IsMergeable) :
    schema.requiredNames = .ok schema.requiredTexts := by
  obtain ⟨items, hitems⟩ := h.required
  rw [requiredNames_of_elements hitems, requiredTexts_of_elements hitems]

theorem typeNames_append (items more : List Value) :
    typeNames (items ++ more) = typeNames items ++ typeNames more :=
  List.filterMap_append

theorem typeNames_map_text (names : List String) : typeNames (names.map text) = names := by
  unfold typeNames
  rw [List.filterMap_map]
  exact List.filterMap_some

/-- The names in a list of types are the texts in it. -/
theorem mem_typeNames_iff {items : List Value} {name : String} :
    name ∈ typeNames items ↔ text name ∈ items := by
  unfold typeNames
  rw [List.mem_filterMap]
  constructor
  · rintro ⟨item, hitem, hname⟩
    split at hname
    · obtain rfl := Option.some.inj hname
      exact hitem
    · cases hname
  · exact fun hitem => ⟨text name, hitem, rfl⟩

end Value

namespace Contribution

-- ====================================================== required names

theorem mem_require_iff {names : List String} {name other : String} :
    other ∈ require names name ↔ other ∈ names ∨ other = name := by
  unfold require
  split
  · next hmem =>
    constructor
    · exact Or.inl
    · rintro (hother | rfl)
      · exact hother
      · simpa using hmem
  · simp

/-- Requiring several names requires each. -/
theorem mem_foldl_require_iff {names more : List String} {name : String} :
    name ∈ more.foldl require names ↔ name ∈ names ∨ name ∈ more := by
  induction more generalizing names with
  | nil => simp
  | cons first rest ih =>
      rw [List.foldl_cons, ih, mem_require_iff, List.mem_cons, or_assoc]

/-- A name that is required already is not required again. -/
theorem require_of_mem {names : List String} {name : String} (h : name ∈ names) :
    require names name = names :=
  if_pos (by simpa using h)

/-- Names can be required together first or one by one. -/
theorem foldl_require_foldl (base names more : List String) :
    (more.foldl require names).foldl require base
      = more.foldl require (names.foldl require base) := by
  induction more generalizing names with
  | nil => rfl
  | cons first rest ih =>
      rw [List.foldl_cons, List.foldl_cons, ih]
      refine congrArg (rest.foldl require) ?_
      by_cases hmem : first ∈ names
      · rw [require_of_mem hmem, require_of_mem (mem_foldl_require_iff.mpr (Or.inr hmem))]
      · have hadd : require names first = names ++ [first] := if_neg (by simpa using hmem)
        rw [hadd, List.foldl_append]
        rfl

/-- Names that are required already can be left out. -/
theorem foldl_require_filter {base names : List String} (h : ∀ name ∈ names, name ∈ base)
    (more : List String) :
    (more.filter (!names.contains ·)).foldl require base = more.foldl require base := by
  induction more generalizing base with
  | nil => rfl
  | cons first rest ih =>
      rw [List.foldl_cons]
      by_cases hmem : first ∈ names
      · rw [List.filter_cons_of_neg (by simpa using hmem), require_of_mem (h first hmem), ih h]
      · rw [List.filter_cons_of_pos (by simpa using hmem), List.foldl_cons]
        exact ih fun name hname => mem_require_iff.mpr (Or.inl (h name hname))

-- ====================================================== laying over

/-- The contribution with that of a schema laid over it. -/
def lay (g : Contribution) (schema : Value) : Contribution :=
  ⟨g.properties.insertAll schema.declaredProperties, schema.requiredTexts.foldl require g.required⟩

/-- The contribution with those of schemas laid over it, one after the other. -/
def flat (g : Contribution) (schemas : List Value) : Contribution := schemas.foldl lay g

/-- One contribution laid over another. -/
def overlay (g c : Contribution) : Contribution :=
  ⟨g.properties.insertAll c.properties, c.required.foldl require g.required⟩

variable {g c : Contribution} {schema : Value}

theorem absorb_eq (h : schema.IsMergeable) (g : Contribution) :
    g.absorb schema = .ok (g.lay schema) := by
  unfold absorb
  rw [h.requiredNames]
  rfl

/-- Schemas can be laid over in two turns. -/
theorem flat_append (g : Contribution) (schemas more : List Value) :
    g.flat (schemas ++ more) = (g.flat schemas).flat more :=
  List.foldl_append

/-- What is gathered is a mapping. -/
theorem isMapping_flat (h : g.properties.IsMapping) (schemas : List Value) :
    (g.flat schemas).properties.IsMapping := by
  induction schemas generalizing g with
  | nil => exact h
  | cons first rest ih => exact ih (g := g.lay first) (h.insertAll _)

/-- Laid over each other, schemas require what any of them requires. -/
theorem mem_required_flat_iff {schemas : List Value} {name : String} :
    name ∈ (g.flat schemas).required
      ↔ name ∈ g.required ∨ ∃ c ∈ schemas, name ∈ c.requiredTexts := by
  induction schemas generalizing g with
  | nil => simp [flat]
  | cons first rest ih =>
      have hfirst : name ∈ (g.lay first).required
          ↔ name ∈ g.required ∨ name ∈ first.requiredTexts := mem_foldl_require_iff
      rw [List.exists_mem_cons_iff, ← or_assoc, ← hfirst]
      exact ih

/-- Laid over each other, schemas have the keys that any of them has. -/
theorem has_properties_flat_iff {schemas : List Value} {key : Scalar} :
    (g.flat schemas).properties.Has key
      ↔ g.properties.Has key ∨ ∃ c ∈ schemas, c.declaredProperties.Has key := by
  induction schemas generalizing g with
  | nil => simp [flat]
  | cons first rest ih =>
      have hfirst : (g.lay first).properties.Has key
          ↔ g.properties.Has key ∨ first.declaredProperties.Has key := Entries.has_insertAll_iff
      rw [List.exists_mem_cons_iff, ← or_assoc, ← hfirst]
      exact ih

/-- A schema can be laid over the upper contribution or over both. -/
theorem overlay_lay (hc : c.properties.IsMapping) (schema : Value) :
    g.overlay (c.lay schema) = (g.overlay c).lay schema := by
  unfold overlay lay
  dsimp only
  rw [Entries.insertAll_insertAll hc, foldl_require_foldl]

/-- So can several. -/
theorem overlay_flat (hc : c.properties.IsMapping) (schemas : List Value) :
    g.overlay (c.flat schemas) = (g.overlay c).flat schemas := by
  induction schemas generalizing c with
  | nil => rfl
  | cons first rest ih =>
      have hrest := ih (c := c.lay first) (hc.insertAll _)
      rw [overlay_lay hc] at hrest
      exact hrest

-- ====================================================== a composed schema in one piece

/-- The properties of a composed schema are laid over the gathered ones. -/
theorem ownProperties_eq {base : Entries} (h : schema.IsMergeable) (hparts : schema.parts?.isSome) :
    ownProperties base schema = .ok (base.insertAll schema.declaredProperties) := by
  unfold ownProperties Value.declaredProperties Value.properties?
  cases hget : schema.get? "properties" with
  | none => rfl
  | some v =>
      cases v with
      | map own => rfl
      | scalar s =>
          have hfalsy := (h.properties hparts _ hget).resolve_left Bool.false_ne_true
          dsimp only
          rw [hfalsy]
          rfl
      | list items =>
          have hfalsy := (h.properties hparts _ hget).resolve_left Bool.false_ne_true
          dsimp only
          rw [hfalsy]
          rfl

/-- Of what a composed schema requires, the gathered names are left out. -/
theorem exists_ownRequired_eq (h : schema.IsMergeable) (names : List String) :
    ∃ required, ownRequired names schema = .ok required
      ∧ Value.typeNames required = names ++ schema.requiredTexts.filter (!names.contains ·) := by
  obtain ⟨items, hitems⟩ := h.required
  unfold ownRequired
  rw [hitems]
  refine ⟨_, rfl, ?_⟩
  rw [Value.typeNames_append, Value.typeNames_map_text, Value.requiredTexts_of_elements hitems]
  refine congrArg (names ++ ·) ?_
  unfold Value.typeNames
  rw [List.filter_filterMap, List.filterMap_filter]
  refine List.filterMap_congr fun item _ => ?_
  cases item with
  | list items => rfl
  | map entries => rfl
  | scalar s => cases s <;> simp [Option.filter]

/-- A composed schema in one piece: its properties are laid over those gathered, and the gathered
names stand before its own. -/
theorem exists_close_eq {entries : Entries} (h : (Value.map entries).IsMergeable)
    (hparts : (Value.map entries).parts?.isSome) (c : Contribution) :
    ∃ whole, c.close entries = .ok whole
      ∧ (Value.map whole).declaredProperties = (c.lay (.map entries)).properties
      ∧ (Value.map whole).requiredTexts = c.required
          ++ (Value.map entries).requiredTexts.filter (!c.required.contains ·)
      ∧ (Value.map whole).IsMergeable := by
  obtain ⟨required, hrequired, hnames⟩ := exists_ownRequired_eq h c.required
  unfold close
  rw [ownProperties_eq h hparts, hrequired]
  have hproperties : ∀ (typed properties : Entries), (Value.map ((typed.insert (.text "properties")
      (.map properties)).insert (.text "required") (.list required))).get? "properties"
        = some (.map properties) := by
    intro typed properties
    rw [Entries.get?_map_insert, Entries.get?_map_insert]
    rfl
  have helements : ∀ (typed properties : Entries), (Value.map ((typed.insert (.text "properties")
      (.map properties)).insert (.text "required") (.list required))).requiredElements
        = .ok required := by
    intro typed properties
    unfold Value.requiredElements
    rw [Entries.get?_map_insert]
    rfl
  refine ⟨_, rfl, ?_, ?_, ⟨_, helements _ _⟩, ?_⟩
  · unfold Value.declaredProperties Value.properties?
    rw [hproperties]
    rfl
  · rw [Value.requiredTexts_of_elements (helements _ _), hnames]
  · intro _ v hv
    rw [hproperties] at hv
    obtain rfl := Option.some.inj hv
    exact Or.inl rfl

/-- A composed schema in one piece lays over others what its parts and it would. -/
theorem lay_close {entries whole : Entries} (hc : c.properties.IsMapping)
    (hproperties : (Value.map whole).declaredProperties = (c.lay (.map entries)).properties)
    (hrequired : (Value.map whole).requiredTexts = c.required
      ++ (Value.map entries).requiredTexts.filter (!c.required.contains ·)) (g : Contribution) :
    g.lay (.map whole) = (g.overlay c).lay (.map entries) := by
  rw [← overlay_lay hc]
  unfold lay overlay
  rw [hproperties, hrequired]
  dsimp only [lay]
  rw [List.foldl_append, foldl_require_foldl, foldl_require_filter]
  exact fun name hname => mem_foldl_require_iff.mpr (Or.inr hname)

/-- A composed schema that was closed over its contributions lays over others what they and it
would. -/
theorem lay_of_close_flat {entries whole : Entries} {ds : List Value}
    (h : (Value.map entries).IsMergeable) (hparts : (Value.map entries).parts?.isSome)
    (hclose : (empty.flat ds).close entries = .ok whole) :
    (Value.map whole).IsMergeable
      ∧ ∀ g : Contribution, g.lay (.map whole) = g.flat (ds ++ [.map entries]) := by
  obtain ⟨whole', hclose', hproperties, hrequired, hwhole⟩ := exists_close_eq h hparts (empty.flat ds)
  obtain rfl := Except.ok.inj (hclose.symm.trans hclose')
  have hmapping : (empty.flat ds).properties.IsMapping := isMapping_flat Entries.isMapping_nil ds
  refine ⟨hwhole, fun g => ?_⟩
  calc g.lay (.map whole)
      = (g.overlay (empty.flat ds)).lay (.map entries) :=
        lay_close hmapping hproperties hrequired g
    _ = ((g.overlay .empty).flat ds).lay (.map entries) := by
        rw [overlay_flat Entries.isMapping_nil]
    _ = g.flat (ds ++ [.map entries]) := by
        rw [flat_append]
        rfl

end Contribution

namespace Api

variable {a : Api} {known fresh : List String} {s part : Value}

-- ====================================================== one part

/-- A schema without parts is in one piece. -/
theorem mergedWith_of_plain (start fresh : List String) (h : s.parts? = none) :
    a.mergedWith start fresh s = pure s := by
  rw [mergedWith]
  split
  · rfl
  · next parts hparts =>
    rw [h] at hparts
    cases hparts

/-- A composed schema is closed over what its parts contribute. -/
theorem outcome_mergedWith {start : List String} {entries whole : Entries} {inner : List Value}
    {c : Contribution} (hparts : (Value.map entries).parts? = some inner)
    (hgather : (a.gatherWith start fresh .empty inner).outcome = .ok c)
    (hclose : c.close entries = .ok whole) :
    (a.mergedWith start fresh (.map entries)).outcome = .ok (.map whole) := by
  rw [mergedWith]
  split
  · next hnone =>
    rw [hparts] at hnone
    cases hnone
  · next parts hsome =>
    obtain rfl := Option.some.inj (hparts.symm.trans hsome)
    rw [Noted.outcome_bind, hgather]
    dsimp only [Except.bind]
    rw [hclose]
    rfl

/-- The references that are fresh inside a part: all but the one by which it is entered. -/
def freshInside (fresh : List String) (part : Value) : List String :=
  fresh.diff part.ref?.toList

/-- A part without parts is in one piece. -/
theorem outcome_partWith_of_plain (h : a.Leads part s) (hknown : part.references ⊆ known)
    (hdocument : a.references ⊆ known) (hparts : s.parts? = none) :
    (a.partWith known fresh part).outcome = .ok (some s) := by
  obtain ⟨refs, hchain⟩ := h
  have hderef := derefWith_of_chain hchain (hchain.subset_references hknown hdocument).1
  rw [partWith]
  cases hchain with
  | here href hmap =>
      rw [href]
      dsimp only
      rw [if_pos hmap, mergedWith_of_plain _ _ hparts]
      rfl
  | follow href _ _ =>
      rw [href]
      dsimp only
      rw [Noted.outcome_bind, hderef]
      show (if s.parts?.isNone then _ else _ : Noted (Option Value)).outcome = _
      rw [hparts]
      rfl

/-- A composed part is merged inside. -/
theorem outcome_partWith_of_composed (h : a.Leads part s) (hknown : part.references ⊆ known)
    (hdocument : a.references ⊆ known) (hparts : s.parts?.isSome)
    (hfresh : ∀ ref, part.ref? = some ref → ref ∈ fresh) {whole : Value}
    (hmerged : (a.mergedWith known (freshInside fresh part) s).outcome = .ok whole) :
    (a.partWith known fresh part).outcome = .ok (some whole) := by
  obtain ⟨refs, hchain⟩ := h
  have hderef := derefWith_of_chain hchain (hchain.subset_references hknown hdocument).1
  unfold freshInside at hmerged
  rw [partWith]
  cases hchain with
  | here href hmap =>
      rw [href, Option.toList_none, List.diff_nil] at hmerged
      rw [href]
      dsimp only
      rw [if_pos hmap]
      exact Noted.outcome_map_eq_ok_iff.mpr ⟨whole, hmerged, rfl⟩
  | @follow _ _ _ ref _ href _ _ =>
      rw [href, Option.toList_some, List.diff_cons, List.diff_nil] at hmerged
      have hnone : s.parts?.isNone = false := by
        rw [Option.isNone_eq_false_iff]
        exact hparts
      rw [href]
      dsimp only
      rw [Noted.outcome_bind, hderef]
      show (if s.parts?.isNone then _ else _ : Noted (Option Value)).outcome = _
      rw [hnone, if_neg Bool.false_ne_true, dif_pos (hfresh ref href)]
      exact Noted.outcome_map_eq_ok_iff.mpr ⟨whole, hmerged, rfl⟩

/-- A part that leads nowhere is left out. -/
theorem outcome_partWith_of_not_leads (h : ∀ s, ¬a.Leads part s) (hreadable : a.Readable known) :
    (a.partWith known fresh part).outcome = .ok none := by
  rw [partWith]
  cases href : part.ref? with
  | none =>
      have hmap : ¬part.isMap = true := fun hmap => h part ⟨[], .here href hmap⟩
      dsimp only
      rw [if_neg hmap]
      rfl
  | some ref =>
      dsimp only
      rw [Noted.outcome_bind, derefWith_of_not_leads h hreadable]
      rfl

-- ====================================================== all parts

/-- Inside a part a schema stands on the trail of the one before. -/
theorem Trail.inside (h : a.Trail known fresh s) {t : Value} (hpart : a.HasPart s t)
    (hleads : a.Leads part t) : a.Trail known (freshInside fresh part) t :=
  h.diff hpart fun _ href => hleads.refLeads (Option.mem_toList.mp href)

/-- A part in one piece is laid over what is gathered. -/
theorem outcome_gatherWith_cons {g : Contribution} {rest : List Value}
    (hpart : (a.partWith known fresh part).outcome = .ok (some s)) (h : s.IsMergeable) :
    (a.gatherWith known fresh g (part :: rest)).outcome
      = (a.gatherWith known fresh (g.lay s) rest).outcome := by
  rw [gatherWith, Noted.outcome_bind, hpart]
  dsimp only [Except.bind]
  rw [Contribution.absorb_eq h]

/-- A composed part in one piece lays over others what its own parts and it contribute. -/
theorem exists_outcome_partWith_of_composed {t : Value} {inner ds : List Value}
    (hpart : a.Leads part t) (hknown : part.references ⊆ known) (hdocument : a.references ⊆ known)
    (hinner : t.parts? = some inner) (hfresh : ∀ ref, part.ref? = some ref → ref ∈ fresh)
    (hmergeable : t.IsMergeable)
    (hgather : (a.gatherWith known (freshInside fresh part) .empty inner).outcome
      = .ok (Contribution.empty.flat ds)) :
    ∃ whole, (a.partWith known fresh part).outcome = .ok (some whole) ∧ whole.IsMergeable
      ∧ ∀ g : Contribution, g.lay whole = g.flat (ds ++ [t]) := by
  obtain ⟨-, hmap⟩ := hpart.end_spec
  cases t with
  | scalar _ => cases hmap
  | list _ => cases hmap
  | map entries =>
      have hsome : (Value.map entries).parts?.isSome := by rw [hinner]; rfl
      obtain ⟨whole, hclose, -⟩ :=
        Contribution.exists_close_eq hmergeable hsome (Contribution.empty.flat ds)
      have hmerged := outcome_mergedWith hinner hgather hclose
      obtain ⟨hwhole, hlay⟩ := Contribution.lay_of_close_flat hmergeable hsome hclose
      exact ⟨.map whole, outcome_partWith_of_composed hpart hknown hdocument hsome hfresh hmerged,
        hwhole, hlay⟩

/-- Gathering what parts contribute is laying their contributions over each other. -/
theorem outcome_gatherWith (hdocument : a.references ⊆ known) (hreadable : a.Readable known)
    {parts cs : List Value} (h : a.Contributes parts cs) (hs : a.Grounded s)
    (hrefs : s.references ⊆ known) (htrail : a.Trail known fresh s) {all : List Value}
    (hall : s.parts? = some all) (hparts : ∀ part ∈ parts, part ∈ all)
    (hmerge : ∀ c ∈ cs, c.IsMergeable) (g : Contribution) :
    (a.gatherWith known fresh g parts).outcome = .ok (g.flat cs) := by
  induction h generalizing s fresh all g with
  | nil =>
      rw [gatherWith]
      rfl
  | @skip part rest cs hpart _ ih =>
      rw [gatherWith, Noted.outcome_bind, outcome_partWith_of_not_leads hpart hreadable]
      exact ih hs hrefs htrail hall (fun p hp => hparts p (List.mem_cons_of_mem _ hp)) hmerge g
  | @plain part t rest cs hpart hplain _ ih =>
      have hmem := hparts part List.mem_cons_self
      have hknown := List.Subset.trans (Value.references_subset_of_part hall hmem) hrefs
      rw [outcome_gatherWith_cons (outcome_partWith_of_plain hpart hknown hdocument hplain)
        (hmerge t List.mem_cons_self)]
      exact ih hs hrefs htrail hall (fun p hp => hparts p (List.mem_cons_of_mem _ hp))
        (fun c hc => hmerge c (List.mem_cons_of_mem _ hc)) (g.lay t)
  | @composed part t inner rest ds cs hpart hinner _ _ ihinner ih =>
      have hmem := hparts part List.mem_cons_self
      have hknown := List.Subset.trans (Value.references_subset_of_part hall hmem) hrefs
      have hhas : a.HasPart s t := ⟨all, part, hall, hmem, hpart⟩
      -- first the part on its own, then what it lays over the others
      have hgather := ihinner (hs.of_hasPart hhas)
        (references_subset_of_hasPart hrefs hdocument hhas) (htrail.inside hhas hpart) hinner
        (fun p hp => hp) (fun c hc => hmerge c (List.mem_append_left _ hc)) .empty
      obtain ⟨whole, hpiece, hwhole, hlay⟩ := exists_outcome_partWith_of_composed hpart hknown
        hdocument hinner (fun ref href => htrail.mem_fresh hs.not_transGen hhas
          (hpart.refLeads href) (hknown (Value.mem_references_of_ref? href)))
        (hmerge t (List.mem_append_right _ List.mem_cons_self)) hgather
      have hrest := ih hs hrefs htrail hall (fun p hp => hparts p (List.mem_cons_of_mem _ hp))
        (fun c hc => hmerge c (List.mem_append_right _ (List.mem_cons_of_mem _ hc)))
        (g.lay whole)
      rw [outcome_gatherWith_cons hpiece hwhole, hrest, hlay, ← Contribution.flat_append,
        List.append_assoc, List.singleton_append]

/-- A composed schema in one piece has the properties of its contributions, laid over each other,
and its own over these; and it requires what any of them requires. -/
theorem exists_outcome_merged {parts cs : List Value} (hground : a.Grounded s)
    (hreadable : a.Readable (a.fresh [] s)) (hmap : s.isMap = true)
    (hparts : s.parts? = some parts) (hcs : a.Contributes parts cs)
    (hmerge : ∀ c ∈ cs ++ [s], c.IsMergeable) :
    ∃ whole, (a.merged s).outcome = .ok whole
      ∧ whole.declaredProperties = (Contribution.empty.flat (cs ++ [s])).properties
      ∧ ∀ name, name ∈ whole.requiredTexts ↔ ∃ c ∈ cs ++ [s], name ∈ c.requiredTexts := by
  cases s with
  | scalar _ => cases hmap
  | list _ => cases hmap
  | map entries =>
      have hgather := outcome_gatherWith (a.references_subset_fresh _) hreadable hcs hground
        (a.node_references_subset_fresh _) (.start _ _) hparts (fun _ hpart => hpart)
        (fun c hc => hmerge c (List.mem_append_left _ hc)) .empty
      have hsome : (Value.map entries).parts?.isSome := by rw [hparts]; rfl
      obtain ⟨whole, hclose, hproperties, hrequired, -⟩ := Contribution.exists_close_eq
        (hmerge _ (List.mem_append_right _ List.mem_cons_self)) hsome (Contribution.empty.flat cs)
      refine ⟨.map whole, outcome_mergedWith hparts hgather hclose, ?_, fun name => ?_⟩
      · rw [hproperties, Contribution.flat_append]
        rfl
      · have hgathered : name ∈ (Contribution.empty.flat cs).required
            ↔ ∃ c ∈ cs, name ∈ c.requiredTexts := by
          rw [Contribution.mem_required_flat_iff, or_iff_right (by simp [Contribution.empty])]
        have happend : (∃ c ∈ cs ++ [.map entries], name ∈ c.requiredTexts)
            ↔ (∃ c ∈ cs, name ∈ c.requiredTexts) ∨ name ∈ (Value.map entries).requiredTexts := by
          simp [or_and_right, exists_or]
        rw [hrequired, happend, ← hgathered, List.mem_append, List.mem_filter]
        by_cases hmem : name ∈ (Contribution.empty.flat cs).required <;> simp [hmem]

end Api

end ApiCommands
