/-
Fields of tables: what is written is read back.

# What a library does

Nothing is asked of a library of data models but what such libraries do with texts, rows,
sets and mappings (`FieldTypes.Lawful`): texts and rows of texts are read as they are,
a set holds each text once and a mapping each key once, and what they hold is read back when it is
written. Tables are read field by field, no name may be too much, and they are written with every
field under its name (`ModelLibrary.Lawful`).

# One field

Each field has a type, a way its values are made ready, and perhaps a default. It keeps a
value if that value, written and checked again, is the same (`Field.Keeps`). For rows and
for single texts that holds of any value, for mappings by domain of those that have each domain
once. Where keys or members are lowered it holds exactly of those in lower case
(`keeps_loweredSet_iff`, `keeps_loweredKeys_iff`). What such a field is read as is in lower
case, since lowering twice is lowering once; so every field keeps what it is read as
(`stable_of_mem_columns`).
-/
import ApiCommands.Naming.Tables.Override
import ApiCommands.Proofs.Document.Display
import ApiCommands.Proofs.Validation.Checked

namespace ApiCommands

open Checked

-- ====================================================== what a library does with types

/-- A type of sets of texts. Only lists are read as sets, a set holds each text once and is written
as its texts, and texts that are all different are read as the set of them. -/
structure FieldType.IsSet (τ : FieldType (List String)) : Prop where
  isList : ∀ v texts, τ.check v = valid texts → ∃ vs, v = .list vs
  nodup : ∀ v texts, τ.check v = valid texts → texts.Nodup
  written : ∀ texts, τ.written texts = .texts texts
  reads : ∀ texts : List String, texts.Nodup → τ.check (.texts texts) = valid texts

/-- A type of mappings. A mapping holds each key once, and one that does is read back. -/
structure FieldType.IsDict {κ α : Type} (τ : FieldType (List (κ × α))) : Prop where
  nodup : ∀ v pairs, τ.check v = valid pairs → (pairs.map Prod.fst).Nodup
  readBack : ∀ pairs, (pairs.map Prod.fst).Nodup → τ.check (τ.written pairs) = valid pairs

/-- A type of mappings with texts for keys. Only mappings are read as such; keys that are texts stay
as they are and in order, and are written so. -/
structure FieldType.IsTextDict {α : Type} (τ : FieldType (List (String × α))) : Prop
    extends τ.IsDict where
  isMap : ∀ v pairs, τ.check v = valid pairs → ∃ es, v = .map es
  keys : ∀ (es : Entries) pairs, es.IsMapping → (es.Keyed fun _ => True) →
    τ.check (.map es) = valid pairs → es.map Prod.fst = pairs.map fun p => .text p.1
  written : ∀ pairs, ∃ es : Entries, τ.written pairs = .map es
    ∧ es.map Prod.fst = pairs.map fun p => .text p.1

/-- The types are what their names say. -/
structure FieldTypes.Lawful (types : FieldTypes) : Prop where
  text : ∀ s, types.text.check (types.text.written s) = valid s
  domain : ∀ d, types.domain.check (types.domain.written d) = valid d
  textRow_written : ∀ texts, types.textRow.written texts = .texts texts
  textRow : ∀ texts, types.textRow.check (.texts texts) = valid texts
  domainRow : ∀ ds, types.domainRow.check (types.domainRow.written ds) = valid ds
  textSet : types.textSet.IsSet
  domainTexts : types.domainTexts.IsDict
  textTexts : types.textTexts.IsTextDict
  textDomains : types.textDomains.IsTextDict

/-- Tables are read field by field and no name may be too much; they are written with every field
under its name. -/
structure ModelLibrary.Lawful (lib : ModelLibrary) : Prop where
  types : lib.types.Lawful
  validate_eq_ok_iff : ∀ (es : Entries) (t : Tables), lib.validate es = .ok t
    ↔ (∀ c ∈ Tables.columns, c.field.read lib.types es = valid (c.get t))
      ∧ es.Keyed (· ∈ Tables.fieldNames)
  find?_dump : ∀ t, ∀ c ∈ Tables.columns,
    (lib.dump t).find? (.text c.field.name)
      = some ((c.field.type lib.types).written (c.get t))
  keyed_dump : ∀ t, (lib.dump t).Keyed (· ∈ Tables.fieldNames)

namespace Tables

-- ====================================================== values made ready

section Lowered

variable {v ready : Value} {es : Entries} {texts : List String}

/-- Where a list comes out, its members are in lower case and all different. -/
theorem exists_areLow_of_loweredMembers {vs : List Value}
    (h : loweredMembers v = .ok (.list vs)) :
    ∃ texts, AreLow texts ∧ .list vs = Value.texts texts := by
  unfold loweredMembers at h
  split at h
  · next members =>
    obtain ⟨shown, -, hready⟩ := Except.bind_eq_ok_iff.mp h
    refine ⟨_, ⟨nodup_eraseDups _, fun s hs => ?_⟩, (Except.ok.inj hready).symm⟩
    obtain ⟨text, -, rfl⟩ := List.mem_map.mp (List.mem_eraseDups.mp hs)
    exact Text.lowered_lowered text
  · next hlist => exact absurd (Except.ok.inj h) (hlist vs)

/-- Such members are left as they are. -/
theorem loweredMembers_texts (h : AreLow texts) :
    loweredMembers (.texts texts) = .ok (.texts texts) := by
  have hshown : (texts.map Value.text).mapM Value.display = .ok texts := by
    induction texts with
    | nil => rfl
    | cons s rest ih =>
        have hrest : AreLow rest :=
          ⟨(List.nodup_cons.mp h.nodup).2, fun s hs => h.lowered s (List.mem_cons_of_mem _ hs)⟩
        rw [List.map_cons, List.mapM_cons, ih hrest]
        rfl
  have hsame : (texts.map Text.lowered).eraseDups = texts := by
    rw [(List.map_congr_left h.lowered).trans (List.map_id' _), eraseDups_of_nodup h.nodup]
  show ((texts.map Value.text).mapM Value.display >>= fun shown =>
    Except.ok (Value.texts (shown.map Text.lowered).eraseDups)) = _
  rw [hshown]
  exact congrArg (fun texts => Except.ok (Value.texts texts)) hsame

/-- Where a mapping comes out, its keys are in lower case, and no two are the same. -/
theorem keyed_of_loweredKeys (h : loweredKeys v = .ok (.map es)) :
    es.Keyed (fun s => Text.lowered s = s) ∧ es.IsMapping := by
  unfold loweredKeys at h
  split at h
  · next entries =>
    obtain ⟨lowered, hlowered, hready⟩ := Except.bind_eq_ok_iff.mp h
    obtain rfl := Value.map.inj (Except.ok.inj hready)
    refine ⟨Entries.keyed_insertAll_iff.mpr ⟨by simp [Entries.Keyed], ?_⟩,
      Entries.isMapping_nil.insertAll _⟩
    intro k hk
    obtain ⟨e, he, rfl⟩ := List.mem_map.mp hk
    obtain ⟨e', -, hstep⟩ := Except.exists_of_mem_mapM hlowered he
    obtain ⟨shown, -, hpair⟩ := Except.bind_eq_ok_iff.mp hstep
    rw [← Except.ok.inj hpair]
    exact ⟨_, Text.lowered_lowered shown, rfl⟩
  · next hmap => exact absurd (Except.ok.inj h) (hmap es)

/-- A mapping with keys in lower case is left as it is. -/
theorem loweredKeys_of_keyed (hkeys : es.Keyed fun s => Text.lowered s = s)
    (hmapping : es.IsMapping) : loweredKeys (.map es) = .ok (.map es) := by
  have hlowered : es.mapM loweredKey = .ok es := by
    clear hmapping
    induction es with
    | nil => rfl
    | cons e rest ih =>
        unfold Entries.Keyed at hkeys
        rw [List.map_cons, List.forall_mem_cons] at hkeys
        obtain ⟨⟨s, hs, hk⟩, hrest⟩ := hkeys
        obtain ⟨k, v⟩ := e
        obtain rfl : k = .text s := hk
        have hfirst : loweredKey (.text s, v) = .ok (.text s, v) := by
          show Except.ok (Scalar.text (Text.lowered s), v) = _
          rw [hs]
        rw [List.mapM_cons, ih hrest, hfirst]
        rfl
  show (es.mapM loweredKey >>= fun lowered => Except.ok (Value.map (Entries.ofList lowered))) = _
  rw [hlowered]
  exact congrArg (fun es => Except.ok (Value.map es)) (Entries.ofList_eq_self hmapping)

end Lowered

namespace Field

variable {α : Type} {f : Field α} {types : FieldTypes} {es : Entries} {v : Value} {a : α}

-- ====================================================== one field

theorem check_eq_valid_iff : f.check types v = valid a
    ↔ ∃ ready, f.prepare v = .ok ready ∧ (f.type types).check ready = valid a := by
  unfold check
  cases f.prepare v with
  | ok ready => exact ⟨fun h => ⟨ready, rfl, h⟩, fun ⟨_, hready, h⟩ => Except.ok.inj hready ▸ h⟩
  | error _ =>
      refine iff_of_false (fun h => ?_) fun ⟨_, hready, _⟩ => by cases hready
      cases (eq_valid_iff.mp h).2

/-- A field is the value under its name, checked, or its default. -/
theorem read_eq_valid_iff :
    f.read types es = valid a
      ↔ (∃ v, es.find? (.text f.name) = some v ∧ f.check types v = valid a)
        ∨ es.find? (.text f.name) = none ∧ f.default? = some a := by
  have hvalid : ∀ x : Checked α, (field? es f.name (f.check types)).getD x = valid a
      ↔ (∃ v, es.find? (.text f.name) = some v ∧ f.check types v = valid a)
        ∨ es.find? (.text f.name) = none ∧ x = valid a := by
    intro x
    rw [field?_eq]
    cases es.find? (.text f.name) with
    | none => simp
    | some v => simp [under_eq_valid_iff]
  unfold read
  cases hdefault : f.default? with
  | none =>
      show required es f.name (f.check types) = valid a ↔ _
      unfold required
      rw [hvalid]
      simp [eq_valid_iff, fault, under]
  | some value =>
      show withDefault es f.name value (f.check types) = valid a ↔ _
      unfold withDefault
      rw [hvalid]
      simp [valid]

/-- The field keeps a value: written and checked again it is the same. -/
def Keeps (types : FieldTypes) (f : Field α) (a : α) : Prop :=
  f.check types ((f.type types).written a) = valid a

/-- The field keeps whatever it is read as. -/
structure Stable (types : FieldTypes) (f : Field α) : Prop where
  checked : ∀ v a, f.check types v = valid a → f.Keeps types a
  default : ∀ a, f.default? = some a → f.Keeps types a

theorem Stable.of_forall (h : ∀ a, f.Keeps types a) : f.Stable types :=
  ⟨fun _ a _ => h a, fun a _ => h a⟩

theorem Stable.keeps (h : f.Stable types) (hread : f.read types es = valid a) :
    f.Keeps types a := by
  rcases read_eq_valid_iff.mp hread with ⟨v, -, hv⟩ | ⟨-, hdefault⟩
  · exact h.checked v a hv
  · exact h.default a hdefault

-- ====================================================== kinds of fields

section Kinds

variable (h : types.Lawful)

include h

theorem keeps_row (name : String) (default texts : List String) :
    (row name default).Keeps types texts := by
  refine check_eq_valid_iff.mpr ⟨_, rfl, ?_⟩
  show types.textRow.check (types.textRow.written texts) = _
  rw [h.textRow_written, h.textRow]

theorem keeps_domainOrder (ds : List Domain) : domainOrder.Keeps types ds :=
  check_eq_valid_iff.mpr ⟨_, rfl, h.domainRow ds⟩

theorem keeps_authDomain (d : Domain) : authDomain.Keeps types d :=
  check_eq_valid_iff.mpr ⟨_, rfl, h.domain d⟩

theorem keeps_fallbackTag (tag : String) : fallbackTag.Keeps types tag :=
  check_eq_valid_iff.mpr ⟨_, rfl, h.text tag⟩

theorem keeps_genericOperationIds_iff {ids : List String} :
    genericOperationIds.Keeps types ids ↔ ids.Nodup := by
  constructor
  · intro hkeeps
    obtain ⟨_, -, hcheck⟩ := check_eq_valid_iff.mp hkeeps
    exact h.textSet.nodup _ _ hcheck
  · intro hnodup
    refine check_eq_valid_iff.mpr ⟨_, rfl, ?_⟩
    show types.textSet.check (types.textSet.written ids) = _
    rw [h.textSet.written, h.textSet.reads ids hnodup]

omit h in
/-- A mapping as it is given is kept if no key is in it twice. -/
theorem keeps_dict_iff {κ β : Type} {f : Field (List (κ × β))} (hprepare : f.prepare = .ok)
    (hdict : (f.type types).IsDict) {pairs : List (κ × β)} :
    f.Keeps types pairs ↔ (pairs.map Prod.fst).Nodup := by
  unfold Keeps
  rw [check_eq_valid_iff, hprepare]
  constructor
  · rintro ⟨_, -, hcheck⟩
    exact hdict.nodup _ _ hcheck
  · exact fun hnodup => ⟨_, rfl, hdict.readBack pairs hnodup⟩

theorem keeps_byDomain_iff {name : String} {pairs : List (Domain × String)} :
    (byDomain name).Keeps types pairs ↔ (pairs.map Prod.fst).Nodup :=
  keeps_dict_iff rfl h.domainTexts

theorem keeps_wordReplacements_iff {pairs : List (String × String)} :
    wordReplacements.Keeps types pairs ↔ (pairs.map Prod.fst).Nodup :=
  keeps_dict_iff rfl h.textTexts.toIsDict

/-- The members of a set that are lowered are in lower case, and all different. -/
theorem areLow_of_check_loweredSet {name : String} {default? : Option (List String)}
    {texts : List String} (hcheck : (loweredSet name default?).check types v = valid texts) :
    AreLow texts := by
  obtain ⟨ready, hready, hset⟩ := check_eq_valid_iff.mp hcheck
  obtain ⟨vs, rfl⟩ := h.textSet.isList _ _ hset
  obtain ⟨lowered, hlow, heq⟩ := exists_areLow_of_loweredMembers hready
  have hreads : types.textSet.check (.list vs) = valid lowered :=
    heq ▸ h.textSet.reads lowered hlow.nodup
  exact valid_inj (hreads.symm.trans hset) ▸ hlow

/-- So such a field keeps the sets in lower case. -/
theorem keeps_loweredSet_iff {name : String} {default? : Option (List String)}
    {texts : List String} : (loweredSet name default?).Keeps types texts ↔ AreLow texts := by
  refine ⟨areLow_of_check_loweredSet h, fun hlow => check_eq_valid_iff.mpr ?_⟩
  show ∃ ready, loweredMembers (types.textSet.written texts) = .ok ready
    ∧ types.textSet.check ready = valid texts
  rw [h.textSet.written]
  exact ⟨_, loweredMembers_texts hlow, h.textSet.reads texts hlow.nodup⟩

end Kinds

section LoweredKeys

variable {β : Type} {f : Field (List (String × β))} {pairs : List (String × β)}
  (hprepare : f.prepare = loweredKeys) (hdict : (f.type types).IsTextDict)

include hprepare hdict

/-- Keys that are lowered are in lower case, and all different. -/
theorem areLow_of_check_loweredKeys (hcheck : f.check types v = valid pairs) :
    AreLow (pairs.map Prod.fst) := by
  obtain ⟨ready, hready, hpairs⟩ := check_eq_valid_iff.mp hcheck
  obtain ⟨es, rfl⟩ := hdict.isMap _ _ hpairs
  obtain ⟨hkeyed, hmapping⟩ := keyed_of_loweredKeys (hprepare ▸ hready)
  have hkeys : es.map Prod.fst = pairs.map fun p => Scalar.text p.1 :=
    hdict.keys es pairs hmapping (fun k hk => (hkeyed k hk).imp fun _ hs => ⟨trivial, hs.2⟩) hpairs
  refine ⟨hdict.nodup _ _ hpairs, List.forall_mem_map.mpr fun p hp => ?_⟩
  obtain ⟨s, hs, hk⟩ := hkeyed (.text p.1) (hkeys ▸ List.mem_map_of_mem hp)
  rwa [Scalar.text.inj hk]

/-- So a field whose keys are lowered keeps the mappings with keys in lower case. -/
theorem keeps_loweredKeys_iff : f.Keeps types pairs ↔ AreLow (pairs.map Prod.fst) := by
  refine ⟨areLow_of_check_loweredKeys hprepare hdict, fun hlow => check_eq_valid_iff.mpr ?_⟩
  obtain ⟨es, hwritten, hkeys⟩ := hdict.written pairs
  have hkeyed : es.Keyed fun s => Text.lowered s = s := by
    unfold Entries.Keyed
    rw [hkeys, List.forall_mem_map]
    exact fun p hp => ⟨p.1, hlow.lowered p.1 (List.mem_map_of_mem hp), rfl⟩
  have hmapping : es.IsMapping := by
    rw [Entries.isMapping_iff_pairwise_map_fst, hkeys, List.pairwise_map]
    refine (List.pairwise_map.mp hlow.nodup).imp fun hne => ?_
    exact Bool.eq_false_iff.mpr fun hsame => hne
      (Scalar.text.inj (Scalar.sameKey_text_iff.mp hsame))
  refine ⟨.map es, ?_, hwritten ▸ hdict.readBack pairs hlow.nodup⟩
  rw [hprepare, hwritten, loweredKeys_of_keyed hkeyed hmapping]

end LoweredKeys

section Stable

variable (h : types.Lawful)

include h

theorem keeps_byLoweredText_iff {name : String} {pairs : List (String × String)} :
    (byLoweredText name).Keeps types pairs ↔ AreLow (pairs.map (·.1)) :=
  keeps_loweredKeys_iff rfl h.textTexts

theorem keeps_tagDomains_iff {pairs : List (String × Domain)} :
    tagDomains.Keeps types pairs ↔ AreLow (pairs.map (·.1)) :=
  keeps_loweredKeys_iff rfl h.textDomains

theorem stable_loweredSet (name : String) {default? : Option (List String)}
    (hdefault : ∀ texts, default? = some texts → AreLow texts) :
    (loweredSet name default?).Stable types where
  checked _ _ hcheck := (keeps_loweredSet_iff h).mpr (areLow_of_check_loweredSet h hcheck)
  default _ hvalue := (keeps_loweredSet_iff h).mpr (hdefault _ hvalue)

theorem stable_rootTags : rootTags.Stable types := stable_loweredSet h _ fun _ h => by cases h

theorem stable_loweredSet_nil (name : String) : (loweredSet name (some [])).Stable types := by
  refine stable_loweredSet h name fun texts hvalue => ?_
  obtain rfl := Option.some.inj hvalue
  exact ⟨List.nodup_nil, List.forall_mem_nil _⟩

theorem stable_currentEntityAliases : currentEntityAliases.Stable types := by
  refine stable_loweredSet h _ fun texts hvalue => ?_
  obtain rfl := Option.some.inj hvalue
  exact ⟨by decide, by decide⟩

theorem stable_genericOperationIds : genericOperationIds.Stable types where
  checked _ _ hcheck := by
    obtain ⟨_, -, hset⟩ := check_eq_valid_iff.mp hcheck
    exact (keeps_genericOperationIds_iff h).mpr (h.textSet.nodup _ _ hset)
  default ids hvalue := by
    obtain rfl := Option.some.inj hvalue
    exact (keeps_genericOperationIds_iff h).mpr (by decide)

omit h in
/-- A mapping as it is given is kept whatever it is read as, if none is its default. -/
theorem stable_dict {κ β : Type} {f : Field (List (κ × β))} (hprepare : f.prepare = .ok)
    (hdict : (f.type types).IsDict) (hdefault : f.default? = some []) : f.Stable types where
  checked _ _ hcheck := by
    obtain ⟨_, -, hpairs⟩ := check_eq_valid_iff.mp hcheck
    exact (keeps_dict_iff hprepare hdict).mpr (hdict.nodup _ _ hpairs)
  default pairs hvalue := by
    obtain rfl := Option.some.inj (hdefault.symm.trans hvalue)
    exact (keeps_dict_iff hprepare hdict).mpr List.nodup_nil

theorem stable_byLoweredText (name : String) : (byLoweredText name).Stable types where
  checked _ _ hcheck :=
    (keeps_byLoweredText_iff h).mpr (areLow_of_check_loweredKeys rfl h.textTexts hcheck)
  default pairs hvalue := by
    obtain rfl := Option.some.inj hvalue
    exact (keeps_byLoweredText_iff h).mpr ⟨List.nodup_nil, List.forall_mem_nil _⟩

theorem stable_tagDomains : tagDomains.Stable types where
  checked _ _ hcheck :=
    (keeps_tagDomains_iff h).mpr (areLow_of_check_loweredKeys rfl h.textDomains hcheck)
  default pairs hvalue := by cases hvalue

end Stable

end Field

-- ====================================================== all fields

/-- Every field keeps what it is read as. -/
theorem stable_of_mem_columns {types : FieldTypes} (h : types.Lawful) :
    ∀ c ∈ columns, c.field.Stable types := by
  unfold columns
  simp only [List.forall_mem_cons, List.not_mem_nil, false_implies, implies_true, and_true]
  exact ⟨.of_forall (Field.keeps_domainOrder h), Field.stable_dict rfl h.domainTexts rfl,
    Field.stable_tagDomains h, Field.stable_rootTags h, Field.stable_byLoweredText h _,
    Field.stable_dict rfl h.domainTexts rfl, Field.stable_dict rfl h.domainTexts rfl,
    .of_forall (Field.keeps_authDomain h), .of_forall (Field.keeps_fallbackTag h),
    Field.stable_byLoweredText h _, Field.stable_loweredSet_nil h _,
    .of_forall (Field.keeps_row h _ _), .of_forall (Field.keeps_row h _ _),
    .of_forall (Field.keeps_row h _ _), Field.stable_currentEntityAliases h,
    .of_forall (Field.keeps_row h _ _), .of_forall (Field.keeps_row h _ _),
    .of_forall (Field.keeps_row h _ _), Field.stable_loweredSet_nil h _,
    Field.stable_dict rfl h.textTexts.toIsDict rfl, Field.stable_genericOperationIds h,
    Field.stable_loweredSet_nil h _⟩

end Tables

end ApiCommands
