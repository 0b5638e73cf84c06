/-
Overrides of tables.

# Writing and reading again

Whatever the library of data models, if only it is lawful: tables that are written and overlaid
have in each field what the override says, or what was written (`read_insertAll_dump_iff`). So
everything about overrides is a question on one field. Tables are accepted, that is, come
out of reading some mapping, exactly if every field keeps its value (`accepted_iff_keeps`);
spelled out, if keys and members that are looked up without regard to case are in lower case and
none of them stands there twice (`accepted_iff`). The standard tables are accepted
(`accepted_standard`).

# Two overrides

A field that an override leaves alone stays what it was, since accepted tables keep it
(`get_eq_of_not_has`). Of two overrides one after the other the later one that names a
field decides on it, and that is what laying the second mapping over the first one means
(`withOverrides_insertAll`). Fields are replaced as a whole: of the keys that differ
in case only in one override one is left, but none meets a key of another override.

# Look-ups

A look-up lowers its argument, so it cannot see case; and since the keys are in lower
case and all different, it reaches every entry (`InLowerCase.ignoresCase`).
-/
import ApiCommands.Naming.Tables.Standard
import ApiCommands.Proofs.Naming.LaxLibrary

namespace ApiCommands

open Checked

/-- Tables that some mapping is read as. -/
def ModelLibrary.Accepted (lib : ModelLibrary) (t : Tables) : Prop := ∃ es, lib.validate es = .ok t

namespace Tables

-- ====================================================== tables written and overlaid

section Overrides

variable {lib : ModelLibrary} (hlib : lib.Lawful) {t u v : Tables} {a b o : Entries}
  {c d : Column}

include hlib

/-- Behind an override a field has what the override says, or what was written. -/
theorem read_insertAll_dump_iff (t : Tables) (o : Entries) (hc : c ∈ columns) {x : c.α} :
    c.field.read lib.types ((lib.dump t).insertAll o) = valid x
      ↔ c.field.check lib.types ((o.last? (.text c.field.name)).getD
          ((c.field.type lib.types).written (c.get t))) = valid x := by
  have hfind : ((lib.dump t).insertAll o).find? (.text c.field.name)
      = some ((o.last? (.text c.field.name)).getD
          ((c.field.type lib.types).written (c.get t))) := by
    rw [Entries.find?_insertAll, hlib.find?_dump t c hc]
    cases o.last? (.text c.field.name) <;> rfl
  rw [Field.read_eq_valid_iff, hfind]
  simp

/-- An override gives tables exactly if it names fields only, and each field has a value then. -/
theorem withOverrides_eq_ok_iff :
    t.withOverrides lib o = .ok u
      ↔ (∀ c ∈ columns,
          c.field.check lib.types ((o.last? (.text c.field.name)).getD
            ((c.field.type lib.types).written (c.get t))) = valid (c.get u))
        ∧ o.Keyed (· ∈ fieldNames) := by
  unfold withOverrides
  rw [hlib.validate_eq_ok_iff, Entries.keyed_insertAll_iff, and_iff_right (hlib.keyed_dump t)]
  exact and_congr_left fun _ => forall₂_congr fun c hc => read_insertAll_dump_iff hlib t o hc

-- ====================================================== accepted tables

omit hlib in
theorem accepted_of_withOverrides (h : t.withOverrides lib o = .ok u) : lib.Accepted u := ⟨_, h⟩

/-- Tables are accepted exactly if every field keeps its value. -/
theorem accepted_iff_keeps :
    lib.Accepted t ↔ ∀ c ∈ columns, c.field.Keeps lib.types (c.get t) := by
  constructor
  · rintro ⟨es, hes⟩ c hc
    exact (stable_of_mem_columns hlib.types c hc).keeps
      (((hlib.validate_eq_ok_iff es t).mp hes).1 c hc)
  · intro hkeeps
    exact ⟨_, (withOverrides_eq_ok_iff hlib (o := [])).mpr
      ⟨hkeeps, by simp [Entries.Keyed]⟩⟩

omit hlib

/-- Keys and members that are looked up without regard to case are in lower case and all different;
so are, in whatever case, the other keys and the ids that say no more than the method. -/
structure InLowerCase (t : Tables) : Prop where
  domainDescriptions : (t.domainDescriptions.map (·.1)).Nodup
  tagDomains : AreLow (t.tagDomains.map (·.1))
  rootTags : AreLow t.rootTags
  tagBranches : AreLow (t.tagBranches.map (·.1))
  domainPrefixes : (t.domainPrefixes.map (·.1)).Nodup
  domainSuffixes : (t.domainSuffixes.map (·.1)).Nodup
  segmentAliases : AreLow (t.segmentAliases.map (·.1))
  knownResources : AreLow t.knownResources
  currentEntityAliases : AreLow t.currentEntityAliases
  unsplittableWords : AreLow t.unsplittableWords
  wordReplacements : (t.wordReplacements.map (·.1)).Nodup
  genericOperationIds : t.genericOperationIds.Nodup
  reservedOptionNames : AreLow t.reservedOptionNames

include hlib

/-- That is all there is to being accepted. -/
theorem accepted_iff : lib.Accepted t ↔ t.InLowerCase := by
  have h := hlib.types
  rw [accepted_iff_keeps hlib]
  unfold columns
  simp only [List.forall_mem_cons, List.not_mem_nil, false_implies, implies_true, and_true]
  constructor
  · rintro ⟨-, hdescriptions, htag, hroot, hbranch, hprefixes, hsuffixes, -, -, halias, hknown, -, -,
      -, hcurrent, -, -, -, hunsplittable, hreplacements, hgeneric, hreserved⟩
    exact ⟨(Field.keeps_byDomain_iff h).mp hdescriptions, (Field.keeps_tagDomains_iff h).mp htag,
      (Field.keeps_loweredSet_iff h).mp hroot, (Field.keeps_byLoweredText_iff h).mp hbranch,
      (Field.keeps_byDomain_iff h).mp hprefixes, (Field.keeps_byDomain_iff h).mp hsuffixes,
      (Field.keeps_byLoweredText_iff h).mp halias, (Field.keeps_loweredSet_iff h).mp hknown,
      (Field.keeps_loweredSet_iff h).mp hcurrent, (Field.keeps_loweredSet_iff h).mp hunsplittable,
      (Field.keeps_wordReplacements_iff h).mp hreplacements,
      (Field.keeps_genericOperationIds_iff h).mp hgeneric,
      (Field.keeps_loweredSet_iff h).mp hreserved⟩
  · intro hlow
    exact ⟨Field.keeps_domainOrder h _, (Field.keeps_byDomain_iff h).mpr hlow.domainDescriptions,
      (Field.keeps_tagDomains_iff h).mpr hlow.tagDomains,
      (Field.keeps_loweredSet_iff h).mpr hlow.rootTags,
      (Field.keeps_byLoweredText_iff h).mpr hlow.tagBranches,
      (Field.keeps_byDomain_iff h).mpr hlow.domainPrefixes,
      (Field.keeps_byDomain_iff h).mpr hlow.domainSuffixes, Field.keeps_authDomain h _,
      Field.keeps_fallbackTag h _, (Field.keeps_byLoweredText_iff h).mpr hlow.segmentAliases,
      (Field.keeps_loweredSet_iff h).mpr hlow.knownResources, Field.keeps_row h _ _ _,
      Field.keeps_row h _ _ _, Field.keeps_row h _ _ _,
      (Field.keeps_loweredSet_iff h).mpr hlow.currentEntityAliases, Field.keeps_row h _ _ _,
      Field.keeps_row h _ _ _, Field.keeps_row h _ _ _,
      (Field.keeps_loweredSet_iff h).mpr hlow.unsplittableWords,
      (Field.keeps_wordReplacements_iff h).mpr hlow.wordReplacements,
      (Field.keeps_genericOperationIds_iff h).mpr hlow.genericOperationIds,
      (Field.keeps_loweredSet_iff h).mpr hlow.reservedOptionNames⟩

-- ====================================================== overrides of accepted tables

/-- A field that an override does not name is left as it is. -/
theorem get_eq_of_not_has (ht : lib.Accepted t) (hu : t.withOverrides lib o = .ok u)
    (hc : c ∈ columns) (hfree : ¬o.Has (.text c.field.name)) : c.get u = c.get t := by
  have hcheck := ((withOverrides_eq_ok_iff hlib).mp hu).1 c hc
  rw [Entries.last?_eq_none_iff.mpr hfree, Option.getD_none] at hcheck
  have hkeeps : c.field.check lib.types ((c.field.type lib.types).written (c.get t))
      = valid (c.get t) := (accepted_iff_keeps hlib).mp ht c hc
  exact valid_inj (hcheck.symm.trans hkeeps)

/-- An override of one field gives tables with another value in that field. -/
theorem withOverrides_singleton (ht : lib.Accepted t) (hc : c ∈ columns) {value : Value}
    (hvalue : c.field.check lib.types value = valid (c.get u))
    (hothers : ∀ d ∈ columns, d.field.name = c.field.name ∨ d.get u = d.get t) :
    t.withOverrides lib [(.text c.field.name, value)] = .ok u := by
  refine (withOverrides_eq_ok_iff hlib).mpr ⟨fun d hd => ?_, ?_⟩
  · by_cases hname : d.field.name = c.field.name
    · obtain rfl := List.inj_on_of_nodup_map nodup_fieldNames hd hc hname
      simpa [Entries.last?, Entries.find?, Scalar.sameKey_equivalence.refl] using hvalue
    · have hlast : Entries.last? (.text d.field.name) [(.text c.field.name, value)] = none := by
        rw [Entries.last?_eq_none_iff]
        simpa [Entries.Has, Scalar.sameKey_text_iff] using fun h => hname h.symm
      rw [hlast, Option.getD_none, (hothers d hd).resolve_left hname]
      exact (accepted_iff_keeps hlib).mp ht d hd
  · have hfield : c.field.name ∈ fieldNames := List.mem_map_of_mem hc
    simpa [Entries.Keyed] using hfield

/-- Two overrides one after the other are one override, the second laid over the first. -/
theorem withOverrides_insertAll (ha : a.IsMapping) (hu : t.withOverrides lib a = .ok u)
    (hv : u.withOverrides lib b = .ok v) : t.withOverrides lib (a.insertAll b) = .ok v := by
  obtain ⟨hfirst, hkeyedA⟩ := (withOverrides_eq_ok_iff hlib).mp hu
  obtain ⟨hsecond, hkeyedB⟩ := (withOverrides_eq_ok_iff hlib).mp hv
  refine (withOverrides_eq_ok_iff hlib).mpr ⟨fun c hc => ?_,
    Entries.keyed_insertAll_iff.mpr ⟨hkeyedA, hkeyedB⟩⟩
  rw [Entries.last?_insertAll ha]
  cases hlast : b.last? (.text c.field.name) with
  | some value =>
      have hvalue := hsecond c hc
      rwa [hlast] at hvalue
  | none =>
      -- the second override leaves what the first one made of the field
      have hfree := Entries.last?_eq_none_iff.mp hlast
      rw [Option.none_or, get_eq_of_not_has hlib (accepted_of_withOverrides hu) hv hc hfree]
      exact hfirst c hc

end Overrides

-- ====================================================== the standard tables

theorem inLowerCase_standard : standard.InLowerCase := by
  constructor
  case domainDescriptions => decide
  case domainPrefixes => decide
  case domainSuffixes => decide
  case wordReplacements => decide
  case genericOperationIds => decide
  -- the other lists are spelled out, and then looked through character by character
  all_goals
    refine Spells.areLow (by repeat' first | exact .nil | apply Spells.cons) ?_
    decide +kernel

/-- Reading the standard tables again changes nothing. -/
theorem accepted_standard {lib : ModelLibrary} (hlib : lib.Lawful) : lib.Accepted standard :=
  (accepted_iff hlib).mpr inLowerCase_standard

-- ====================================================== look-ups

/-- The look-ups of tables do not see case, and they reach every entry. -/
structure IgnoresCase (t : Tables) : Prop where
  same : ∀ x y, Text.lowered x = Text.lowered y →
    t.domainOf x = t.domainOf y ∧ t.isRootTag x = t.isRootTag y
      ∧ t.branchOf? x = t.branchOf? y ∧ t.aliasOf? x = t.aliasOf? y
  domainOf_eq : ∀ e ∈ t.tagDomains, t.domainOf e.1 = e.2
  isRootTag_eq : ∀ tag ∈ t.rootTags, t.isRootTag tag = true
  branchOf?_eq : ∀ e ∈ t.tagBranches, t.branchOf? e.1 = some e.2
  aliasOf?_eq : ∀ e ∈ t.segmentAliases, t.aliasOf? e.1 = some e.2

/-- An entry is found under its key in lower case, if that is how the keys are. -/
theorem lookup_lowered_of_mem {α : Type} {pairs : List (String × α)}
    (h : AreLow (pairs.map (·.1))) {e : String × α} (he : e ∈ pairs) :
    pairs.lookup (Text.lowered e.1) = some e.2 := by
  rw [h.lowered e.1 (List.mem_map_of_mem he)]
  obtain ⟨front, back, rfl⟩ := List.append_of_mem he
  refine List.lookup_eq_some_iff.mpr ⟨front, back, rfl, fun p hp => ?_⟩
  have hnodup := h.nodup
  rw [List.map_append, List.map_cons, List.nodup_append] at hnodup
  simpa using (hnodup.2.2 p.1 (List.mem_map_of_mem hp) e.1 List.mem_cons_self).symm

theorem InLowerCase.ignoresCase {t : Tables} (h : t.InLowerCase) : t.IgnoresCase where
  same x y hxy := by
    unfold domainOf isRootTag branchOf? aliasOf?
    rw [hxy]
    exact ⟨rfl, rfl, rfl, rfl⟩
  domainOf_eq e he := by
    unfold domainOf
    rw [lookup_lowered_of_mem h.tagDomains he, Option.getD_some]
  isRootTag_eq tag htag := by
    unfold isRootTag
    rw [h.rootTags.lowered tag htag]
    exact List.contains_iff_mem.mpr htag
  branchOf?_eq _ he := lookup_lowered_of_mem h.tagBranches he
  aliasOf?_eq _ he := lookup_lowered_of_mem h.segmentAliases he

/-- Whatever the library of data models, if it is lawful: if two overrides can be laid over accepted
tables one after the other, the first with the second laid over it can, and gives the same tables.
Every field that an override does not name is left as it is. The look-ups of the tables that come
out do not see case. -/
theorem overrides_compose {lib : ModelLibrary} (hlib : lib.Lawful) {t u v : Tables}
    {a b : Entries} (ht : lib.Accepted t) (ha : a.IsMapping)
    (hu : t.withOverrides lib a = .ok u) (hv : u.withOverrides lib b = .ok v) :
    t.withOverrides lib (a.insertAll b) = .ok v
      ∧ (∀ c ∈ columns, ¬a.Has (.text c.field.name) → c.get u = c.get t)
      ∧ (∀ c ∈ columns, ¬b.Has (.text c.field.name) → c.get v = c.get u)
      ∧ u.IgnoresCase ∧ v.IgnoresCase := by
  have hacceptedU := accepted_of_withOverrides hu
  have hacceptedV := accepted_of_withOverrides hv
  exact ⟨withOverrides_insertAll hlib ha hu hv, fun _ hc => get_eq_of_not_has hlib ht hu hc,
    fun _ hc => get_eq_of_not_has hlib hacceptedU hv hc,
    ((accepted_iff hlib).mp hacceptedU).ignoresCase,
    ((accepted_iff hlib).mp hacceptedV).ignoresCase⟩

/-- An override with two keys that differ in case only, which become one. -/
def reportsOverride : Entries :=
  [(.text "tag_domains",
    .map [(.text "Reports", .text "times"), (.text "REPORTS", .text "files")])]

/-- An override of another field. -/
def rootOverride : Entries := [(.text "root_tags", .texts ["Reports"])]

/-- Laid over the standard tables one after the other, or as one, by the lax library. -/
theorem reports_then_root :
    ModelLibrary.lax.Lawful ∧ ∃ u v : Tables,
      standard.withOverrides .lax reportsOverride = .ok u
        ∧ u.withOverrides .lax rootOverride = .ok v
        ∧ standard.withOverrides .lax (reportsOverride.insertAll rootOverride) = .ok v
        ∧ v.tagDomains = [("reports", .files)] ∧ v.rootTags = ["reports"]
        ∧ v.domainOf "rePORTS" = .files ∧ v.isRootTag "rePORTS" = true := by
  let u : Tables := { standard with tagDomains := [("reports", .files)] }
  let v : Tables := { u with rootTags := ["reports"] }
  have hlib := ModelLibrary.lawful_lax
  have ha : reportsOverride.IsMapping := List.pairwise_singleton _ _
  have hu : standard.withOverrides .lax reportsOverride = .ok u := by
    refine withOverrides_singleton hlib (accepted_standard hlib)
      (c := ⟨.tagDomains, tagDomains⟩) (List.mem_of_getElem? (i := 2) rfl)
      (eq_valid_iff.mpr ⟨by decide, by decide⟩) ?_
    simp [columns, u]
  have hv : u.withOverrides .lax rootOverride = .ok v := by
    refine withOverrides_singleton hlib (accepted_of_withOverrides hu)
      (c := ⟨.rootTags, rootTags⟩) (List.mem_of_getElem? (i := 3) rfl)
      (eq_valid_iff.mpr ⟨by decide, by decide⟩) ?_
    simp [columns, v]
  have hcompose := overrides_compose hlib (accepted_standard hlib) ha hu hv
  have hsame := hcompose.2.2.2.2.same "rePORTS" "reports" (by decide)
  exact ⟨hlib, u, v, hu, hv, hcompose.1, rfl, rfl, hsame.1.trans (by decide),
    hsame.2.1.trans (by decide)⟩

end Tables

end ApiCommands
