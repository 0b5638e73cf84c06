/-
Merging read back: what a composition that was merged is made of.

# From the answer to the contributions

A run of merging that answers has been through every part: a part that was left
out leads nowhere, and one that was laid over the others leads to a schema, in
one piece if that is composed (`outcome_partWith_eq_ok`). So the run itself
tells the contributions, and that what it had to read could be read. The
induction in `exists_contributes_of_outcome_gatherWith` follows the measure of
the walk, since there is nothing yet to say that the composition is finite.

# What the answer holds

What is gathered is the list of all entries that contributions declare, set one
after the other; so of each key the last value counts, and the keys stand in the
order in which they first appeared. Closing a composition touches no keys but
the four it is about (`find?_of_close_eq_ok`). Together this is the flat reading
(`flatReading_of_close`), and every composition that is merged has one
(`merged_reads_flat`).
-/
import ApiCommands.Proofs.Schema.Merged

namespace ApiCommands

namespace Contribution

variable {c g g' : Contribution} {schema : Value} {entries closed : Entries}

-- ====================================================== what could be absorbed and closed

/-- What was absorbed requires what one can go through. -/
theorem exists_requiredElements_of_absorb (h : g.absorb schema = .ok g') :
    ∃ items, schema.requiredElements = .ok items := by
  unfold absorb Value.requiredNames at h
  cases hitems : schema.requiredElements with
  | ok items => exact ⟨items, rfl⟩
  | error fault =>
      rw [hitems] at h
      cases h

/-- A composition is closed by the properties laid over, and by the names and elements required. -/
theorem close_eq_ok (h : c.close entries = .ok closed) :
    ∃ properties required, ownProperties c.properties (.map entries) = .ok properties
      ∧ ownRequired c.required (.map entries) = .ok required
      ∧ closed = ((if ((entries.erase (.text "allOf")).find? (.text "type")).isSome
            then entries.erase (.text "allOf")
            else entries.erase (.text "allOf") ++ [(.text "type", .text "object")]).insert
          (.text "properties") (.map properties)).insert (.text "required") (.list required) := by
  unfold close at h
  cases hproperties : ownProperties c.properties (.map entries) with
  | error fault =>
      rw [hproperties] at h
      cases h
  | ok properties =>
      cases hrequired : ownRequired c.required (.map entries) with
      | error fault =>
          rw [hproperties, hrequired] at h
          cases h
      | ok required =>
          rw [hproperties, hrequired] at h
          exact ⟨properties, required, rfl, rfl, (Except.ok.inj h).symm⟩

/-- Properties are laid over others only if they are a mapping or nothing. -/
theorem isMap_or_falsy_of_ownProperties {base properties : Entries} {v : Value}
    (h : ownProperties base schema = .ok properties) (hv : schema.get? "properties" = some v) :
    v.isMap = true ∨ v.isTruthy = false := by
  unfold ownProperties at h
  rw [hv] at h
  by_contra hneither
  obtain ⟨hmap, htruthy⟩ := not_or.mp hneither
  cases v with
  | map own => exact hmap rfl
  | scalar s => simp [htruthy] at h
  | list items => simp [htruthy] at h

/-- What was closed can be merged. -/
theorem isMergeable_of_close (h : c.close entries = .ok closed) :
    (Value.map entries).IsMergeable := by
  obtain ⟨properties, required, hproperties, hrequired, -⟩ := close_eq_ok h
  refine ⟨?_, fun _ v hv => isMap_or_falsy_of_ownProperties hproperties hv⟩
  unfold ownRequired at hrequired
  cases hitems : (Value.map entries).requiredElements with
  | ok items => exact ⟨items, rfl⟩
  | error fault =>
      rw [hitems] at hrequired
      cases hrequired

/-- What was closed over contributions and absorbed lays over others what these and the schema
would. -/
theorem absorb_closed_eq_ok {ds : List Value} (hparts : (Value.map entries).parts?.isSome)
    (hclose : (empty.flat ds).close entries = .ok closed)
    (habsorb : g.absorb (.map closed) = .ok g') :
    (Value.map entries).IsMergeable ∧ g' = g.flat (ds ++ [.map entries]) := by
  have hs := isMergeable_of_close hclose
  obtain ⟨hwhole, hlay⟩ := lay_of_close_flat hs hparts hclose
  rw [absorb_eq hwhole, hlay] at habsorb
  exact ⟨hs, (Except.ok.inj habsorb).symm⟩

-- ====================================================== what is gathered

/-- Laid over each other, schemas set the entries of all their properties, one after the other. -/
theorem properties_flat (g : Contribution) (schemas : List Value) :
    (g.flat schemas).properties
      = g.properties.insertAll (schemas.flatMap Value.declaredProperties) := by
  induction schemas generalizing g with
  | nil => rfl
  | cons first rest ih =>
      have hrest := ih (g.lay first)
      rw [List.flatMap_cons]
      unfold Entries.insertAll at hrest ⊢
      rw [List.foldl_append]
      exact hrest

/-- Of each key the value counts that the last schema with the key gives it. -/
theorem find?_properties_flat (schemas : List Value) (key : Scalar) :
    (empty.flat schemas).properties.find? key
      = schemas.reverse.findSome? fun c => c.declaredProperties.last? key := by
  rw [properties_flat, Entries.find?_insertAll]
  unfold Entries.last?
  rw [List.reverse_flatMap, Entries.find?_flatMap]
  simp [empty, Entries.find?]

/-- Keys stand in the order in which the schemas first have them. -/
theorem map_fst_properties_flat (schemas : List Value) :
    (empty.flat schemas).properties.map (·.1)
      = (schemas.flatMap fun c => c.declaredProperties.map (·.1)).eraseDupsBy Scalar.sameKey := by
  rw [properties_flat, Entries.map_fst_insertAll, List.map_flatMap]
  simp [empty]

/-- An entry that is added only where its key is missing is found where there is no other. -/
theorem find?_ite_append (key : Scalar) (name : String) (v : Value) (es : Entries) :
    Entries.find? key (if (es.find? (.text name)).isSome then es else es ++ [(.text name, v)])
      = (es.find? key).or (if key = .text name then some v else none) := by
  by_cases hkey : key = .text name
  · rw [if_pos hkey, hkey]
    cases hfound : es.find? (.text name) with
    | none =>
        rw [if_neg (by simp), Entries.find?_append, hfound]
        simp [Entries.find?, Scalar.sameKey_text_iff]
    | some w =>
        rw [if_pos (by simp), hfound]
        rfl
  · have hother : ¬(Scalar.text name).sameKey key = true := by
      rw [Scalar.sameKey_comm, Scalar.sameKey_text_iff]
      exact hkey
    rw [if_neg hkey, Option.or_none]
    split
    · rfl
    · rw [Entries.find?_append, Entries.find?, if_neg hother]
      exact Option.or_none

/-- A composition is closed without touching other keys than its own. -/
theorem find?_of_close_eq_ok (h : c.close entries = .ok closed) :
    Entries.find? (.text "allOf") closed = none
      ∧ Entries.find? (.text "type") closed
        = some ((Entries.find? (.text "type") entries).getD (.text "object"))
      ∧ ∀ key ∉ [.text "allOf", .text "type", .text "properties", .text "required"],
          Entries.find? key closed = Entries.find? key entries := by
  obtain ⟨properties, required, -, -, rfl⟩ := close_eq_ok h
  have hsame : ∀ (name : String) (key : Scalar),
      (Scalar.text name).sameKey key = true ↔ key = .text name := by
    intro name key
    rw [Scalar.sameKey_comm, Scalar.sameKey_text_iff]
  simp only [Entries.find?_insert, hsame]
  simp only [find?_ite_append]
  simp only [Entries.find?_erase, hsame]
  refine ⟨by simp, ?_, fun key hkey => ?_⟩
  · cases Entries.find? (.text "type") entries <;> simp
  · simp only [List.mem_cons, List.not_mem_nil, or_false, not_or] at hkey
    obtain ⟨hallOf, htype, hproperties, hrequired⟩ := hkey
    rw [if_neg hrequired, if_neg hproperties, if_neg hallOf, if_neg htype, Option.or_none]

-- ====================================================== the flat reading

/-- A composed schema in one piece, read flat. Its properties have the values that the last
contributions give them, in the order in which the first ones have their keys; it requires the
texts that any contribution requires; and the other entries of the schema are kept. -/
structure FlatReading (contributions : List Value) (entries whole : Entries) : Prop where
  properties : ∃ properties : Entries,
    Entries.find? (.text "properties") whole = some (.map properties)
      ∧ (∀ key, properties.find? key
          = contributions.reverse.findSome? fun c => c.declaredProperties.last? key)
      ∧ properties.map (·.1)
          = (contributions.flatMap fun c => c.declaredProperties.map (·.1)).eraseDupsBy
              Scalar.sameKey
  required : ∃ required, Entries.find? (.text "required") whole = some (.list required)
    ∧ ∀ name, .text name ∈ required ↔ ∃ c ∈ contributions, name ∈ c.requiredTexts
  type : Entries.find? (.text "type") whole
    = some ((Entries.find? (.text "type") entries).getD (.text "object"))
  parts : Entries.find? (.text "allOf") whole = none
  kept : ∀ key ∉ [.text "allOf", .text "type", .text "properties", .text "required"],
    Entries.find? key whole = Entries.find? key entries

/-- What is closed over contributions reads flat as them and the schema. -/
theorem flatReading_of_close {cs : List Value} (hparts : (Value.map entries).parts?.isSome)
    (h : (empty.flat cs).close entries = .ok closed) :
    FlatReading (cs ++ [.map entries]) entries closed := by
  have hschema := isMergeable_of_close h
  obtain ⟨hallOf, htype, hkept⟩ := find?_of_close_eq_ok h
  obtain ⟨properties, required, hproperties, hrequired, rfl⟩ := close_eq_ok h
  refine ⟨⟨properties, ?_, ?_⟩, ⟨required, ?_, fun name => ?_⟩, htype, hallOf, hkept⟩
  · rw [Entries.find?_insert, if_neg (by decide), Entries.find?_insert, if_pos (by decide)]
  · have hflat : properties = (empty.flat (cs ++ [.map entries])).properties := by
      rw [ownProperties_eq hschema hparts] at hproperties
      rw [flat_append, ← Except.ok.inj hproperties]
      rfl
    rw [hflat]
    exact ⟨find?_properties_flat _, map_fst_properties_flat _⟩
  · rw [Entries.find?_insert, if_pos (by decide)]
  · obtain ⟨required', hrequired', hnames⟩ := exists_ownRequired_eq hschema (empty.flat cs).required
    obtain rfl := Except.ok.inj (hrequired.symm.trans hrequired')
    have hbelow : name ∈ (empty.flat cs).required ↔ ∃ c ∈ cs, name ∈ c.requiredTexts := by
      rw [mem_required_flat_iff, or_iff_right (by simp [empty])]
    rw [← Value.mem_typeNames_iff, hnames, List.mem_append, List.mem_filter, hbelow]
    simp only [List.mem_append, List.mem_singleton, or_and_right, exists_or, exists_eq_left]
    by_cases hgathered : name ∈ (empty.flat cs).required
    · simp [hbelow.mp hgathered]
    · simp [hgathered]

end Contribution

namespace Api

variable {a : Api} {known fresh : List String} {s part whole : Value} {found : Option Value}

-- ====================================================== runs taken apart

/-- A composed schema that was merged is closed over what its parts gave. -/
theorem outcome_mergedWith_eq_ok {start : List String} {parts : List Value}
    (hparts : s.parts? = some parts) (h : (a.mergedWith start fresh s).outcome = .ok whole) :
    ∃ entries c closed, s = .map entries
      ∧ (a.gatherWith start fresh .empty parts).outcome = .ok c
      ∧ c.close entries = .ok closed ∧ whole = .map closed := by
  rw [mergedWith] at h
  split at h
  · next hnone =>
    rw [hparts] at hnone
    cases hnone
  · next inner hinner =>
    obtain rfl := Option.some.inj (hparts.symm.trans hinner)
    obtain ⟨c, hc, hrest⟩ := Noted.outcome_bind_eq_ok_iff.mp h
    cases s with
    | scalar _ => cases hparts
    | list _ => cases hparts
    | map entries =>
        dsimp only at hrest
        cases hclose : c.close entries with
        | error fault =>
            rw [hclose] at hrest
            cases hrest
        | ok closed =>
            rw [hclose] at hrest
            exact ⟨entries, c, closed, rfl, hc, hclose, (Except.ok.inj hrest).symm⟩

/-- A part that was walked leads nowhere and was left out, or leads to a schema. A plain one it is,
as it stands; a composed one was merged, in a walk with fewer fresh references or at the part
itself. -/
theorem outcome_partWith_eq_ok (hknown : part.references ⊆ known) (hdocument : a.references ⊆ known)
    (h : (a.partWith known fresh part).outcome = .ok found) :
    (found = none ∧ ∀ s, ¬a.Leads part s)
      ∨ ∃ s whole, found = some whole ∧ a.Leads part s
        ∧ (s.parts? = none ∧ whole = s
          ∨ s.parts?.isSome
            ∧ (a.mergedWith known (freshInside fresh part) s).outcome = .ok whole
            ∧ ((freshInside fresh part).length < fresh.length
              ∨ freshInside fresh part = fresh ∧ s = part)) := by
  rw [partWith] at h
  cases href : part.ref? with
  | none =>
      have hinside : freshInside fresh part = fresh := by
        unfold freshInside
        rw [href]
        rfl
      rw [href] at h
      dsimp only at h
      by_cases hmap : part.isMap = true
      · rw [if_pos hmap] at h
        obtain ⟨whole, hwhole, rfl⟩ := Noted.outcome_map_eq_ok_iff.mp h
        refine Or.inr ⟨part, whole, rfl, ⟨[], .here href hmap⟩, ?_⟩
        cases hparts : part.parts? with
        | none =>
            rw [mergedWith_of_plain _ _ hparts] at hwhole
            exact Or.inl ⟨rfl, (Except.ok.inj hwhole).symm⟩
        | some inner =>
            rw [hinside]
            exact Or.inr ⟨rfl, hwhole, Or.inr ⟨rfl, rfl⟩⟩
      · rw [if_neg hmap] at h
        refine Or.inl ⟨(Except.ok.inj h).symm, ?_⟩
        rintro s ⟨refs, hchain⟩
        exact hmap hchain.isMap
  | some ref =>
      have hinside : freshInside fresh part = fresh.erase ref := by
        unfold freshInside
        rw [href, Option.toList_some, List.diff_cons, List.diff_nil]
      rw [href] at h
      dsimp only at h
      obtain ⟨target, htarget, hrest⟩ := Noted.outcome_bind_eq_ok_iff.mp h
      cases target with
      | none =>
          refine Or.inl ⟨(Except.ok.inj hrest).symm, ?_⟩
          rintro s ⟨refs, hchain⟩
          have hderef := derefWith_of_chain hchain (hchain.subset_references hknown hdocument).1
          rw [htarget] at hderef
          cases hderef
      | some s =>
          dsimp only at hrest
          cases hparts : s.parts? with
          | none =>
              rw [hparts] at hrest
              exact Or.inr ⟨s, s, (Except.ok.inj hrest).symm, leads_of_derefWith htarget,
                Or.inl ⟨hparts, rfl⟩⟩
          | some inner =>
              rw [hparts] at hrest
              dsimp only [Option.isNone_some] at hrest
              rw [if_neg Bool.false_ne_true] at hrest
              by_cases hfresh : ref ∈ fresh
              · rw [dif_pos hfresh] at hrest
                obtain ⟨whole, hwhole, rfl⟩ := Noted.outcome_map_eq_ok_iff.mp hrest
                refine Or.inr ⟨s, whole, rfl, leads_of_derefWith htarget, Or.inr ⟨?_, ?_, ?_⟩⟩
                · rw [hparts]
                  rfl
                · rw [hinside]
                  exact hwhole
                · rw [hinside]
                  exact Or.inl (length_erase_lt hfresh)
              · rw [dif_neg hfresh] at hrest
                cases hrest

/-- Gathering goes through its first part. -/
theorem exists_outcome_partWith_of_gatherWith {g g' : Contribution} {rest : List Value}
    (h : (a.gatherWith known fresh g (part :: rest)).outcome = .ok g') :
    ∃ found, (a.partWith known fresh part).outcome = .ok found := by
  rw [gatherWith] at h
  obtain ⟨found, hfound, -⟩ := Noted.outcome_bind_eq_ok_iff.mp h
  exact ⟨found, hfound⟩

/-- A part that was left out leaves what is gathered as it is. -/
theorem outcome_gatherWith_of_left_out {g : Contribution} {rest : List Value}
    (hpart : (a.partWith known fresh part).outcome = .ok none) :
    (a.gatherWith known fresh g (part :: rest)).outcome
      = (a.gatherWith known fresh g rest).outcome := by
  rw [gatherWith, Noted.outcome_bind, hpart]
  rfl

/-- A part in one piece was absorbed. -/
theorem exists_absorb_of_gatherWith {g g' : Contribution} {rest : List Value}
    (hpart : (a.partWith known fresh part).outcome = .ok (some whole))
    (h : (a.gatherWith known fresh g (part :: rest)).outcome = .ok g') :
    ∃ next, g.absorb whole = .ok next
      ∧ (a.gatherWith known fresh next rest).outcome = .ok g' := by
  rw [gatherWith, Noted.outcome_bind, hpart] at h
  dsimp only [Except.bind] at h
  cases habsorb : g.absorb whole with
  | error fault =>
      rw [habsorb] at h
      cases h
  | ok next =>
      rw [habsorb] at h
      exact ⟨next, rfl, h⟩

-- ====================================================== contributions of a run

/-- The rest of a list is smaller. -/
private theorem sizeOf_lt_sizeOf_cons (part : Value) (rest : List Value) :
    sizeOf rest < sizeOf (part :: rest) := by
  simp only [List.cons.sizeOf_spec]
  omega

/-- The parts of what a part leads to are reached with fewer fresh references, or stand in it. -/
private theorem lex_of_inside {inner : List Value} (rest : List Value) (hinner : s.parts? = some inner)
    (h : (freshInside fresh part).length < fresh.length
      ∨ freshInside fresh part = fresh ∧ s = part) :
    Prod.Lex (· < ·) (· < ·) ((freshInside fresh part).length, sizeOf inner)
      (fresh.length, sizeOf (part :: rest)) := by
  rcases h with hfewer | ⟨hsame, rfl⟩
  · exact .left _ _ hfewer
  · have hsize := Value.sizeOf_parts?_lt hinner
    rw [hsame]
    refine .right _ ?_
    simp only [List.cons.sizeOf_spec]
    omega

/-- What was gathered are the contributions of the parts, laid over each other; and all of them can
be merged. -/
theorem exists_contributes_of_outcome_gatherWith {fresh : List String} {parts : List Value}
    {g g' : Contribution} (hknown : ∀ part ∈ parts, part.references ⊆ known)
    (hdocument : a.references ⊆ known)
    (h : (a.gatherWith known fresh g parts).outcome = .ok g') :
    ∃ cs, a.Contributes parts cs ∧ (∀ c ∈ cs, c.IsMergeable) ∧ g' = g.flat cs := by
  match parts with
  | [] =>
      rw [gatherWith] at h
      exact ⟨[], .nil, List.forall_mem_nil _, (Except.ok.inj h).symm⟩
  | part :: rest =>
      have hpart : part.references ⊆ known := hknown part List.mem_cons_self
      have hrest : ∀ p ∈ rest, p.references ⊆ known :=
        fun p hp => hknown p (List.mem_cons_of_mem _ hp)
      obtain ⟨found, hfound⟩ := exists_outcome_partWith_of_gatherWith h
      rcases outcome_partWith_eq_ok hpart hdocument hfound with
        ⟨rfl, hleads⟩ | ⟨s, whole, rfl, hleads, hwhole⟩
      · rw [outcome_gatherWith_of_left_out hfound] at h
        obtain ⟨cs, hcs, hmerge, hg⟩ := exists_contributes_of_outcome_gatherWith hrest hdocument h
        exact ⟨cs, .skip hleads hcs, hmerge, hg⟩
      · obtain ⟨next, habsorb, hrun⟩ := exists_absorb_of_gatherWith hfound h
        obtain ⟨cs, hcs, hmerge, rfl⟩ :=
          exists_contributes_of_outcome_gatherWith hrest hdocument hrun
        rcases hwhole with ⟨hplain, rfl⟩ | ⟨hsome, hmerged, hsmaller⟩
        · have hs : whole.IsMergeable :=
            ⟨Contribution.exists_requiredElements_of_absorb habsorb,
              fun hparts => by rw [hplain] at hparts; cases hparts⟩
          rw [Contribution.absorb_eq hs] at habsorb
          obtain rfl := Except.ok.inj habsorb
          exact ⟨whole :: cs, .plain hleads hplain hcs, List.forall_mem_cons.mpr ⟨hs, hmerge⟩, rfl⟩
        · -- a composed part was merged on its own before, with what its own parts contribute
          obtain ⟨inner, hinner⟩ := Option.isSome_iff_exists.mp hsome
          obtain ⟨entries, c, closed, rfl, hgather, hclose, rfl⟩ :=
            outcome_mergedWith_eq_ok hinner hmerged
          have hreferences := hleads.references_subset hpart hdocument
          have hdeeper := lex_of_inside rest hinner hsmaller
          obtain ⟨ds, hds, hinnerMerge, rfl⟩ := exists_contributes_of_outcome_gatherWith
            (fun p hp => List.Subset.trans (Value.references_subset_of_part hinner hp) hreferences)
            hdocument hgather
          obtain ⟨hs, rfl⟩ := Contribution.absorb_closed_eq_ok hsome hclose habsorb
          refine ⟨ds ++ .map entries :: cs, .composed hleads hinner hds hcs, ?_, ?_⟩
          · exact List.forall_mem_append.mpr ⟨hinnerMerge, List.forall_mem_cons.mpr ⟨hs, hmerge⟩⟩
          · rw [← Contribution.flat_append, List.append_assoc, List.singleton_append]
termination_by (fresh.length, sizeOf parts)
decreasing_by
  · exact .right _ (sizeOf_lt_sizeOf_cons part rest)
  · exact .right _ (sizeOf_lt_sizeOf_cons part rest)
  · exact hdeeper

/-- A composed schema that is merged is a flat reading of what its parts contribute and of itself:
every part that leads to a schema with the contributions of its own parts before it. -/
theorem merged_reads_flat {parts : List Value} (hparts : s.parts? = some parts)
    (h : (a.merged s).outcome = .ok whole) :
    ∃ entries closed contributions, s = .map entries ∧ whole = .map closed
      ∧ a.Contributes parts contributions
      ∧ Contribution.FlatReading (contributions ++ [s]) entries closed := by
  obtain ⟨entries, c, closed, rfl, hgather, hclose, rfl⟩ := outcome_mergedWith_eq_ok hparts h
  obtain ⟨contributions, hcontributes, -, rfl⟩ := exists_contributes_of_outcome_gatherWith
    (fun _ hpart => List.Subset.trans (Value.references_subset_of_part hparts hpart)
      (a.node_references_subset_fresh _)) (a.references_subset_fresh _) hgather
  have hsome : (Value.map entries).parts?.isSome := by
    rw [hparts]
    rfl
  exact ⟨entries, closed, contributions, rfl, rfl, hcontributes,
    Contribution.flatReading_of_close hsome hclose⟩

end Api

-- ====================================================== a part that is composed itself

namespace ComposedTask

/-- A schema that says only the type of a value. -/
def typed (type : String) : Value := .map [(.text "type", .text type)]

/-- A reference. -/
def refTo (ref : String) : Value := .map [(.text "$ref", .text ref)]

/-- A schema with a name and a note, which requires the name and something that is no name. -/
def named : Value :=
  .map
    [(.text "properties", .map [(.text "name", typed "string"), (.text "note", typed "string")]),
     (.text "required", .list [.text "name", .int 3])]

/-- A schema with parts: the one with a name, and one that is missing. -/
def task : Value :=
  .map
    [(.text "allOf", .list [refTo "#/Named", refTo "#/Missing"]),
     (.text "properties", .map [(.text "done", typed "boolean")]),
     (.text "required", .list [.text "done", .text "name"])]

/-- A part with a name of another type. -/
def numbered : Value :=
  .map [(.text "properties", .map [(.text "name", typed "integer"), (.text "owner", typed "integer")])]

/-- A schema with these parts, a property that one of them has, and a description. -/
def schema : Value :=
  .map
    [(.text "allOf", .list [refTo "#/Task", numbered]),
     (.text "description", .text "A numbered task"),
     (.text "properties", .map [(.text "owner", typed "string")])]

def api : Api := .ofDocument (.map [(.text "Named", named), (.text "Task", task)])

/-- The schema in one piece. -/
def whole : Value :=
  .map
    [(.text "description", .text "A numbered task"),
     (.text "properties", .map
       [(.text "name", typed "integer"), (.text "note", typed "string"),
        (.text "done", typed "boolean"), (.text "owner", typed "string")]),
     (.text "type", .text "object"),
     (.text "required", .list [.text "name", .text "done"])]

theorem resolve_named : (api.resolve "#/Named").outcome = .ok (some named) := by cbv

theorem resolve_task : (api.resolve "#/Task").outcome = .ok (some task) := by cbv

theorem resolve_missing : (api.resolve "#/Missing").outcome = .ok none := by cbv

/-- The parts contribute what they lead to, and the schema with a name before the one that is made
of it; the part that is missing contributes nothing. -/
theorem contributes : api.Contributes [refTo "#/Task", numbered] [named, task, numbered] := by
  have hnamed : api.Leads (refTo "#/Named") named := ⟨_, .follow rfl resolve_named (.here rfl rfl)⟩
  have htask : api.Leads (refTo "#/Task") task := ⟨_, .follow rfl resolve_task (.here rfl rfl)⟩
  have hmissing : ∀ s, ¬api.Leads (refTo "#/Missing") s := by
    rintro s ⟨refs, hchain⟩
    cases hchain with
    | here href => cases href
    | follow href hresolve _ =>
        obtain rfl := Option.some.inj href
        rw [resolve_missing] at hresolve
        cases hresolve
  exact .composed htask rfl (.plain hnamed rfl (.skip hmissing .nil))
    (.plain ⟨[], .here rfl rfl⟩ rfl .nil)

/-- The references that a merge may meet, all of which can be read. -/
theorem readable : api.Readable (api.fresh [] schema) := by
  have hfresh : api.fresh [] schema = ["#/Task", "#/Named", "#/Missing"] := by decide
  rw [hfresh]
  intro ref href
  simp only [List.mem_cons, List.not_mem_nil, or_false] at href
  rcases href with rfl | rfl | rfl
  · exact ⟨_, resolve_task⟩
  · exact ⟨_, resolve_named⟩
  · exact ⟨_, resolve_missing⟩

/-- The schema is merged. -/
theorem outcome_merged : (api.merged schema).outcome = .ok whole := by
  have hground : api.Grounded schema := by
    refine Acc.intro schema ?_
    rintro t ⟨parts, part, hparts, hmem, hleads⟩
    obtain rfl := Option.some.inj hparts
    exact contributes.grounded part hmem t hleads
  have hmerge : ∀ c ∈ [named, task, numbered], c.IsMergeable := by
    intro c hc
    simp only [List.mem_cons, List.not_mem_nil, or_false] at hc
    rcases hc with rfl | rfl | rfl
    all_goals
      refine ⟨⟨_, rfl⟩, fun _ v hv => Or.inl ?_⟩
      obtain rfl := Option.some.inj hv
      rfl
  have hgather := Api.outcome_gatherWith (api.references_subset_fresh _) readable contributes
    hground (api.node_references_subset_fresh _) (.start _ _) rfl (fun _ hpart => hpart) hmerge
    .empty
  exact Api.outcome_mergedWith rfl hgather rfl

end ComposedTask

/-- A schema with a composed part is its flat reading: the part brings what it is made of. -/
theorem Api.composed_task_reads_flat :
    ComposedTask.schema.parts? = some [ComposedTask.refTo "#/Task", ComposedTask.numbered]
      ∧ (ComposedTask.api.merged ComposedTask.schema).outcome = .ok ComposedTask.whole
      ∧ ∃ entries closed, ComposedTask.schema = .map entries ∧ ComposedTask.whole = .map closed
        ∧ Contribution.FlatReading
          [ComposedTask.named, ComposedTask.task, ComposedTask.numbered, ComposedTask.schema]
          entries closed := by
  have hparts : ComposedTask.schema.parts?
      = some [ComposedTask.refTo "#/Task", ComposedTask.numbered] := rfl
  have hmerged := ComposedTask.outcome_merged
  obtain ⟨entries, closed, contributions, hentries, hclosed, hcontributes, hflat⟩ :=
    Api.merged_reads_flat hparts hmerged
  obtain rfl := hcontributes.unique ComposedTask.contributes
  exact ⟨hparts, hmerged, entries, closed, hentries, hclosed, hflat⟩

end ApiCommands
