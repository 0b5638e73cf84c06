/-
The properties of a request body: the flat reading.

# Marks

What the two readers of a composition have in common of a property is its name
in lower case and whether it is required: its mark. Of properties that go by one
name the last counts, so a list of marks says of a name what its last mark says
(`flag?`). Putting properties in each other's place leaves one per name and does
not change what is said (`flag?_foldl_override`).

# Reading parts

The body reader follows references one by one and strikes out each, so inside a
part all those on its chain are struck out (`outcome_bodyFieldsWith_of_chain`).
They lead to the part; so, as for merging, no reference that is needed further
down is missing. The induction in `exists_outcome_partFieldsWith` is on the
contributions. A composed schema has no marks of its own: the reader takes those
of its parts and nothing else.
-/
import ApiCommands.Proofs.Schema.Merged
import Mathlib.Data.List.Nodup

namespace ApiCommands

-- ====================================================== marks

/-- A name in lower case and whether it is required. -/
abbrev Mark := String × Bool

/-- The mark of a body property. -/
def BodyProperty.mark (p : BodyProperty) : Mark := (Text.lowered p.name, p.required)

/-- What marks say of a name: what the last one with this name says. -/
def flag? (marks : List Mark) (key : String) : Option Bool := marks.reverse.lookup key

theorem flag?_append (marks more : List Mark) (key : String) :
    flag? (marks ++ more) key = (flag? more key).or (flag? marks key) := by
  unfold flag?
  rw [List.reverse_append, List.lookup_append]

theorem flag?_singleton (mark : Mark) (key : String) :
    flag? [mark] key = if key = mark.1 then some mark.2 else none := by
  unfold flag?
  rw [List.reverse_singleton, List.lookup_cons]
  by_cases h : key = mark.1
  · rw [beq_iff_eq.mpr h, if_pos h]
  · rw [beq_eq_false_iff_ne.mpr h, if_neg h]
    rfl

/-- Marks of other names say nothing. -/
theorem flag?_filter {marks : List Mark} {p : Mark → Bool} {key : String}
    (h : ∀ mark ∈ marks, mark.1 = key → p mark = true) :
    flag? (marks.filter p) key = flag? marks key := by
  induction marks with
  | nil => rfl
  | cons mark rest ih =>
      have hrest := ih fun other hother => h other (List.mem_cons_of_mem _ hother)
      rw [← List.singleton_append (l := rest), flag?_append, List.filter_append, flag?_append,
        hrest]
      refine congrArg _ ?_
      by_cases hp : p mark = true
      · rw [List.filter_cons_of_pos hp, List.filter_nil]
      · rw [List.filter_cons_of_neg hp, List.filter_nil, flag?_singleton, if_neg]
        · rfl
        · exact fun heq => hp (h mark List.mem_cons_self heq.symm)

/-- A name has a flag exactly if it has a mark. -/
theorem flag?_isSome_iff {marks : List Mark} {key : String} :
    (flag? marks key).isSome ↔ ∃ mark ∈ marks, mark.1 = key := by
  unfold flag?
  rw [List.lookup_isSome_iff]
  simp

/-- Putting a property in the place of those of its name changes what is said of this name only. -/
theorem flag?_override (fields : List BodyProperty) (p : BodyProperty) (key : String) :
    flag? ((BodyProperty.override fields p).map BodyProperty.mark) key
      = flag? ((fields ++ [p]).map BodyProperty.mark) key := by
  unfold BodyProperty.override
  rw [List.map_append, List.map_append, flag?_append, flag?_append, List.map_singleton,
    flag?_singleton]
  by_cases hkey : key = p.mark.1
  · rw [if_pos hkey, Option.some_or, Option.some_or]
  · rw [if_neg hkey, Option.none_or, Option.none_or]
    have hmap : (fields.filter fun q => Text.lowered q.name != Text.lowered p.name).map
        BodyProperty.mark = (fields.map BodyProperty.mark).filter (·.1 != p.mark.1) := by
      rw [List.filter_map]
      rfl
    rw [hmap]
    refine flag?_filter fun mark _ heq => ?_
    rw [heq]
    simpa using hkey

/-- Nor does putting several, one after the other. -/
theorem flag?_foldl_override (fields more : List BodyProperty) (key : String) :
    flag? ((more.foldl BodyProperty.override fields).map BodyProperty.mark) key
      = flag? ((fields ++ more).map BodyProperty.mark) key := by
  induction more generalizing fields with
  | nil => rw [List.append_nil]; rfl
  | cons p rest ih =>
      rw [List.foldl_cons, ih, List.map_append, flag?_append, flag?_override, ← flag?_append,
        ← List.map_append, List.append_assoc]
      rfl

/-- What is put in place has one property per name. -/
theorem nodup_foldl_override {fields : List BodyProperty}
    (h : (fields.map fun p => Text.lowered p.name).Nodup) (more : List BodyProperty) :
    ((more.foldl BodyProperty.override fields).map fun p => Text.lowered p.name).Nodup := by
  induction more generalizing fields with
  | nil => exact h
  | cons p rest ih =>
      refine ih ?_
      unfold BodyProperty.override
      rw [List.map_append, List.nodup_append]
      refine ⟨h.sublist (List.filter_sublist.map _), List.nodup_singleton _, ?_⟩
      rintro key hkey other hother rfl
      obtain ⟨q, hq, rfl⟩ := List.mem_map.mp hkey
      have hne := (List.mem_filter.mp hq).2
      rw [List.map_singleton, List.mem_singleton] at hother
      simp [hother] at hne

-- ====================================================== what a schema declares

namespace Value

/-- The names of the properties a schema declares itself, in lower case. -/
def fieldKeys (schema : Value) : List String :=
  (typeNames (schema.declaredProperties.map fun e => scalar e.1)).map Text.lowered

/-- The schema itself requires a name, whatever its case. -/
def requires (schema : Value) (key : String) : Bool :=
  (schema.requiredTexts.map Text.lowered).contains key

/-- The marks of the properties a schema declares itself. -/
def marks (schema : Value) : List Mark :=
  schema.fieldKeys.map fun key => (key, schema.requires key)

/-- An object schema whose properties can be read: it has no other type, one can go through what it
requires, and the names of its properties are texts. -/
structure IsObject (schema : Value) : Prop where
  typed : schema.type?.any (· != "object") = false
  required : ∃ items, schema.requiredElements = .ok items
  named : ∀ e ∈ schema.declaredProperties, ∃ name, e.1 = .text name

end Value

namespace Api

variable {a : Api} {known fresh : List String} {node s : Value}

-- ====================================================== kinds

/-- Where fresh references can be read, following one gives an answer, and those left can be
read. -/
theorem exists_outcome_follow? (h : a.Readable fresh) (node : Value) :
    ∃ next, (a.follow? fresh node).outcome = .ok next
      ∧ ∀ followed, next = some followed → a.Readable followed.remaining := by
  unfold follow?
  split
  · exact ⟨none, rfl, fun _ heq => by cases heq⟩
  · next ref href =>
    split
    · next hfresh =>
      obtain ⟨found, hresolve⟩ := h ref hfresh
      rw [Noted.outcome_bind, hresolve]
      cases found with
      | none => exact ⟨none, rfl, fun _ heq => by cases heq⟩
      | some target =>
          cases target with
          | map entries =>
              refine ⟨_, rfl, fun followed heq => ?_⟩
              cases heq
              exact h.erase ref
          | scalar _ => exact ⟨none, rfl, fun _ heq => by cases heq⟩
          | list _ => exact ⟨none, rfl, fun _ heq => by cases heq⟩
    · exact ⟨none, rfl, fun _ heq => by cases heq⟩

mutual

/-- Where fresh references can be read, every schema has a kind. -/
theorem exists_outcome_kindWith {fresh : List String} (h : a.Readable fresh) (schema : Value) :
    ∃ kind, (a.kindWith fresh schema).outcome = .ok kind := by
  obtain ⟨next, hnext, hremaining⟩ := exists_outcome_follow? h schema
  rw [kindWith, Noted.outcome_bind, hnext]
  cases next with
  | some followed =>
      have := followed.fewer
      exact exists_outcome_kindWith (hremaining followed rfl) followed.target
  | none =>
      dsimp only [Except.bind]
      split
      · exact ⟨_, rfl⟩
      · next parts hparts =>
        have := Value.sizeOf_parts?_lt hparts
        obtain ⟨first, hfirst⟩ := exists_outcome_firstKindWith h parts
        rw [Noted.outcome_bind, hfirst]
        cases first <;> exact ⟨_, rfl⟩
termination_by (fresh.length, sizeOf schema)

/-- Nor does looking for the first known kind fail. -/
theorem exists_outcome_firstKindWith {fresh : List String} (h : a.Readable fresh)
    (schemas : List Value) : ∃ found, (a.firstKindWith fresh schemas).outcome = .ok found := by
  match schemas with
  | [] =>
      rw [firstKindWith]
      exact ⟨none, rfl⟩
  | schema :: rest =>
      obtain ⟨kind, hkind⟩ := exists_outcome_kindWith h schema
      obtain ⟨found, hfound⟩ := exists_outcome_firstKindWith h rest
      rw [firstKindWith, Noted.outcome_bind, hkind]
      cases kind with
      | unknown => exact ⟨found, hfound⟩
      | scalar => exact ⟨_, rfl⟩
      | array => exact ⟨_, rfl⟩
      | object => exact ⟨_, rfl⟩
termination_by (fresh.length, sizeOf schemas)

end

-- ====================================================== declared properties

/-- Properties with texts for names are read with their marks. -/
theorem exists_outcome_ownFields (h : a.Readable fresh) (required : List String) {entries : Entries}
    (hnamed : ∀ e ∈ entries, ∃ name, e.1 = .text name) :
    ∃ fields, (a.ownFields fresh required entries).outcome = .ok fields
      ∧ fields.map BodyProperty.mark
        = ((Value.typeNames (entries.map fun e => .scalar e.1)).map Text.lowered).map
            fun key => (key, required.contains key) := by
  induction entries with
  | nil => exact ⟨[], rfl, rfl⟩
  | cons e rest ih =>
      obtain ⟨k, schema⟩ := e
      obtain ⟨name, rfl⟩ := hnamed _ List.mem_cons_self
      obtain ⟨kind, hkind⟩ := exists_outcome_kindWith h schema
      obtain ⟨fields, hfields, hmarks⟩ := ih fun e he => hnamed e (List.mem_cons_of_mem _ he)
      refine ⟨⟨name, kind, required.contains (Text.lowered name)⟩ :: fields, ?_, ?_⟩
      · rw [ownFields, Noted.outcome_bind, hkind]
        show Noted.outcome (a.ownFields fresh required rest >>= _) = _
        rw [Noted.outcome_bind, hfields]
        rfl
      · rw [List.map_cons, hmarks]
        rfl

/-- An object schema is read with its marks. -/
theorem exists_outcome_declaredFields (h : a.Readable fresh) (hs : s.IsObject) :
    ∃ fields, (a.declaredFields fresh s).outcome = .ok fields
      ∧ fields.map BodyProperty.mark = s.marks := by
  have hnamed := hs.named
  obtain ⟨items, hitems⟩ := hs.required
  unfold declaredFields
  rw [hs.typed, if_neg Bool.false_ne_true]
  unfold Value.marks Value.fieldKeys Value.requires
  unfold Value.declaredProperties at hnamed ⊢
  cases hproperties : s.properties? with
  | none => exact ⟨[], rfl, rfl⟩
  | some properties =>
      rw [hproperties] at hnamed
      dsimp only
      rw [Value.requiredNames_of_elements hitems, Value.requiredTexts_of_elements hitems]
      exact exists_outcome_ownFields h _ hnamed

-- ====================================================== following references

/-- A fresh reference to a mapping is followed. -/
theorem exists_outcome_follow?_eq {ref : String} {target : Value} (href : node.ref? = some ref)
    (hfresh : ref ∈ fresh) (hresolve : (a.resolve ref).outcome = .ok (some target))
    (hmap : target.isMap = true) :
    ∃ followed : Followed fresh, (a.follow? fresh node).outcome = .ok (some followed)
      ∧ followed.target = target ∧ followed.remaining = fresh.erase ref := by
  unfold follow?
  split
  · next hnone =>
    rw [href] at hnone
    cases hnone
  · next other hother =>
    obtain rfl := Option.some.inj (href.symm.trans hother)
    rw [dif_pos hfresh, Noted.outcome_bind, hresolve]
    cases target with
    | scalar _ => cases hmap
    | list _ => cases hmap
    | map entries => exact ⟨_, rfl, rfl, rfl⟩

/-- A node is read as the end of its chain, with the references on it struck out. -/
theorem outcome_bodyFieldsWith_of_chain {refs : List String} (h : a.Chain node refs s)
    (hfresh : refs ⊆ fresh) :
    (a.bodyFieldsWith fresh node).outcome = (a.bodyFieldsWith (fresh.diff refs) s).outcome := by
  induction h generalizing fresh with
  | here => rw [List.diff_nil]
  | @follow node target s first refs href hresolve h ih =>
      obtain ⟨hfirst, hrefs⟩ := List.cons_subset.mp hfresh
      obtain ⟨followed, hfollowed, htarget, hremaining⟩ :=
        exists_outcome_follow?_eq href hfirst hresolve h.isMap
      have hrest := (Chain.follow href hresolve h).subset_erase hrefs
      rw [List.diff_cons, ← ih hrest, bodyFieldsWith, Noted.outcome_bind, hfollowed]
      show (a.bodyFieldsWith followed.remaining followed.target).outcome = _
      rw [htarget, hremaining]

/-- A schema without a reference is not followed. -/
theorem follow?_of_ref?_eq_none (fresh : List String) (h : node.ref? = none) :
    a.follow? fresh node = pure none := by
  unfold follow?
  split
  · rfl
  · next ref href =>
    rw [h] at href
    cases href

/-- A schema without parts is read by what it declares. -/
theorem outcome_bodyFieldsWith_of_plain (href : s.ref? = none) (hparts : s.parts? = none) :
    (a.bodyFieldsWith fresh s).outcome = (a.declaredFields fresh s).outcome := by
  rw [bodyFieldsWith, follow?_of_ref?_eq_none fresh href, pure_bind]
  dsimp only
  split
  · rfl
  · next parts hsome =>
    rw [hparts] at hsome
    cases hsome

/-- A composed schema is read by its parts only. -/
theorem outcome_bodyFieldsWith_of_composed {parts : List Value} {fields : List BodyProperty}
    (href : s.ref? = none) (hparts : s.parts? = some parts)
    (hfields : (a.partFieldsWith fresh parts).outcome = .ok fields) :
    (a.bodyFieldsWith fresh s).outcome = .ok (fields.foldl BodyProperty.override []) := by
  rw [bodyFieldsWith, follow?_of_ref?_eq_none fresh href, pure_bind]
  dsimp only
  split
  · next hnone =>
    rw [hparts] at hnone
    cases hnone
  · next inner hinner =>
    obtain rfl := Option.some.inj (hparts.symm.trans hinner)
    rw [Noted.outcome_bind, hfields]
    rfl

-- ====================================================== all parts

/-- The marks that a contribution has for the reader of bodies: a composed schema has none. -/
def readMarks (c : Value) : List Mark := if c.parts?.isNone then c.marks else []

/-- Every part on the way down leads to a schema. -/
def Complete (a : Api) (schema : Value) : Prop :=
  ∀ s, Relation.ReflTransGen a.HasPart schema s → ∀ parts, s.parts? = some parts →
    ∀ part ∈ parts, ∃ t, a.Leads part t

/-- A part is read as the schema it leads to, which then stands on the trail. -/
theorem exists_outcome_bodyFieldsWith_eq (hdocument : a.references ⊆ known) (hs : a.Grounded s)
    (hrefs : s.references ⊆ known) (htrail : a.Trail known fresh s) {all : List Value}
    (hall : s.parts? = some all) {part t : Value} (hmem : part ∈ all) (hpart : a.Leads part t) :
    ∃ inside, inside ⊆ fresh ∧ a.Trail known inside t
      ∧ (a.bodyFieldsWith fresh part).outcome = (a.bodyFieldsWith inside t).outcome := by
  have hhas : a.HasPart s t := ⟨all, part, hall, hmem, hpart⟩
  obtain ⟨refs, hchain⟩ := hpart
  have hknown := (hchain.subset_references
    (List.Subset.trans (Value.references_subset_of_part hall hmem) hrefs) hdocument).1
  have hfresh : refs ⊆ fresh := fun ref href =>
    htrail.mem_fresh hs.not_transGen hhas (hchain.refLeads_of_mem href) (hknown href)
  exact ⟨fresh.diff refs, List.diff_subset _ _,
    htrail.diff hhas fun ref href => hchain.refLeads_of_mem href,
    outcome_bodyFieldsWith_of_chain hchain hfresh⟩

/-- The properties of a first part and of the others, in a row. -/
theorem outcome_partFieldsWith_cons {part : Value} {rest : List Value}
    {first fields : List BodyProperty} (hfirst : (a.bodyFieldsWith fresh part).outcome = .ok first)
    (hfields : (a.partFieldsWith fresh rest).outcome = .ok fields) :
    (a.partFieldsWith fresh (part :: rest)).outcome = .ok (first ++ fields) := by
  rw [partFieldsWith, Noted.outcome_bind, hfirst]
  show Noted.outcome (a.partFieldsWith fresh rest >>= _) = _
  rw [Noted.outcome_bind, hfields]
  rfl

/-- The properties of parts say of every name what the marks of the contributions say. -/
theorem exists_outcome_partFieldsWith (hdocument : a.references ⊆ known)
    (hreadable : a.Readable known) {parts cs : List Value} (h : a.Contributes parts cs)
    (hs : a.Grounded s) (hcomplete : a.Complete s) (hrefs : s.references ⊆ known)
    (htrail : a.Trail known fresh s) (hfresh : fresh ⊆ known) {all : List Value}
    (hall : s.parts? = some all) (hparts : ∀ part ∈ parts, part ∈ all)
    (hobject : ∀ c ∈ cs, c.parts? = none → c.IsObject) :
    ∃ fields, (a.partFieldsWith fresh parts).outcome = .ok fields
      ∧ ∀ key, flag? (fields.map BodyProperty.mark) key = flag? (cs.flatMap readMarks) key := by
  induction h generalizing s fresh all with
  | nil =>
      rw [partFieldsWith]
      exact ⟨[], rfl, fun _ => rfl⟩
  | @skip part rest cs hpart _ _ =>
      obtain ⟨t, ht⟩ := hcomplete s .refl all hall part (hparts part List.mem_cons_self)
      exact absurd ht (hpart t)
  | @plain part t rest cs hpart hplain _ ih =>
      obtain ⟨inside, hinside, -, hread⟩ := exists_outcome_bodyFieldsWith_eq hdocument hs hrefs
        htrail hall (hparts part List.mem_cons_self) hpart
      obtain ⟨first, hfirst, hmarks⟩ := exists_outcome_declaredFields
        (fun ref href => hreadable ref (hfresh (hinside href)))
        (hobject t List.mem_cons_self hplain)
      obtain ⟨fields, hfields, hflags⟩ := ih hs hcomplete hrefs htrail hfresh hall
        (fun p hp => hparts p (List.mem_cons_of_mem _ hp))
        (fun c hc => hobject c (List.mem_cons_of_mem _ hc))
      rw [← outcome_bodyFieldsWith_of_plain hpart.end_spec.1 hplain, ← hread] at hfirst
      refine ⟨first ++ fields, outcome_partFieldsWith_cons hfirst hfields, fun key => ?_⟩
      have hone : readMarks t = t.marks := if_pos (by rw [hplain]; rfl)
      rw [List.map_append, List.flatMap_cons, flag?_append, flag?_append, hflags, hmarks, hone]
  | @composed part t inner rest ds cs hpart hinner _ _ ihinner ih =>
      have hmem := hparts part List.mem_cons_self
      have hhas : a.HasPart s t := ⟨all, part, hall, hmem, hpart⟩
      obtain ⟨inside, hinside, htrail', hread⟩ := exists_outcome_bodyFieldsWith_eq hdocument hs
        hrefs htrail hall hmem hpart
      obtain ⟨below, hbelow, hinnerFlags⟩ := ihinner (hs.of_hasPart hhas)
        (fun u hu => hcomplete u (.head hhas hu))
        (references_subset_of_hasPart hrefs hdocument hhas) htrail'
        (List.Subset.trans hinside hfresh) hinner (fun p hp => hp)
        (fun c hc => hobject c (List.mem_append_left _ hc))
      obtain ⟨fields, hfields, hflags⟩ := ih hs hcomplete hrefs htrail hfresh hall
        (fun p hp => hparts p (List.mem_cons_of_mem _ hp))
        (fun c hc => hobject c (List.mem_append_right _ (List.mem_cons_of_mem _ hc)))
      have hfirst := outcome_bodyFieldsWith_of_composed hpart.end_spec.1 hinner hbelow
      rw [← hread] at hfirst
      refine ⟨_, outcome_partFieldsWith_cons hfirst hfields, fun key => ?_⟩
      have hnone : readMarks t = [] := if_neg (by rw [hinner]; exact Bool.false_ne_true)
      rw [List.map_append, List.flatMap_append, List.flatMap_cons, hnone, List.nil_append,
        flag?_append, flag?_append, hflags, flag?_foldl_override, List.nil_append, hinnerFlags]

end Api

end ApiCommands
