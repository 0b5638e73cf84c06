/-
Bodies that are made of options: the fields they have.

# A body in steps

Where fields are allowed by name, all assignments are checked before anything
else is done (`bodyOf_eq`). A body that is made starts as the mapping `--body`
holds, or as an empty one, and every assignment is carried out on what the ones
before it left (`buildBody_eq_ok_map`).

# Fields

An assignment adds no key to a mapping but the field it is about. The check looks
at the same field, for both take it from the first step of the key. So from the
check, and by induction on the assignments, no field gets into a body that is
neither allowed nor there from the start (`bodyOf_fields_allowed`).
-/
import ApiCommands.Body.Options
import ApiCommands.Proofs.Body.Assignment
import ApiCommands.Proofs.Outcome.Result

namespace ApiCommands

-- ====================================================== one assignment

/-- An assignment is carried out as it is read. -/
theorem Workplace.readPair_eq_ok_iff {pair : String} {a : Assignment} :
    readPair pair = .ok a ↔ Assignment.read pair = .ok a := by
  unfold readPair
  cases Assignment.read pair with
  | error e => simp
  | ok b => simp

/-- What is carried out for an assignment: it is read, and some value is put where it says. -/
def Assignment.Sets (pair : String) (before after : Entries) : Prop :=
  ∃ a v, Assignment.read pair = .ok a ∧ after = before.assign v a.steps

namespace Workplace

variable {w : Workplace} {before after : Entries} {pair : String}

/-- An assignment of a text puts the text. -/
theorem assignText_eq_ok_iff :
    assignText before pair = .ok after
      ↔ ∃ a, Assignment.read pair = .ok a ∧ after = before.assign (.text a.value) a.steps := by
  unfold assignText
  simp only [Except.bind_eq_ok_iff, readPair_eq_ok_iff, pure, Except.pure, Except.ok.injEq,
    eq_comm (b := after)]

/-- An assignment of a JSON value puts the value that is read. -/
theorem assignJson_eq_ok_iff :
    w.assignJson before pair = .ok after
      ↔ ∃ a v, Assignment.read pair = .ok a
          ∧ w.readJson ("--set-json " ++ a.key) (String.ofList (Text.trim a.value.toList)) = .ok v
          ∧ after = before.assign v a.steps := by
  unfold assignJson
  simp only [Except.bind_eq_ok_iff, readPair_eq_ok_iff, pure, Except.pure, Except.ok.injEq,
    eq_comm (b := after)]
  constructor
  · intro h
    obtain ⟨a, hread, v, hv, hafter⟩ := h
    exact ⟨a, v, hread, hv, hafter⟩
  · intro h
    obtain ⟨a, v, hread, hv, hafter⟩ := h
    exact ⟨a, hread, v, hv, hafter⟩

-- ====================================================== a body

variable {o : BodyOptions} {pairs : Pairs} {raw : Option String} {texts jsons allowed : List String}
  {required : Bool}

/-- Where fields are allowed by name, the assignments are checked before a body is made of them. -/
theorem bodyOf_eq (h : allowed ≠ []) (hpairs : o.pairs = .ok pairs) :
    w.bodyOf o allowed required
      = ((requireAllowed allowed pairs.all).mapError Error.usage >>= fun _ =>
          w.buildBody o.raw pairs.texts pairs.jsons >>= fun body =>
            match body with
            | .null => if required then throw (.usage .bodyRequired) else return .null
            | body => return body) := by
  have hne : (!allowed.isEmpty) = true := by simp [h]
  unfold bodyOf
  rw [hpairs, hne]
  simp only [Except.mapError, Bind.bind, Except.bind, if_true]
  cases requireAllowed allowed pairs.all with
  | error e => rfl
  | ok _ => rfl

/-- A mapping is the body of a command exactly if the assignments pass the check and make it. -/
theorem bodyOf_eq_ok_map_iff (h : allowed ≠ []) (hpairs : o.pairs = .ok pairs)
    {entries : Entries} :
    w.bodyOf o allowed required = .ok (.map entries)
      ↔ requireAllowed allowed pairs.all = .ok ()
          ∧ w.buildBody o.raw pairs.texts pairs.jsons = .ok (.map entries) := by
  rw [bodyOf_eq h hpairs]
  cases requireAllowed allowed pairs.all with
  | error e =>
      show Except.error (Error.usage e) = _ ↔ _
      simp
  | ok _ =>
      show (w.buildBody o.raw pairs.texts pairs.jsons >>= _) = _ ↔ _
      rw [Except.bind_eq_ok_iff]
      constructor
      · intro h
        obtain ⟨body, hbody, hmap⟩ := h
        refine ⟨rfl, ?_⟩
        split at hmap
        · split at hmap
          · cases hmap
          · cases hmap
        · rw [hbody, Except.ok.inj hmap]
      · intro h
        exact ⟨.map entries, h.2, rfl⟩

/-- A body is made of assignments that can be written. -/
theorem exists_pairs_of_bodyOf {body : Value} (h : w.bodyOf o allowed required = .ok body) :
    ∃ pairs, o.pairs = .ok pairs := by
  unfold bodyOf at h
  obtain ⟨pairs, hpairs, -⟩ := Except.bind_eq_ok_iff.mp h
  exact ⟨pairs, Except.mapError_eq_ok_iff.mp hpairs⟩

/-- Assignments that do not pass the check are a wrong use of the command. -/
theorem bodyOf_of_requireAllowed_ne_ok (h : allowed ≠ []) (hpairs : o.pairs = .ok pairs)
    (hcheck : requireAllowed allowed pairs.all ≠ .ok ()) :
    ∃ e, w.bodyOf o allowed required = .error (.usage e) := by
  rw [bodyOf_eq h hpairs]
  cases hresult : requireAllowed allowed pairs.all with
  | error e => exact ⟨e, rfl⟩
  | ok _ => exact absurd hresult hcheck

/-- A mapping that is made comes from the mapping that `--body` holds, or from an empty one, by the
assignments one after the other. -/
theorem buildBody_eq_ok_map {entries : Entries}
    (h : w.buildBody raw texts jsons = .ok (.map entries)) :
    ∃ start middle : Entries, (start = [] ∨ w.rawBody raw = .ok (.map start))
      ∧ texts.foldlM assignText start = .ok middle
      ∧ jsons.foldlM w.assignJson middle = .ok entries := by
  unfold buildBody at h
  rw [Except.bind_eq_ok_iff] at h
  obtain ⟨body, hraw, h⟩ := h
  split at h
  · -- no assignments
    next hempty =>
    rw [Bool.and_eq_true, List.isEmpty_iff, List.isEmpty_iff] at hempty
    obtain ⟨rfl, rfl⟩ := hempty
    obtain rfl := Except.ok.inj h
    exact ⟨entries, entries, Or.inr hraw, rfl, rfl⟩
  · simp only [Except.bind_eq_ok_iff] at h
    obtain ⟨start, hstart, middle, htexts, last, hjsons, hlast⟩ := h
    obtain rfl := Value.map.inj (Except.ok.inj hlast)
    refine ⟨start, middle, ?_, htexts, hjsons⟩
    unfold bodyEntries at hstart
    split at hstart
    · exact Or.inl (Except.ok.inj hstart).symm
    · rw [← Except.ok.inj hstart]
      exact Or.inr hraw
    · cases hstart

-- ====================================================== assignments in a row

/-- What the assignment of a text sets: the text, at its steps. -/
def TextSets (pair : String) (s : List String × Value) : Prop :=
  ∃ a, Assignment.read pair = .ok a ∧ s = (a.steps, .text a.value)

/-- What the assignment of a JSON value sets: the value that is read, at its steps. -/
def JsonSets (w : Workplace) (pair : String) (s : List String × Value) : Prop :=
  ∃ a v, Assignment.read pair = .ok a
    ∧ w.readJson ("--set-json " ++ a.key) (String.ofList (Text.trim a.value.toList)) = .ok v
    ∧ s = (a.steps, v)

/-- The mapping that assignments start from: the one in `--body`, or an empty one if there is no
body. -/
def Starts (w : Workplace) (raw : Option String) (start : Entries) : Prop :=
  w.rawBody raw = .ok (.map start) ∨ w.rawBody raw = .ok .null ∧ start = []

theorem foldlM_assignText_eq_ok_iff :
    texts.foldlM assignText before = .ok after
      ↔ ∃ sets, List.Forall₂ TextSets texts sets ∧ after = before.assignAll sets := by
  refine Except.foldlM_eq_ok_iff fun before pair after => ?_
  rw [assignText_eq_ok_iff]
  constructor
  · rintro ⟨a, hread, hafter⟩
    exact ⟨_, ⟨a, hread, rfl⟩, hafter⟩
  · rintro ⟨_, ⟨a, hread, rfl⟩, hafter⟩
    exact ⟨a, hread, hafter⟩

theorem foldlM_assignJson_eq_ok_iff :
    jsons.foldlM w.assignJson before = .ok after
      ↔ ∃ sets, List.Forall₂ w.JsonSets jsons sets ∧ after = before.assignAll sets := by
  refine Except.foldlM_eq_ok_iff fun before pair after => ?_
  rw [assignJson_eq_ok_iff]
  constructor
  · rintro ⟨a, v, hread, hv, hafter⟩
    exact ⟨_, ⟨a, v, hread, hv, rfl⟩, hafter⟩
  · rintro ⟨_, ⟨a, v, hread, hv, rfl⟩, hafter⟩
    exact ⟨a, v, hread, hv, hafter⟩

theorem starts_iff {start : Entries} :
    w.Starts raw start ↔ ∃ body, w.rawBody raw = .ok body ∧ bodyEntries body = .ok start := by
  constructor
  · rintro (hmap | ⟨hnull, rfl⟩)
    · exact ⟨_, hmap, rfl⟩
    · exact ⟨_, hnull, rfl⟩
  · rintro ⟨body, hraw, hstart⟩
    unfold bodyEntries at hstart
    split at hstart
    · exact Or.inr ⟨hraw, (Except.ok.inj hstart).symm⟩
    · rw [← Except.ok.inj hstart]
      exact Or.inl hraw
    · cases hstart

/-- With assignments, a body is made exactly if there is something to start from and all of them can
be read; they are then carried out in a row, those of texts first. -/
theorem buildBody_eq_ok_iff (h : texts ≠ [] ∨ jsons ≠ []) {body : Value} :
    w.buildBody raw texts jsons = .ok body
      ↔ ∃ start textSets jsonSets, w.Starts raw start ∧ List.Forall₂ TextSets texts textSets
          ∧ List.Forall₂ w.JsonSets jsons jsonSets
          ∧ body = .map (start.assignAll (textSets ++ jsonSets)) := by
  have hsome : ¬(texts.isEmpty && jsons.isEmpty) = true := by
    rw [Bool.and_eq_true, List.isEmpty_iff, List.isEmpty_iff]
    exact not_and_or.mpr h
  unfold buildBody
  simp only [if_neg hsome, Except.bind_eq_ok_iff, foldlM_assignText_eq_ok_iff,
    foldlM_assignJson_eq_ok_iff, starts_iff]
  constructor
  · intro h
    obtain ⟨value, hraw, start, hstart, -, ⟨textSets, htexts, rfl⟩, -, ⟨jsonSets, hjsons, rfl⟩,
      hbody⟩ := h
    refine ⟨start, textSets, jsonSets, ⟨value, hraw, hstart⟩, htexts, hjsons, ?_⟩
    rw [Entries.assignAll_append]
    exact (Except.ok.inj hbody).symm
  · rintro ⟨start, textSets, jsonSets, ⟨value, hraw, hstart⟩, htexts, hjsons, rfl⟩
    refine ⟨value, hraw, start, hstart, _, ⟨textSets, htexts, rfl⟩, _, ⟨jsonSets, hjsons, rfl⟩, ?_⟩
    rw [Entries.assignAll_append]
    rfl

/-- Assignments that can be read have steps. -/
theorem ne_nil_of_mem_sets {textSets jsonSets : List (List String × Value)}
    (htexts : List.Forall₂ TextSets texts textSets)
    (hjsons : List.Forall₂ w.JsonSets jsons jsonSets) :
    ∀ s ∈ textSets ++ jsonSets, s.1 ≠ [] := by
  have hsteps : ∀ {pair a}, Assignment.read pair = .ok a → a.steps ≠ [] := by
    intro pair a hread
    obtain ⟨-, -, -, -, hne⟩ := Assignment.read_eq_ok_iff.mp hread
    exact hne
  refine List.forall_mem_append.mpr ⟨forall_mem_of_forall₂ ?_ htexts,
    forall_mem_of_forall₂ ?_ hjsons⟩
  · rintro pair s ⟨a, hread, rfl⟩
    exact hsteps hread
  · rintro pair s ⟨a, v, hread, -, rfl⟩
    exact hsteps hread

/-- A place without files. -/
def bare : Workplace := ⟨Disk.empty, ⟨.workingDirectory, []⟩, []⟩

/-- An assignment puts its value at the steps of its key and leaves all that is apart from them,
with keys in their places. With assignments, a body is made exactly if there is a mapping to start
from and all of them can be read, and it is what they make of that mapping one after the other,
those of texts first. So at each path the last one decides that is not apart from it. -/
theorem buildBody_assigns_in_order (w : Workplace) :
    (∀ (es : Entries) (key : String) (v : Value), Assignment.stepsOf key ≠ [] →
        es.Assigns (Assignment.stepsOf key) v (es.assign v (Assignment.stepsOf key)))
      ∧ (∀ raw texts jsons, texts ≠ [] ∨ jsons ≠ [] → ∀ body,
          w.buildBody raw texts jsons = .ok body
            ↔ ∃ start textSets jsonSets, w.Starts raw start
                ∧ List.Forall₂ TextSets texts textSets
                ∧ List.Forall₂ w.JsonSets jsons jsonSets
                ∧ body = .map (start.assignAll (textSets ++ jsonSets)))
      ∧ ∀ texts jsons textSets jsonSets, List.Forall₂ TextSets texts textSets →
          List.Forall₂ w.JsonSets jsons jsonSets →
            ∀ start : Entries, start.LastDecides (textSets ++ jsonSets)
              (start.assignAll (textSets ++ jsonSets)) :=
  ⟨fun es _ v hkey => Entries.assign_assigns hkey es v, fun _ _ _ h _ => buildBody_eq_ok_iff h,
    fun _ _ _ _ htexts hjsons start =>
      Entries.assignAll_lastDecides (ne_nil_of_mem_sets htexts hjsons) start⟩

/-- Assignments of texts that take each other's place: a name, a text where its mapping was, and
another name. -/
def renamedPairs : List String := ["owner.name=Ada", "owner=Ann", "owner.name=Bob"]

/-- What they set. -/
def renamedSets : List (List String × Value) :=
  [(["owner", "name"], .text "Ada"), (["owner"], .text "Ann"), (["owner", "name"], .text "Bob")]

/-- A JSON value that is assigned beside the name leaves the last one that was put. -/
theorem renamedPairs_assigned_in_order :
    Assignment.stepsOf "owner..name" ≠ []
      ∧ Entries.at? (Entries.assign [] .null (Assignment.stepsOf "owner..name")) ["owner", "name"]
          = some .null
      ∧ (renamedPairs ≠ [] ∨ ["owner.tags=[]"] ≠ [])
      ∧ bare.buildBody none renamedPairs ["owner.tags=[]"]
          = .ok (.map (Entries.assignAll [] (renamedSets ++ [(["owner", "tags"], .list [])])))
      ∧ Entries.at? (Entries.assignAll [] (renamedSets ++ [(["owner", "tags"], .list [])]))
          ["owner", "name"] = some (.text "Bob") := by
  obtain ⟨hassigns, hbuild, hdecides⟩ := buildBody_assigns_in_order bare
  have hkey : Assignment.stepsOf "owner..name" ≠ [] := by decide
  have hown := (hassigns [] "owner..name" .null hkey).own
  have hpairs : renamedPairs ≠ [] ∨ ["owner.tags=[]"] ≠ [] := by decide
  have htexts : List.Forall₂ TextSets renamedPairs renamedSets :=
    .cons ⟨⟨"owner.name", "Ada"⟩, by decide, rfl⟩
      (.cons ⟨⟨"owner", "Ann"⟩, by decide, rfl⟩
        (.cons ⟨⟨"owner.name", "Bob"⟩, by decide, rfl⟩ .nil))
  have hjsons : List.Forall₂ bare.JsonSets ["owner.tags=[]"] [(["owner", "tags"], .list [])] :=
    .cons ⟨⟨"owner.tags", "[]"⟩, .list [], by decide, rfl, rfl⟩ .nil
  refine ⟨hkey, hown, hpairs, (hbuild none _ _ hpairs _).mpr
    ⟨[], _, _, Or.inr ⟨rfl, rfl⟩, htexts, hjsons, rfl⟩, ?_⟩
  refine (hdecides _ _ _ _ htexts hjsons []).own
    [(["owner", "name"], .text "Ada"), (["owner"], .text "Ann")] (["owner", "name"], .text "Bob")
    [(["owner", "tags"], .list [])] rfl ?_
  intro later hlater
  rw [List.mem_singleton.mp hlater]
  constructor <;> decide

end Workplace

-- ====================================================== fields

/-- Every key is one of `base` or an allowed field, whatever the case. -/
def Entries.Within (base : Entries) (allowed : List String) (es : Entries) : Prop :=
  ∀ key ∈ es.map Prod.fst, key ∈ base.map Prod.fst
    ∨ ∃ field, key = .text field ∧ ∃ name ∈ allowed, Text.lowered field = Text.lowered name

/-- An assignment that passes the check adds an allowed field at most. -/
theorem Entries.Within.sets {base before after : Entries} {allowed : List String} {pair : String}
    (h : base.Within allowed before)
    (hpair : ∃ a, Assignment.read pair = .ok a ∧ a.IsAbout allowed)
    (hset : Assignment.Sets pair before after) : base.Within allowed after := by
  obtain ⟨a, hread, habout⟩ := hpair
  obtain ⟨a', v, hread', rfl⟩ := hset
  obtain rfl := Except.ok.inj (hread.symm.trans hread')
  obtain ⟨rest, hsteps⟩ := Assignment.steps_eq_field_cons hread
  rw [hsteps]
  intro key hkey
  rcases Entries.mem_keys_assign hkey with hfield | hmem
  · exact Or.inr ⟨a.field, hfield, habout⟩
  · exact h key hmem

namespace Workplace

/-- A body has no fields but those that are allowed by name and those that `--body` has, and there
is no body at all if one of the assignments is not about an allowed field: the command is then used
in a wrong way. -/
theorem bodyOf_fields_allowed (w : Workplace) (o : BodyOptions) (allowed : List String)
    (required : Bool) (h : allowed ≠ []) :
    (∀ entries, w.bodyOf o allowed required = .ok (.map entries) →
        ∀ key ∈ entries.map Prod.fst,
          (∃ raw, w.rawBody o.raw = .ok (.map raw) ∧ key ∈ raw.map Prod.fst)
            ∨ ∃ field, key = .text field
                ∧ ∃ name ∈ allowed, Text.lowered field = Text.lowered name)
      ∧ ∀ pairs, o.pairs = .ok pairs → ∀ pair ∈ pairs.all,
          (∀ field, Assignment.topOf pair = some field →
              ∀ name ∈ allowed, Text.lowered field ≠ Text.lowered name) →
            ∃ e, w.bodyOf o allowed required = .error (.usage e) := by
  constructor
  · intro entries hbody key hkey
    obtain ⟨pairs, hassigned⟩ := exists_pairs_of_bodyOf hbody
    obtain ⟨hcheck, hbuild⟩ := (bodyOf_eq_ok_map_iff h hassigned).mp hbody
    have hpairs := requireAllowed_eq_ok_iff.mp hcheck
    obtain ⟨start, middle, hstart, htexts, hjsons⟩ := buildBody_eq_ok_map hbuild
    have hmiddle : start.Within allowed middle := by
      refine Except.foldlM_preserves ?_ htexts fun _ hmem => Or.inl hmem
      intro pair hpair before after hafter hbefore
      obtain ⟨a, hread, hset⟩ := assignText_eq_ok_iff.mp hafter
      exact hbefore.sets (hpairs pair (List.mem_append_left _ hpair)) ⟨a, _, hread, hset⟩
    have hentries : start.Within allowed entries := by
      refine Except.foldlM_preserves ?_ hjsons hmiddle
      intro pair hpair before after hafter hbefore
      obtain ⟨a, v, hread, -, hset⟩ := assignJson_eq_ok_iff.mp hafter
      exact hbefore.sets (hpairs pair (List.mem_append_right _ hpair)) ⟨a, v, hread, hset⟩
    rcases hentries key hkey with hmem | hfield
    · rcases hstart with rfl | hraw
      · cases hmem
      · exact Or.inl ⟨start, hraw, hmem⟩
    · exact Or.inr hfield
  · intro pairs hassigned pair hpair hfields
    refine bodyOf_of_requireAllowed_ne_ok h hassigned fun hcheck => ?_
    obtain ⟨a, hread, name, hname, heq⟩ := requireAllowed_eq_ok_iff.mp hcheck pair hpair
    exact hfields a.field (Assignment.topOf_eq_some_field hread) name hname heq

/-- So it is with a key that is written in an odd way, and with one that names another field. -/
theorem oddKey_fields_allowed :
    ["owner"] ≠ []
      ∧ bare.bodyOf ⟨none, [" .Owner..name =Ada"], [], []⟩ ["owner"] false
          = .ok (.map [(.text "Owner", .map [(.text "name", .text "Ada")])])
      ∧ (∃ field, Scalar.text "Owner" = .text field
          ∧ ∃ name ∈ ["owner"], Text.lowered field = Text.lowered name)
      ∧ ∃ e, bare.bodyOf ⟨none, [" .Owner..name =Ada", "..size=3"], [], []⟩ ["owner"] false
          = .error (.usage e) := by
  have hne : ["owner"] ≠ [] := List.cons_ne_nil _ _
  have hpairs : BodyOptions.pairs ⟨none, [" .Owner..name =Ada"], [], []⟩
      = .ok ⟨[" .Owner..name =Ada"], []⟩ := rfl
  have hbody : bare.bodyOf ⟨none, [" .Owner..name =Ada"], [], []⟩ ["owner"] false
      = .ok (.map [(.text "Owner", .map [(.text "name", .text "Ada")])]) :=
    (bodyOf_eq_ok_map_iff hne hpairs).mpr ⟨rfl, rfl⟩
  refine ⟨hne, hbody, ?_, ?_⟩
  · rcases (bodyOf_fields_allowed bare _ _ false hne).1 _ hbody (.text "Owner")
        List.mem_cons_self with hraw | hfield
    · obtain ⟨raw, hraw, -⟩ := hraw
      cases hraw
    · exact hfield
  · refine (bodyOf_fields_allowed bare _ _ false hne).2
      ⟨[" .Owner..name =Ada", "..size=3"], []⟩ rfl "..size=3" (by decide) ?_
    intro field hfield
    obtain rfl : "size" = field := Option.some.inj (by rw [← hfield]; decide)
    decide

end Workplace

end ApiCommands
