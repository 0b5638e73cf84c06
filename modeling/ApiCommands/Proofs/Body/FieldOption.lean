/-
The option of a single field.

# From the option to an assignment

The option is turned into an assignment: the name of the field, `=`, and the text
or, for a list of texts, the list as JSON. Such an assignment is never blank, so
it is the only one that is carried out (`pairs_single_text`, `pairs_single_texts`).

# And to the field

The text behind the `=` comes back as it was, whatever it is; of a list this says
that JSON written on one line can be read. What stands in front of the `=` comes
back only if it is its own key (`Assignment.steps_eq_singleton_iff`). So whether
the option sets its own field, and nothing else, is up to the name of the field
(`single_sets_own_field_iff`): a name with a point in it leads into a mapping, a
name with a `=` in it is cut there, and blanks around a name are lost.
-/
import ApiCommands.Proofs.Body.Options
import ApiCommands.Proofs.Document.Json.Texts

namespace ApiCommands

namespace BodyOptions

/-- Nothing is given but the option of one field. -/
def single (name : String) (v : Value) : BodyOptions := ⟨none, [], [], [(name, v)]⟩

/-- An assignment is not blank. -/
theorem isBlank_assignment (front back : List Char) :
    Text.isBlank (front ++ '=' :: back) = false := by
  unfold Text.isBlank
  rw [List.all_eq_false]
  exact ⟨'=', List.mem_append_right _ List.mem_cons_self, by decide⟩

/-- An option with a text is one assignment of this text. -/
theorem pairs_single_text (name v : String) :
    (single name (.text v)).pairs = .ok ⟨[name ++ "=" ++ v], []⟩ := by
  have hpair : mergePairs [[], [name ++ "=" ++ v]] = [name ++ "=" ++ v] := by
    simp [mergePairs, isBlank_assignment]
  show Except.ok (Pairs.mk (mergePairs [[], [name ++ "=" ++ v]]) []) = _
  rw [hpair]

/-- An option with a list of texts is one assignment of this list, as JSON. -/
theorem pairs_single_texts (name : String) {vs : List String} (h : vs ≠ []) :
    (single name (.texts vs)).pairs = .ok ⟨[], [name ++ "=" ++ Json.encodeTexts vs]⟩ := by
  obtain ⟨s, more, rfl⟩ := List.exists_cons_of_ne_nil h
  have hpair : mergePairs [[], [name ++ "=" ++ Json.encodeTexts (s :: more)]]
      = [name ++ "=" ++ Json.encodeTexts (s :: more)] := by
    simp [mergePairs, isBlank_assignment]
  have hjson : jsonPair? (name, .texts (s :: more))
      = .ok (some (name ++ "=" ++ Json.encodeTexts (s :: more))) := by
    show (Json.encode .line (.texts (s :: more)) >>= fun text => .ok (some (name ++ "=" ++ text)))
      = _
    rw [Json.encode_texts]
    rfl
  show ([(name, Value.texts (s :: more))].mapM jsonPair? >>= fun jsons =>
    Except.ok (Pairs.mk [] (mergePairs [[], jsons.reduceOption]))) = _
  rw [List.mapM_cons, hjson, ← hpair]
  rfl

end BodyOptions

namespace Workplace

variable {w : Workplace} {entries : Entries} {pair name : String}

-- ====================================================== one assignment only

/-- One assignment of a text makes the body that it makes of an empty mapping. -/
theorem buildBody_text_eq_ok_map_iff :
    w.buildBody none [pair] [] = .ok (.map entries) ↔ assignText [] pair = .ok entries := by
  show ((assignText [] pair >>= fun es => .ok es) >>= fun es => .ok (Value.map es)) = _ ↔ _
  cases assignText [] pair with
  | error e => simp [bind, Except.bind]
  | ok es => simp [bind, Except.bind]

/-- One assignment of a JSON value makes the body that it makes of an empty mapping. -/
theorem buildBody_json_eq_ok_map_iff :
    w.buildBody none [] [pair] = .ok (.map entries) ↔ w.assignJson [] pair = .ok entries := by
  show ((w.assignJson [] pair >>= fun es => .ok es) >>= fun es => .ok (Value.map es)) = _ ↔ _
  cases w.assignJson [] pair with
  | error e => simp [bind, Except.bind]
  | ok es => simp [bind, Except.bind]

/-- A list of texts is read as JSON where it is written in full. -/
theorem readJson_texts (what : String) {vs : List String} (h : vs ≠ []) :
    w.readJson what (String.ofList (Text.trim (Json.encodeTexts vs).toList))
      = .ok (.texts vs) := by
  obtain ⟨s, more, hvs⟩ := List.exists_cons_of_ne_nil h
  have htext := Json.toList_encodeTexts s more
  rw [← hvs] at htext
  -- the brackets are neither blank nor the mark of a file
  have htrim : Text.trim (Json.encodeTexts vs).toList
      = (Json.encodeTexts vs).toList := by
    apply Text.trim_eq_self
    · rw [htext]
      rfl
    · rw [htext, ← List.cons_append, ← List.append_assoc, List.getLast?_concat]
      rfl
  have hinline : w.textOf what (Json.encodeTexts vs)
      = .ok (Json.encodeTexts vs) := by
    unfold textOf
    rw [htext]
    rfl
  rw [htrim, String.ofList_toList]
  unfold readJson
  simp only [hinline, bind, Except.bind, Json.parse_encodeTexts h]

-- ====================================================== the field

variable {names : List String}

/-- The assignment of a field's option passes the check if the field's name is allowed and its own
key. -/
theorem requireAllowed_own (hname : name ∈ names) (hkey : Assignment.IsOwnKey name)
    (value : String) : requireAllowed names [name ++ "=" ++ value] = .ok () := by
  obtain ⟨hread, hsteps⟩ := hkey.read_eq_ok value
  refine requireAllowed_eq_ok_iff.mpr fun pair hpair => ?_
  rw [List.mem_singleton.mp hpair]
  refine ⟨_, hread, name, hname, ?_⟩
  unfold Assignment.field Assignment.steps
  rw [hsteps]
  rfl

/-- An option for a text sets its field to the text exactly if the name is its own key. -/
theorem single_text_sets_iff (hname : name ∈ names) (v : String) (required : Bool) :
    w.bodyOf (.single name (.text v)) names required = .ok (.map [(.text name, .text v)])
      ↔ Assignment.IsOwnKey name := by
  rw [bodyOf_eq_ok_map_iff (List.ne_nil_of_mem hname) (BodyOptions.pairs_single_text name v)]
  show _ ∧ w.buildBody none _ _ = _ ↔ _
  rw [buildBody_text_eq_ok_map_iff, assignText_eq_ok_iff]
  constructor
  · intro h
    obtain ⟨-, a, hread, hset⟩ := h
    obtain ⟨hsteps, -⟩ := Entries.assign_nil_eq_singleton rfl hset.symm
    exact Assignment.steps_eq_singleton_iff.mp ⟨a, hread, hsteps⟩
  · intro h
    obtain ⟨hread, hsteps⟩ := h.read_eq_ok v
    refine ⟨requireAllowed_own hname h v, ⟨name, v⟩, hread, ?_⟩
    show _ = Entries.assign [] (.text v) (Assignment.stepsOf name)
    rw [hsteps]
    rfl

/-- An option for a list of texts sets its field to the list exactly if the name is its own key. -/
theorem single_texts_sets_iff (hname : name ∈ names) {vs : List String} (hvs : vs ≠ [])
    (required : Bool) :
    w.bodyOf (.single name (.texts vs)) names required = .ok (.map [(.text name, .texts vs)])
      ↔ Assignment.IsOwnKey name := by
  rw [bodyOf_eq_ok_map_iff (List.ne_nil_of_mem hname) (BodyOptions.pairs_single_texts name hvs)]
  show _ ∧ w.buildBody none _ _ = _ ↔ _
  rw [buildBody_json_eq_ok_map_iff, assignJson_eq_ok_iff]
  constructor
  · intro h
    obtain ⟨-, a, v, hread, -, hset⟩ := h
    obtain ⟨hsteps, -⟩ := Entries.assign_nil_eq_singleton rfl hset.symm
    exact Assignment.steps_eq_singleton_iff.mp ⟨a, hread, hsteps⟩
  · intro h
    obtain ⟨hread, hsteps⟩ := h.read_eq_ok (Json.encodeTexts vs)
    refine ⟨requireAllowed_own hname h _, ⟨name, _⟩, .texts vs, hread, readJson_texts _ hvs, ?_⟩
    show _ = Entries.assign [] (.texts vs) (Assignment.stepsOf name)
    rw [hsteps]
    rfl

/-- The option of a field sets this field and nothing else, whatever text or list of texts is given,
exactly if the name of the field, written as a key, is read as this name. -/
theorem single_sets_own_field_iff (w : Workplace) (names : List String) (name : String)
    (required : Bool) (hname : name ∈ names) :
    (∀ v : String,
        w.bodyOf (.single name (.text v)) names required = .ok (.map [(.text name, .text v)])
          ↔ Assignment.IsOwnKey name)
      ∧ ∀ vs : List String, vs ≠ [] →
        (w.bodyOf (.single name (.texts vs)) names required = .ok (.map [(.text name, .texts vs)])
          ↔ Assignment.IsOwnKey name) :=
  ⟨fun v => single_text_sets_iff hname v required,
    fun _ hvs => single_texts_sets_iff hname hvs required⟩

/-- So a field with a point in its name cannot be set by its option, neither to a text nor to a
list: another field is looked for. -/
theorem pointedName_not_set :
    "user.name" ∈ ["user.name"]
      ∧ (∀ v : String, bare.bodyOf (.single "user.name" (.text v)) ["user.name"] false
          ≠ .ok (.map [(.text "user.name", .text v)]))
      ∧ (∀ vs : List String, vs ≠ [] →
          bare.bodyOf (.single "user.name" (.texts vs)) ["user.name"] false
            ≠ .ok (.map [(.text "user.name", .texts vs)]))
      ∧ bare.bodyOf (.single "user.name" (.text "Ada")) ["user.name"] false
          = .error (.usage (.unknownField "user" ["user.name"])) := by
  have hmem : "user.name" ∈ ["user.name"] := List.mem_cons_self
  have hkey : ¬ Assignment.IsOwnKey "user.name" := fun h => absurd h.noPoint (by decide)
  obtain ⟨htext, htexts⟩ := single_sets_own_field_iff bare ["user.name"] "user.name" false hmem
  refine ⟨hmem, fun v h => hkey ((htext v).mp h), fun vs hvs h => hkey ((htexts vs hvs).mp h), ?_⟩
  have hcheck : requireAllowed ["user.name"] ["user.name=Ada"]
      = .error (.unknownField "user" ["user.name"]) := by
    rw [requireAllowed_cons, List.mergeSort_singleton]
    rfl
  rw [bodyOf_eq (List.ne_nil_of_mem hmem) (BodyOptions.pairs_single_text "user.name" "Ada")]
  show (requireAllowed ["user.name"] ["user.name=Ada"]).mapError Error.usage >>= _ = _
  rw [hcheck]
  rfl

end Workplace

end ApiCommands
