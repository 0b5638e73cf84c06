/-
What filling a template comes to.

# Filling

A placeholder that has an argument becomes the escapes of that argument, or
fails because it has no text or the text has no bytes; only a placeholder without an argument is
reported as missing. So two facts carry all statements about expanded paths.
If every placeholder has its argument, expanding is filling
(`expand_eq_fillWith`), and nothing is missing (`fillWith_ne_missing`). If every
argument can be escaped, expanding fails exactly at the first placeholder
without one (`expand_eq_of_escaped`).

# Arguments from a mapping literal

The emitted client writes its arguments down as a mapping, `name: value` again
and again. Of entries with one name the last value counts, at the first place
(`ofLiteral`). Look-ups ignore case, so what a look-up finds is told by the
entries whose name is the same in lower case; where there is only one, it finds
that one (`find?_ofLiteral`).
-/
import ApiCommands.Call.Arguments
import ApiCommands.Proofs.Outcome.Result

namespace ApiCommands

/-- A value is escaped if it has a text and the text has bytes. -/
theorem Value.escaped_eq_ok_iff [Text.Halves] {v : Value} {escapes : List Char} :
    v.escaped = .ok escapes
      ↔ ∃ written, v.argumentText = .ok written ∧ Text.hasBytes written.toList = true
      ∧ escapes = Text.Percent.encode written.toList := by
  unfold Value.escaped
  rw [Except.bind_eq_ok_iff]
  refine exists_congr fun written => ?_
  rw [Except.mapError_eq_ok_iff]
  refine and_congr_right fun _ => ?_
  split
  · next hbytes =>
    rw [and_iff_right hbytes, eq_comm]
    exact ⟨Except.ok.inj, congrArg Except.ok⟩
  · next hbytes => exact iff_of_false (fun h => by cases h) fun h => hbytes h.1

/-- Else it is a fault. -/
theorem Value.exists_fault_of_escaped [Text.Halves] {v : Value} {e : Error}
    (h : v.escaped = .error e) : ∃ f, e = .fault f := by
  unfold Value.escaped at h
  cases hwritten : v.argumentText with
  | error f =>
      rw [hwritten] at h
      exact ⟨f, (Except.error.inj h).symm⟩
  | ok written =>
      rw [hwritten] at h
      change (if Text.hasBytes written.toList then _ else _) = _ at h
      split at h
      · cases h
      · exact ⟨_, (Except.error.inj h).symm⟩

-- ====================================================== filling a template

/-- A part of a template, with `f` saying what stands for a placeholder. -/
def TemplatePart.fill (f : List Char → Except Error (List Char)) :
    TemplatePart → Except Error (List Char)
  | .literal c => .ok [c]
  | .placeholder name => f name

namespace PathTemplate

/-- The text of a template, with `f` saying what stands for each placeholder. -/
def fillWith (f : List Char → Except Error (List Char)) (template : String) :
    Except Error String := do
  let pieces ← (parts template.toList).mapM (TemplatePart.fill f)
  return String.ofList pieces.flatten

/-- The name of the placeholder that a part is, if it is one. -/
def nameOf? : TemplatePart → Option String
  | .literal _ => none
  | .placeholder name => some (String.ofList name)

theorem placeholders_eq (template : String) :
    placeholders template = (parts template.toList).filterMap nameOf? := by
  unfold placeholders
  refine congrArg (fun f => (parts template.toList).filterMap f) (funext fun part => ?_)
  cases part <;> rfl

/-- A placeholder of the parts is a placeholder of the template. -/
theorem mem_placeholders_of_mem_parts {template : String} {name : List Char}
    (h : .placeholder name ∈ parts template.toList) :
    String.ofList name ∈ placeholders template := by
  rw [placeholders_eq]
  exact List.mem_filterMap.mpr ⟨_, h, rfl⟩

/-- Two ways to make something of all items agree if they do on each. -/
private theorem mapM_congr_of_mem {α β : Type} {f g : α → Except Error β} {xs : List α}
    (h : ∀ x ∈ xs, f x = g x) : xs.mapM f = xs.mapM g := by
  induction xs with
  | nil => rfl
  | cons x rest ih =>
      rw [List.mapM_cons, List.mapM_cons, h x List.mem_cons_self,
        ih fun y hy => h y (List.mem_cons_of_mem _ hy)]

/-- A template is filled alike by what agrees on its placeholders. -/
theorem fillWith_congr {f g : List Char → Except Error (List Char)} {template : String}
    (h : ∀ name, String.ofList name ∈ placeholders template → f name = g name) :
    fillWith f template = fillWith g template := by
  unfold fillWith
  rw [mapM_congr_of_mem fun part hpart => ?_]
  cases part with
  | literal c => rfl
  | placeholder name => exact h name (mem_placeholders_of_mem_parts hpart)

/-- If something stands for every placeholder, the template has its text. -/
theorem fillWith_ok (f : List Char → List Char) (template : String) :
    fillWith (fun name => .ok (f name)) template
      = .ok (String.ofList ((parts template.toList).flatMap fun
          | .literal c => [c]
          | .placeholder name => f name)) := by
  unfold fillWith
  generalize parts template.toList = ps
  have hpieces : ps.mapM (TemplatePart.fill fun name => .ok (f name))
      = .ok (ps.map fun
          | .literal c => [c]
          | .placeholder name => f name) := by
    induction ps with
    | nil => rfl
    | cons part rest ih =>
        rw [List.mapM_cons, ih]
        cases part <;> rfl
  rw [hpieces, List.flatMap_def]
  rfl

/-- Filling fails only with what stands for a placeholder. -/
theorem exists_of_fillWith_eq_error {template : String}
    {f : List Char → Except Error (List Char)} {e : Error}
    (h : fillWith f template = .error e) :
    ∃ name, String.ofList name ∈ placeholders template ∧ f name = .error e := by
  unfold fillWith at h
  cases hpieces : (parts template.toList).mapM (TemplatePart.fill f) with
  | ok pieces =>
      rw [hpieces] at h
      cases h
  | error e' =>
      rw [hpieces] at h
      cases h
      obtain ⟨part, hpart, heq⟩ := Except.exists_of_mapM_eq_error hpieces
      cases part with
      | literal c => cases heq
      | placeholder name => exact ⟨name, mem_placeholders_of_mem_parts hpart, heq⟩

-- ====================================================== filling with arguments

variable [Text.Halves] {args : Arguments} {template : String}

/-- A placeholder with an argument becomes its escapes. -/
theorem expandPart_of_given? {name : List Char} {v : Value}
    (h : args.given? (String.ofList name) = some v) :
    expandPart args (.placeholder name) = v.escaped := by
  unfold expandPart
  dsimp only
  rw [h]

/-- A placeholder without an argument is missing. -/
theorem expandPart_of_not_given? {name : List Char} (h : args.given? (String.ofList name) = none) :
    expandPart args (.placeholder name)
      = .error (.usage (.missingArgument (String.ofList name))) := by
  unfold expandPart
  dsimp only
  rw [h]

/-- With an argument for every placeholder, expanding a template is filling it. -/
theorem expand_eq_fillWith {values : List Char → Value}
    (h : ∀ name, String.ofList name ∈ placeholders template →
      args.given? (String.ofList name) = some (values name)) :
    expand template args = fillWith (fun name => (values name).escaped) template := by
  unfold expand fillWith
  rw [mapM_congr_of_mem fun part hpart => ?_]
  cases part with
  | literal c => rfl
  | placeholder name => exact expandPart_of_given? (h name (mem_placeholders_of_mem_parts hpart))

/-- Where escapes are filled in, nothing is reported as missing. -/
theorem fillWith_ne_missing (values : List Char → Value) (template name : String) :
    fillWith (fun name => (values name).escaped) template
      ≠ .error (.usage (.missingArgument name)) := by
  intro h
  obtain ⟨written, -, heq⟩ := exists_of_fillWith_eq_error h
  obtain ⟨f, hf⟩ := Value.exists_fault_of_escaped heq
  cases hf

/-- The parts of a template up to the first placeholder without an argument. -/
private theorem mapM_expandPart_eq
    (h : ∀ name v, args.given? name = some v → ∃ escapes, v.escaped = .ok escapes)
    (ps : List TemplatePart) :
    ps.mapM (expandPart args)
      = match (ps.filterMap nameOf?).find? fun name => (args.given? name).isNone with
        | some name => .error (.usage (.missingArgument name))
        | none => ps.mapM (TemplatePart.fill fun name =>
            ((args.given? (String.ofList name)).getD .null).escaped) := by
  induction ps with
  | nil => rfl
  | cons part rest ih =>
      rw [List.mapM_cons, List.mapM_cons, ih]
      cases part with
      | literal c =>
          rw [List.filterMap_cons_none (by rfl)]
          cases (rest.filterMap nameOf?).find? fun name => (args.given? name).isNone <;> rfl
      | placeholder name =>
          rw [List.filterMap_cons_some (b := String.ofList name) (by rfl)]
          cases hgiven : args.given? (String.ofList name) with
          | none =>
              rw [expandPart_of_not_given? hgiven, List.find?_cons_of_pos (by simp [hgiven])]
              rfl
          | some v =>
              obtain ⟨escapes, hescaped⟩ := h _ v hgiven
              rw [expandPart_of_given? hgiven, List.find?_cons_of_neg (by simp [hgiven]),
                TemplatePart.fill, hgiven, Option.getD_some, hescaped]
              cases (rest.filterMap nameOf?).find? fun name => (args.given? name).isNone <;> rfl

/-- Where every argument can be escaped, expanding fails exactly at the first placeholder that has
none. -/
theorem expand_eq_of_escaped
    (h : ∀ name v, args.given? name = some v → ∃ escapes, v.escaped = .ok escapes) :
    expand template args
      = match (placeholders template).find? fun name => (args.given? name).isNone with
        | some name => .error (.usage (.missingArgument name))
        | none => fillWith (fun name => ((args.given? (String.ofList name)).getD .null).escaped)
            template := by
  rw [placeholders_eq]
  unfold expand fillWith
  rw [mapM_expandPart_eq h]
  cases ((parts template.toList).filterMap nameOf?).find? fun name => (args.given? name).isNone
    <;> rfl

end PathTemplate

-- ====================================================== mapping literals

namespace Arguments

/-- The argument set: in place if the name is there, else at the end. -/
def put (name : String) (v : Value) : Arguments → Arguments
  | [] => [(name, v)]
  | (k, w) :: rest => if k = name then (k, v) :: rest else (k, w) :: put name v rest

/-- The arguments that a mapping literal of these entries stands for. -/
def ofLiteral (entries : List (String × Value)) : Arguments :=
  entries.foldl (fun args (name, v) => put name v args) []

/-- Putting an argument concerns its own name only. -/
theorem filter_put (p : String → Bool) (name : String) (v : Value) (args : Arguments) :
    (put name v args).filter (fun entry => p entry.1)
      = if p name then put name v (args.filter fun entry => p entry.1)
        else args.filter fun entry => p entry.1 := by
  induction args with
  | nil =>
      cases hp : p name <;> simp [put, hp]
  | cons entry rest ih =>
      obtain ⟨k, w⟩ := entry
      rw [put]
      by_cases hk : k = name
      · subst hk
        cases hp : p k <;> simp [put, hp]
      · rw [if_neg hk]
        cases hp : p k <;> cases hn : p name <;> simp [put, hp, hn, hk, ih]

/-- What a literal says of some names is told by its entries with these names. -/
theorem filter_ofLiteral (p : String → Bool) (entries : List (String × Value)) :
    (ofLiteral entries).filter (fun entry => p entry.1)
      = ofLiteral (entries.filter fun entry => p entry.1) := by
  unfold ofLiteral
  have hgeneral : ∀ args : Arguments,
      (entries.foldl (fun args (name, v) => put name v args) args).filter (fun entry => p entry.1)
        = (entries.filter fun entry => p entry.1).foldl (fun args (name, v) => put name v args)
            (args.filter fun entry => p entry.1) := by
    induction entries with
    | nil => exact fun _ => rfl
    | cons entry rest ih =>
        intro args
        obtain ⟨name, v⟩ := entry
        rw [List.foldl_cons, ih, filter_put]
        cases hp : p name <;> simp [hp]
  exact hgeneral []

/-- Putting an argument brings its value and nothing else. -/
theorem value_eq_or_mem_of_mem_put {name : String} {v : Value} {args : Arguments}
    {entry : String × Value} (h : entry ∈ put name v args) : entry.2 = v ∨ entry ∈ args := by
  induction args with
  | nil => exact Or.inl (congrArg Prod.snd (List.mem_singleton.mp h))
  | cons first rest ih =>
      rw [put] at h
      split at h
      · rcases List.mem_cons.mp h with rfl | hrest
        · exact Or.inl rfl
        · exact Or.inr (List.mem_cons_of_mem _ hrest)
      · rcases List.mem_cons.mp h with rfl | hrest
        · exact Or.inr List.mem_cons_self
        · exact (ih hrest).imp_right (List.mem_cons_of_mem _)

/-- The values of a literal are those of its entries. -/
theorem exists_mem_of_mem_ofLiteral {entries : List (String × Value)} {entry : String × Value}
    (h : entry ∈ ofLiteral entries) : ∃ written ∈ entries, written.2 = entry.2 := by
  have hgeneral : ∀ (entries : List (String × Value)) (args : Arguments),
      entry ∈ entries.foldl (fun args (name, v) => put name v args) args →
        (∃ written ∈ entries, written.2 = entry.2) ∨ entry ∈ args := by
    intro entries
    induction entries with
    | nil => exact fun _ hmem => Or.inr hmem
    | cons first rest ih =>
        intro args hmem
        rcases ih _ hmem with ⟨written, hwritten, heq⟩ | hfirst
        · exact Or.inl ⟨written, List.mem_cons_of_mem _ hwritten, heq⟩
        · rcases value_eq_or_mem_of_mem_put hfirst with heq | hargs
          · exact Or.inl ⟨first, List.mem_cons_self, heq.symm⟩
          · exact Or.inr hargs
  exact (hgeneral entries [] h).resolve_right List.not_mem_nil

/-- The argument found is the last of those whose name is the same in lower case. -/
theorem find?_eq_getLast? (args : Arguments) (name : String) :
    args.find? name
      = ((args.filter fun entry => Text.lowered entry.1 == Text.lowered name).getLast?).map
          (·.2) := by
  unfold find?
  rw [List.getLast?_filter]

/-- Where one entry of a literal has a name, but for its case, its value is found. -/
theorem find?_ofLiteral {entries : List (String × Value)} {name written : String} {v : Value}
    (h : (entries.filter fun entry => Text.lowered entry.1 == Text.lowered name)
      = [(written, v)]) : (ofLiteral entries).find? name = some v := by
  rw [find?_eq_getLast?, filter_ofLiteral (fun k => Text.lowered k == Text.lowered name), h]
  rfl

/-- Where no entry of a literal has a name, nothing is found for it. -/
theorem find?_ofLiteral_eq_none {entries : List (String × Value)} {name : String}
    (h : ∀ entry ∈ entries, Text.lowered entry.1 ≠ Text.lowered name) :
    (ofLiteral entries).find? name = none := by
  have hnone : entries.filter (fun entry => Text.lowered entry.1 == Text.lowered name) = [] := by
    refine List.filter_eq_nil_iff.mpr fun entry hentry heq => ?_
    exact h entry hentry (beq_iff_eq.mp heq)
  rw [find?_eq_getLast?, filter_ofLiteral (fun k => Text.lowered k == Text.lowered name), hnone]
  rfl

/-- What is given is the value of an argument. -/
theorem exists_mem_of_given? {args : Arguments} {name : String} {v : Value}
    (h : args.given? name = some v) : ∃ entry ∈ args, entry.2 = v := by
  obtain ⟨hfind, -⟩ := Option.filter_eq_some_iff.mp h
  rw [find?_eq_getLast?] at hfind
  obtain ⟨entry, hentry, rfl⟩ := Option.map_eq_some_iff.mp hfind
  exact ⟨entry, (List.mem_filter.mp (List.mem_of_getLast? hentry)).1, rfl⟩

/-- An argument that is not missing is given. -/
theorem given?_of_find? {args : Arguments} {name : String} {v : Value}
    (h : args.find? name = some v) (hv : v.isMissing = false) : args.given? name = some v := by
  unfold given?
  rw [h]
  simp [hv]

end Arguments

end ApiCommands
