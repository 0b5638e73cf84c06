/-
What a template is expanded to.

# Values in an address

A value is written unless an integer in it has too many digits
(`exists_argumentText_eq_ok_iff`). One that is not missing is written with something
(`ne_empty_of_argumentText`), and with bytes unless it is a text without
(`whole_of_argumentText`). So its escapes are some, and they are read back as its text
(`escapedAs_of_escaped`).

# Arguments by name

Of the arguments with a name, whatever its case, the last counts (`Gives`); where
that is missing the name has no value, nor has it where there is none (`Lacks`).

# Templates

The parts of a template are the whole of it (`textWith_braced`), and so a path is
the template with escapes for its placeholders. Escapes delimit nothing, which
leaves the delimiters of a path to the text around them (`filter_textWith`): no
value brings one in, and as a brace is one of them, none brings a placeholder in.
The text may well have braces of its own around a placeholder, and these stay.
-/
import ApiCommands.Proofs.Call.Arguments
import ApiCommands.Proofs.Document.Display
import ApiCommands.Proofs.Outcome.Result
import ApiCommands.Proofs.Text.Percent

namespace ApiCommands

-- ====================================================== values in an address

namespace Value

variable [Text.Halves] {v : Value} {written : String}

/-- What is written of a value is what is shown of it, but for truth values and points in time. -/
theorem argumentText_cases (v : Value) :
    (∃ b, v = bool b ∧ v.argumentText = .ok (if b then "true" else "false"))
      ∨ (∃ t, v = scalar (.dateTime t) ∧ v.argumentText = .ok t.iso)
      ∨ v.argumentText = v.display := by
  unfold argumentText
  split
  · next b => exact .inl ⟨b, rfl, rfl⟩
  · next t => exact .inr (.inl ⟨t, rfl, rfl⟩)
  · exact .inr (.inr rfl)

/-- A value is written unless an integer in it has too many digits. -/
theorem exists_argumentText_eq_ok_iff :
    (∃ written, v.argumentText = .ok written) ↔ v.IntegersShort := by
  rcases argumentText_cases v with ⟨b, rfl, h⟩ | ⟨t, rfl, h⟩ | h
  · exact iff_of_true ⟨_, h⟩ (List.forall_mem_nil _)
  · exact iff_of_true ⟨_, h⟩ (List.forall_mem_nil _)
  · rw [h, exists_display_eq_ok_iff]

theorem whole_of_argumentText (htext : ∀ s, v = text s → Text.Whole s)
    (h : v.argumentText = .ok written) : Text.Whole written := by
  rcases argumentText_cases v with ⟨b, -, hwritten⟩ | ⟨t, -, hwritten⟩ | hwritten
  · rw [hwritten] at h
    cases b <;> cases h <;> exact Text.whole_of_isAscii (by decide)
  · rw [hwritten] at h
    rw [← Except.ok.inj h]
    exact Calendar.DateTime.whole_text (Text.whole_of_isAscii (by decide)) t
  · exact whole_of_display htext (hwritten ▸ h)

/-- A value that is no text is written with more than points. -/
theorem exists_ne_point_of_argumentText (htext : ∀ s, v ≠ text s)
    (h : v.argumentText = .ok written) : ∃ c ∈ written.toList, c ≠ '.' := by
  rcases argumentText_cases v with ⟨b, -, hwritten⟩ | ⟨t, -, hwritten⟩ | hwritten
  · rw [hwritten] at h
    cases b <;> cases h <;> exact ⟨'e', by decide, by decide⟩
  · rw [hwritten] at h
    rw [← Except.ok.inj h]
    exact ⟨'T', Calendar.DateTime.mem_text_of_mem (by decide) t, by decide⟩
  · exact exists_ne_point_of_display htext (hwritten ▸ h)

theorem ne_empty_of_argumentText (hmissing : v.isMissing = false)
    (h : v.argumentText = .ok written) : written ≠ "" := by
  rintro rfl
  by_cases htext : ∃ s, v = text s
  · obtain ⟨s, rfl⟩ := htext
    obtain rfl : s = "" := Except.ok.inj h
    exact absurd hmissing (by decide)
  · obtain ⟨c, hc, -⟩ := exists_ne_point_of_argumentText (not_exists.mp htext) h
    cases hc

/-- An integer with too many digits is not escaped. -/
theorem escaped_int_of_long {n : Int} (h : ¬n.natAbs < 10 ^ Numeral.maxDigits) :
    (int n).escaped = .error (.fault .badNumeral) := by
  have hwritten : (int n).argumentText = .error .badNumeral := by
    cases hresult : integerLiteral n with
    | error f => exact eq_badNumeral_of_integerLiteral hresult ▸ hresult
    | ok written => exact absurd (integerLiteral_eq_ok_iff.mp hresult).1 h
  unfold escaped
  rw [hwritten]
  rfl

end Value

/-- Escapes that stand for a value in a path: there are some, and they are read back as its text. -/
structure Value.EscapedAs [Text.Halves] (v : Value) (escapes : List Char) : Prop where
  ne_nil : escapes ≠ []
  escaped : Text.Percent.Escaped escapes
  decoded : ∃ written, v.argumentText = .ok written
    ∧ Text.Percent.decode? escapes = some written

-- ====================================================== arguments by name

namespace Arguments

variable {args : Arguments} {name : String} {v : Value}

/-- The last argument of a name, whatever its case, has the value, and it is not missing. -/
structure Gives (args : Arguments) (name : String) (v : Value) : Prop where
  last : ∃ front k back, args = front ++ (k, v) :: back ∧ Text.lowered k = Text.lowered name
    ∧ ∀ entry ∈ back, Text.lowered entry.1 ≠ Text.lowered name
  notMissing : v.isMissing = false

/-- The arguments can be written: the texts among them have bytes, and no integer in them has too
many digits. -/
structure Writable [Text.Halves] (args : Arguments) : Prop where
  textsWhole : ∀ entry ∈ args, ∀ s, entry.2 = .text s → Text.Whole s
  integersShort : ∀ entry ∈ args, entry.2.IntegersShort

/-- The arguments have no value for the name. -/
def Lacks (args : Arguments) (name : String) : Prop := ∀ v, ¬args.Gives name v

theorem find?_eq_some_iff : args.find? name = some v
    ↔ ∃ front k back, args = front ++ (k, v) :: back ∧ Text.lowered k = Text.lowered name
      ∧ ∀ entry ∈ back, Text.lowered entry.1 ≠ Text.lowered name := by
  unfold find?
  rw [Option.map_eq_some_iff]
  constructor
  · rintro ⟨⟨k, w⟩, hfind, rfl⟩
    obtain ⟨hk, back, front, heq, hback⟩ := List.find?_eq_some_iff_append.mp hfind
    refine ⟨front.reverse, k, back.reverse, ?_, beq_iff_eq.mp hk, fun entry hentry => ?_⟩
    · rw [← List.reverse_reverse args, heq]
      simp
    · simpa using hback entry (List.mem_reverse.mp hentry)
  · rintro ⟨front, k, back, rfl, hk, hback⟩
    refine ⟨(k, v), List.find?_eq_some_iff_append.mpr
      ⟨beq_iff_eq.mpr hk, back.reverse, front.reverse, by simp, fun entry hentry => ?_⟩, rfl⟩
    simpa using hback entry (List.mem_reverse.mp hentry)

theorem given?_eq_some_iff : args.given? name = some v ↔ args.Gives name v := by
  unfold given?
  rw [Option.filter_eq_some_iff, find?_eq_some_iff, Bool.not_eq_true']
  exact ⟨fun ⟨hlast, hv⟩ => ⟨hlast, hv⟩, fun h => ⟨h.last, h.notMissing⟩⟩

theorem isNone_given?_iff : (args.given? name).isNone = true ↔ args.Lacks name := by
  unfold Lacks
  simp only [Option.isNone_iff_eq_none, Option.eq_none_iff_forall_ne_some, ne_eq,
    given?_eq_some_iff]

/-- Looking for a name without a value finds nothing where all have one. -/
theorem find?_lacking_eq_none_iff {names : List String} :
    (names.find? fun name => (args.given? name).isNone) = none
      ↔ ∀ name ∈ names, ¬args.Lacks name := by
  simp only [List.find?_eq_none, isNone_given?_iff]

/-- Else it finds the first. -/
theorem find?_lacking_eq_some_iff {names : List String} :
    (names.find? fun name => (args.given? name).isNone) = some name
      ↔ ∃ before after, names = before ++ name :: after
        ∧ (∀ other ∈ before, ¬args.Lacks other) ∧ args.Lacks name := by
  simp only [List.find?_eq_some_iff_append, isNone_given?_iff, Bool.not_eq_true',
    ← Bool.not_eq_true]
  constructor
  · rintro ⟨hname, before, after, heq, hbefore⟩
    exact ⟨before, after, heq, hbefore, hname⟩
  · rintro ⟨before, after, heq, hbefore, hname⟩
    exact ⟨hname, before, after, heq, hbefore⟩

end Arguments

-- ====================================================== templates with something filled in

def TemplatePart.textWith (f : String → List Char) : TemplatePart → List Char
  | .literal c => [c]
  | .placeholder name => f (String.ofList name)

namespace PathTemplate

variable {f : String → List Char} {template : String} {s name : List Char}

/-- A template, with `f` saying what stands for each placeholder. -/
def textWith (f : String → List Char) (template : String) : List Char :=
  (parts template.toList).flatMap (TemplatePart.textWith f)

/-- The text of a template that is no placeholder. -/
def literalText (template : String) : List Char := textWith (fun _ => []) template

/-- A placeholder as it stands in a template. -/
def braced (name : String) : List Char := '{' :: name.toList ++ ['}']

/-- Behind an opening brace stand the name of the placeholder and a closing brace. -/
theorem eq_append_of_nameAt? (h : nameAt? s = some name) :
    s = name ++ '}' :: s.drop (name.length + 1) := by
  unfold nameAt? at h
  dsimp only at h
  split at h
  · next hclosed =>
    rw [Option.some.injEq] at h
    rw [h] at hclosed
    have hprefix : name ++ s.drop name.length = s := by
      rw [← h]
      exact List.prefix_iff_eq_append.mp (List.takeWhile_prefix _)
    obtain ⟨rest, hrest⟩ := List.head?_eq_some_iff.mp hclosed.2
    have hdrop : s.drop (name.length + 1) = rest := by
      rw [← List.drop_drop, hrest]
      rfl
    rw [hdrop, ← hrest]
    exact hprefix.symm
  · cases h

theorem parts_of_nameAt? (h : nameAt? s = some name) :
    parts ('{' :: s) = .placeholder name :: parts (s.drop (name.length + 1)) := by
  rw [parts, if_pos rfl, h]

theorem parts_of_none {c : Char} (h : (if c = '{' then nameAt? s else none) = none) :
    parts (c :: s) = .literal c :: parts s := by
  rw [parts, h]

/-- The parts of a template are the whole of it. -/
theorem textWith_braced (template : String) : textWith braced template = template.toList := by
  unfold textWith
  generalize template.toList = s
  induction s using parts.induct with
  | case1 => simp [parts]
  | case2 c rest name hname ih =>
      rw [dite_eq_ite] at hname
      split at hname
      · next hc =>
        rw [hc, parts_of_nameAt? hname, List.flatMap_cons, ih, TemplatePart.textWith, braced,
          String.toList_ofList]
        conv_rhs => rw [eq_append_of_nameAt? hname]
        simp
      · cases hname
  | case3 c rest hname ih =>
      rw [dite_eq_ite] at hname
      rw [parts_of_none hname, List.flatMap_cons, ih]
      rfl

/-- Without an opening brace there is no placeholder. -/
theorem placeholders_eq_nil (h : '{' ∉ template.toList) : placeholders template = [] := by
  have hparts : ∀ s : List Char, '{' ∉ s → (parts s).filterMap nameOf? = [] := by
    intro s
    induction s with
    | nil => simp [parts]
    | cons c rest ih =>
        rw [List.mem_cons, not_or]
        rintro ⟨hc, hrest⟩
        rw [parts_of_none (if_neg (Ne.symm hc)), List.filterMap_cons_none rfl]
        exact ih hrest
  rw [placeholders_eq]
  exact hparts _ h

/-- What stands for placeholders without delimiters adds none to those of the text. -/
theorem filter_textWith {p : Char → Bool}
    (h : ∀ name ∈ placeholders template, (f name).filter p = []) :
    (textWith f template).filter p = (literalText template).filter p := by
  unfold literalText textWith
  rw [List.filter_flatMap, List.filter_flatMap]
  refine List.flatMap_congr fun part hpart => ?_
  cases part with
  | literal c => rfl
  | placeholder name => exact h _ (mem_placeholders_of_mem_parts hpart)

theorem fillWith_eq_textWith (f : String → List Char) (template : String) :
    fillWith (fun name => .ok (f (String.ofList name))) template
      = .ok (String.ofList (textWith f template)) := by
  rw [fillWith_ok fun name => f (String.ofList name)]
  rfl

-- ====================================================== the path

theorem lacks_none_or_first (template : String) (args : Arguments) :
    (∀ name ∈ placeholders template, ¬args.Lacks name)
      ∨ ∃ before name after, placeholders template = before ++ name :: after
        ∧ (∀ other ∈ before, ¬args.Lacks other) ∧ args.Lacks name := by
  cases hfirst : (placeholders template).find? fun name => (args.given? name).isNone with
  | none => exact Or.inl (Arguments.find?_lacking_eq_none_iff.mp hfirst)
  | some name =>
      obtain ⟨before, after, h⟩ := Arguments.find?_lacking_eq_some_iff.mp hfirst
      exact Or.inr ⟨before, name, after, h⟩

variable [Text.Halves] {args : Arguments}

/-- The escapes of an argument. -/
def escapesOf (args : Arguments) (name : String) : List Char :=
  (((args.given? name).getD .null).escaped.toOption).getD []

/-- The escapes of an argument that is escaped are those of its text. -/
theorem escapesOf_eq {name : String} {v : Value} {escapes : List Char}
    (h : args.given? name = some v) (hescaped : v.escaped = .ok escapes) :
    escapesOf args name = escapes := by
  unfold escapesOf
  rw [h, Option.getD_some, hescaped]
  rfl

/-- Escapes of an argument are those of a text, if there are any. -/
theorem exists_escapesOf_eq_encode (args : Arguments) (name : String) :
    ∃ s, escapesOf args name = Text.Percent.encode s := by
  unfold escapesOf
  cases hescaped : ((args.given? name).getD .null).escaped with
  | error e => exact ⟨[], rfl⟩
  | ok escapes =>
      obtain ⟨written, -, -, rfl⟩ := Value.escaped_eq_ok_iff.mp hescaped
      exact ⟨written.toList, rfl⟩

theorem escapedAs_of_escaped {v : Value} {escapes : List Char} (hmissing : v.isMissing = false)
    (h : v.escaped = .ok escapes) : v.EscapedAs escapes := by
  obtain ⟨written, hwritten, -, rfl⟩ := Value.escaped_eq_ok_iff.mp h
  refine ⟨fun hnil => ?_, Text.Percent.escaped_encode _, written, hwritten, ?_⟩
  · have hempty := String.toList_eq_nil_iff.mp (Text.Percent.encode_eq_nil_iff.mp hnil)
    exact Value.ne_empty_of_argumentText hmissing hwritten hempty
  · rw [Text.Percent.decode?_encode, String.ofList_toList]

/-- What is given is escaped, if the arguments can be written. -/
theorem exists_escaped_of_given? (h : args.Writable) (name : String) (v : Value)
    (hv : args.given? name = some v) : ∃ escapes, v.escaped = .ok escapes := by
  obtain ⟨entry, hentry, rfl⟩ := Arguments.exists_mem_of_given? hv
  obtain ⟨written, hwritten⟩ :=
    Value.exists_argumentText_eq_ok_iff.mpr (h.integersShort entry hentry)
  exact ⟨_, Value.escaped_eq_ok_iff.mpr ⟨written, hwritten,
    Value.whole_of_argumentText (h.textsWhole entry hentry) hwritten, rfl⟩⟩

/-- Then a template is filled with the escapes if no placeholder lacks a value. -/
theorem expand_eq_ok (h : args.Writable)
    (hall : ∀ name ∈ placeholders template, ¬args.Lacks name) :
    expand template args = .ok (String.ofList (textWith (escapesOf args) template)) := by
  rw [expand_eq_of_escaped (exists_escaped_of_given? h),
    Arguments.find?_lacking_eq_none_iff.mpr hall,
    ← fillWith_eq_textWith]
  refine fillWith_congr fun name hname => ?_
  obtain ⟨v, hv⟩ := not_forall_not.mp (hall _ hname)
  have hgiven := Arguments.given?_eq_some_iff.mpr hv
  obtain ⟨escapes, hescaped⟩ := exists_escaped_of_given? h _ v hgiven
  rw [hgiven, Option.getD_some, hescaped, escapesOf_eq hgiven hescaped]

/-- Else the first placeholder that does is reported. -/
theorem expand_eq_error (h : args.Writable) {before after : List String} {name : String}
    (heq : placeholders template = before ++ name :: after)
    (hbefore : ∀ other ∈ before, ¬args.Lacks other) (hname : args.Lacks name) :
    expand template args = .error (.usage (.missingArgument name)) := by
  rw [expand_eq_of_escaped (exists_escaped_of_given? h),
    Arguments.find?_lacking_eq_some_iff.mpr ⟨before, after, heq, hbefore, hname⟩]

/-- Where the first placeholder cannot be filled, the template is not expanded. -/
theorem expand_eq_error_of_first {front name : List Char} {rest : List TemplatePart} {e : Error}
    (hparts : parts template.toList = front.map .literal ++ .placeholder name :: rest)
    (h : expandPart args (.placeholder name) = .error e) : expand template args = .error e := by
  have hpieces : (parts template.toList).mapM (expandPart args) = .error e := by
    rw [hparts]
    clear hparts
    induction front with
    | nil =>
        rw [List.map_nil, List.nil_append, List.mapM_cons, h]
        rfl
    | cons c more ih =>
        rw [List.map_cons, List.cons_append, List.mapM_cons, ih]
        rfl
  unfold expand
  rw [hpieces]
  rfl

theorem exists_given?_of_expandPart {name piece : List Char}
    (h : expandPart args (.placeholder name) = .ok piece) :
    ∃ v, args.given? (String.ofList name) = some v ∧ v.escaped = .ok piece := by
  unfold expandPart at h
  dsimp only at h
  split at h
  · cases h
  · next v hv => exact ⟨v, hv, h⟩

/-- A path is the template with escapes, and all placeholders have values that are escaped,
whatever else is among the arguments. -/
theorem eq_textWith_of_expand {path : String} (h : expand template args = .ok path) :
    path = String.ofList (textWith (escapesOf args) template)
      ∧ ∀ name ∈ placeholders template, ∃ v, args.Gives name v
        ∧ v.escaped = .ok (escapesOf args name) := by
  obtain ⟨pieces, hpieces, hpath⟩ := Except.bind_eq_ok_iff.mp h
  have hpart : ∀ part piece, expandPart args part = .ok piece →
      piece = part.textWith (escapesOf args) := by
    intro part piece hpart
    cases part with
    | literal c => exact (Except.ok.inj hpart).symm
    | placeholder name =>
        obtain ⟨v, hv, hescaped⟩ := exists_given?_of_expandPart hpart
        exact (escapesOf_eq hv hescaped).symm
  obtain ⟨rfl, hall⟩ := Except.eq_map_of_mapM hpart hpieces
  refine ⟨?_, fun name hname => ?_⟩
  · rw [← Except.ok.inj hpath, textWith, List.flatMap_def]
  · rw [placeholders_eq] at hname
    obtain ⟨part, hmem, hname⟩ := List.mem_filterMap.mp hname
    cases part with
    | literal c => cases hname
    | placeholder written =>
        obtain rfl := Option.some.inj hname
        obtain ⟨v, hv, hescaped⟩ := exists_given?_of_expandPart (hall _ hmem)
        rw [escapesOf_eq hv hescaped]
        exact ⟨v, Arguments.given?_eq_some_iff.mp hv, hescaped⟩

/-- The path of a template, if the arguments can be written. A placeholder without a value,
whatever its case, is all that can go wrong, and the first of them is reported. Else the path is the
template with escapes in place of each placeholder, which are read back as the value. So the
delimiters of the path are those of the text around the placeholders, and none is added; nor is a
placeholder. -/
theorem expand_fills_template (template : String) (args : Arguments) (h : args.Writable) :
    textWith braced template = template.toList
      ∧ ((∃ u, expand template args = .error (.usage u))
        ↔ ∃ name ∈ placeholders template, args.Lacks name)
      ∧ (∀ e, expand template args = .error e →
          ∃ before name after, placeholders template = before ++ name :: after
            ∧ (∀ other ∈ before, ¬args.Lacks other) ∧ args.Lacks name
            ∧ e = .usage (.missingArgument name))
      ∧ ((∀ name ∈ placeholders template, ¬args.Lacks name) →
          ∃ escapes : String → List Char,
            expand template args = .ok (String.ofList (textWith escapes template))
              ∧ (∀ name ∈ placeholders template,
                ∃ v, args.Gives name v ∧ v.EscapedAs (escapes name))
              ∧ (textWith escapes template).filter Text.Percent.mayDelimit
                = (literalText template).filter Text.Percent.mayDelimit
              ∧ ('{' ∉ literalText template →
                placeholders (String.ofList (textWith escapes template)) = [])) := by
  refine ⟨textWith_braced template, ?_, fun e he => ?_, fun hall => ?_⟩
  · rcases lacks_none_or_first template args with hall | ⟨before, name, after, heq, hbefore, hname⟩
    · refine iff_of_false ?_ fun ⟨name, hname, hlacks⟩ => hall name hname hlacks
      rintro ⟨u, hu⟩
      rw [expand_eq_ok h hall] at hu
      cases hu
    · refine iff_of_true ⟨_, expand_eq_error h heq hbefore hname⟩ ⟨name, ?_, hname⟩
      rw [heq]
      exact List.mem_append_right _ List.mem_cons_self
  · rcases lacks_none_or_first template args with hall | ⟨before, name, after, heq, hbefore, hname⟩
    · rw [expand_eq_ok h hall] at he
      cases he
    · rw [expand_eq_error h heq hbefore hname] at he
      exact ⟨before, name, after, heq, hbefore, hname, (Except.error.inj he).symm⟩
  · have hdelimiters : (textWith (escapesOf args) template).filter Text.Percent.mayDelimit
        = (literalText template).filter Text.Percent.mayDelimit :=
      filter_textWith fun name _ => by
        obtain ⟨s, hs⟩ := exists_escapesOf_eq_encode args name
        rw [hs, Text.Percent.filter_mayDelimit_encode]
    refine ⟨escapesOf args, expand_eq_ok h hall, fun name hname => ?_, hdelimiters,
      fun hbrace => placeholders_eq_nil fun hmem => hbrace ?_⟩
    · obtain ⟨v, hv, hescaped⟩ := (eq_textWith_of_expand (expand_eq_ok h hall)).2 name hname
      exact ⟨v, hv, escapedAs_of_escaped hv.notMissing hescaped⟩
    · -- a brace may delimit, so one of the path is one of the text
      have hbraces : Text.Percent.mayDelimit '{' = true := by decide
      rw [String.toList_ofList] at hmem
      have hfilter := List.mem_filter.mpr ⟨hmem, hbraces⟩
      rw [hdelimiters] at hfilter
      exact (List.mem_filter.mp hfilter).1

end PathTemplate

-- ====================================================== a path with a name that needs escapes

namespace NamedFile

/-- The version is no placeholder of a segment of its own. -/
def template : String := "/teams/{team}/files/{Name}.v{version}"

/-- Names in another case, and a text with delimiters. -/
def args : Arguments :=
  [("TEAM", .text " "), ("version", .int 2), ("name", .text "a/b?c#\x7bd\x7d é%"),
    ("Team", .bool true)]

/-- The name is blank. -/
def blank : Arguments := [("team", .int 7), ("name", .text " "), ("version", .null)]

theorem writable_args : args.Writable where
  textsWhole := by
    intro entry hentry s hs
    simp only [args, List.mem_cons, List.not_mem_nil, or_false] at hentry
    rcases hentry with rfl | rfl | rfl | rfl <;> cases hs <;> decide
  integersShort := fun entry hentry => Value.integersShort_of_digits <|
    (show ∀ entry ∈ args, ∀ n ∈ entry.2.integers, n.natAbs < 10 by decide) entry hentry

theorem writable_blank : blank.Writable where
  textsWhole := by
    intro entry hentry s hs
    simp only [blank, List.mem_cons, List.not_mem_nil, or_false] at hentry
    rcases hentry with rfl | rfl | rfl
    · cases hs
    · cases hs
      decide
    · cases hs
  integersShort := fun entry hentry => Value.integersShort_of_digits <|
    (show ∀ entry ∈ blank, ∀ n ∈ entry.2.integers, n.natAbs < 10 by decide) entry hentry

end NamedFile

/-- The last of two teams counts, the name is in escapes; and it is reported where it is blank. -/
theorem PathTemplate.namedFile_filled :
    NamedFile.args.Writable
      ∧ expand NamedFile.template NamedFile.args
        = .ok "/teams/true/files/a%2Fb%3Fc%23%7Bd%7D%20%C3%A9%25.v2"
      ∧ (∃ escapes : String → List Char,
          expand NamedFile.template NamedFile.args
              = .ok (String.ofList (textWith escapes NamedFile.template))
            ∧ ∀ name ∈ placeholders NamedFile.template,
              ∃ v, NamedFile.args.Gives name v ∧ v.EscapedAs (escapes name))
      ∧ NamedFile.blank.Writable
      ∧ ∃ u, expand NamedFile.template NamedFile.blank = .error (.usage u) := by
  have hall : ∀ name ∈ placeholders NamedFile.template, ¬NamedFile.args.Lacks name :=
    Arguments.find?_lacking_eq_none_iff.mp (by decide +kernel)
  have hname : "Name" ∈ placeholders NamedFile.template := by decide +kernel
  have hlacks : NamedFile.blank.Lacks "Name" :=
    Arguments.isNone_given?_iff.mp (by decide)
  obtain ⟨-, -, -, hpath⟩ :=
    expand_fills_template NamedFile.template NamedFile.args NamedFile.writable_args
  obtain ⟨-, hfails, -⟩ :=
    expand_fills_template NamedFile.template NamedFile.blank NamedFile.writable_blank
  obtain ⟨escapes, hexpand, hescapes, -⟩ := hpath hall
  have htext : String.ofList (textWith (escapesOf NamedFile.args) NamedFile.template)
      = "/teams/true/files/a%2Fb%3Fc%23%7Bd%7D%20%C3%A9%25.v2" := by decide +kernel
  have hfilled := expand_eq_ok NamedFile.writable_args hall
  rw [htext] at hfilled
  exact ⟨NamedFile.writable_args, hfilled, ⟨escapes, hexpand, hescapes⟩,
    NamedFile.writable_blank, hfails.mpr ⟨"Name", hname, hlacks⟩⟩

-- ====================================================== arguments that fill nothing

namespace NamedItem

def template : String := "/items/{id}"

/-- The first integer with too many digits. -/
def long : Arguments := [("id", .int ((10 ^ Numeral.maxDigits : Nat) : Int))]

/-- Two names that differ in case alone. -/
def twice : Arguments := [("ID", .text "7"), ("id", .text "")]

theorem exists_gives_long :
    ∃ n : Int, ¬n.natAbs < 10 ^ Numeral.maxDigits ∧ long.Gives "id" (.int n) := by
  refine ⟨_, ?_, ⟨[], "id", [], rfl, rfl, List.forall_mem_nil _⟩, rfl⟩
  rw [Int.natAbs_natCast]
  exact Nat.lt_irrefl _

end NamedItem

/-- Not all arguments that leave no placeholder without a value fill a template. An integer with too
many digits is a value, and is not written; and of two names that differ in case alone the later
one counts, though it is blank and the earlier one is not. -/
theorem PathTemplate.namedItem_not_filled :
    placeholders NamedItem.template = ["id"]
      ∧ ¬NamedItem.long.Lacks "id"
      ∧ expand NamedItem.template NamedItem.long = .error (.fault .badNumeral)
      ∧ ("ID", .text "7") ∈ NamedItem.twice ∧ Text.lowered "ID" = Text.lowered "id"
      ∧ (Value.text "7").isMissing = false
      ∧ expand NamedItem.template NamedItem.twice = .error (.usage (.missingArgument "id")) := by
  have hparts : parts NamedItem.template.toList
      = "/items/".toList.map .literal ++ .placeholder "id".toList :: [] := by decide +kernel
  have htwice : NamedItem.twice.given? (String.ofList "id".toList) = none := by decide
  obtain ⟨n, hlong, hgives⟩ := NamedItem.exists_gives_long
  refine ⟨by decide +kernel, fun hlacks => hlacks _ hgives, expand_eq_error_of_first hparts ?_,
    List.mem_cons_self, by decide, rfl, expand_eq_error_of_first hparts ?_⟩
  · have hgiven : NamedItem.long.given? (String.ofList "id".toList) = some (.int n) := by
      rw [String.ofList_toList]
      exact Arguments.given?_eq_some_iff.mpr hgives
    rw [expandPart_of_given? hgiven, Value.escaped_int_of_long hlong]
  · rw [expandPart_of_not_given? htwice, String.ofList_toList]

end ApiCommands
