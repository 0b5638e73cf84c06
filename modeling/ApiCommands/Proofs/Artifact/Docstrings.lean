/-
What is emitted between triple quotes, read back.

# Reading a literal

Between triple quotes a backslash escapes a backslash or a quote, and the first quote
that is not escaped ends the body. `Literal.read?` reads such a literal by
these rules at the front of a text. It refuses every other use of a backslash; so what
it reads, a reader that knows more escapes reads alike.

# Writing one

The two replacements, of backslashes first and of quotes then, are one walk over the
text (`escape_eq_replace`). A body that is read is the escaped form of what it
means, and whatever is escaped can be read: the reader takes exactly what
`escape` writes (`Literal.readBody_eq_some_iff`, by the induction of the
reader in one direction and on the text in the other). So a summary ends where it was meant to end,
whatever stands behind it.
-/
import ApiCommands.Artifact.CommandModule
import ApiCommands.Proofs.Artifact.Model.Fields

namespace ApiCommands

namespace DocText

-- ====================================================== literals

/-- What a literal starts with and ends with. -/
def tripleQuote : List Char := ['"', '"', '"']

/-- A literal between triple quotes at the front of a text: its body as it is written, the text that
the body means, and what stands behind the literal. -/
structure Literal where
  body : List Char
  meaning : List Char
  rest : List Char
  deriving DecidableEq, Repr

namespace Literal

/-- The literal with one more character in front, which is written so. -/
def behind (written : List Char) (c : Char) (l : Literal) : Literal :=
  { l with body := written ++ l.body, meaning := c :: l.meaning }

/-- The body up to the first quote that is not escaped, and the text from this quote on. -/
def readBody : List Char → Option Literal
  | [] => none
  | '"' :: rest => some ⟨[], [], '"' :: rest⟩
  | ['\\'] => none
  | '\\' :: c :: rest =>
    if c = '\\' ∨ c = '"' then (readBody rest).map (behind ['\\', c] c) else none
  | c :: rest => (readBody rest).map (behind [c] c)

/-- The literal at the front of a text. -/
def read? (s : List Char) : Option Literal := do
  let inside ← Text.dropPrefix? tripleQuote s
  let l ← readBody inside
  let rest ← Text.dropPrefix? tripleQuote l.rest
  return { l with rest := rest }

end Literal

/-- Between triple quotes the body is read to its end, whatever stands behind it, and means this
text. -/
def Means (body meaning : String) : Prop :=
  ∀ rest, Literal.read? ((quotedLine "" body).toList ++ rest)
    = some ⟨body.toList, meaning.toList, rest⟩

-- ====================================================== escaping

theorem escape_cons (c : Char) (s : List Char) : escape (c :: s) = escapeChar c ++ escape s :=
  List.flatMap_cons

/-- A backslash or a quote has a backslash in front. -/
theorem escapeChar_of_special {c : Char} (h : c = '\\' ∨ c = '"') : escapeChar c = ['\\', c] :=
  if_pos h

/-- Any other character stands for itself. -/
theorem escapeChar_of_plain {c : Char} (h : ¬(c = '\\' ∨ c = '"')) : escapeChar c = [c] :=
  if_neg h

/-- Every character of this kind has a backslash in front when it is replaced. -/
private theorem replaceNonempty_singleton (c : Char) (new s : List Char) :
    Text.replaceNonempty [c] new s = s.flatMap fun d => if d = c then new else [d] := by
  induction s with
  | nil => rw [Text.replaceNonempty, List.flatMap_nil]
  | cons d rest ih =>
      rw [List.flatMap_cons, ← ih, Text.replaceNonempty]
      by_cases hd : d = c
      · rw [if_pos hd, if_pos (by simp [hd])]
        rfl
      · rw [if_neg hd, if_neg (by simpa using Ne.symm hd)]
        rfl

/-- Escaping is replacing the backslashes and then the quotes. The backslashes that come in front of
quotes are not replaced any more. -/
theorem escape_eq_replace (s : List Char) :
    escape s = Text.replace ['"'] ['\\', '"'] (Text.replace ['\\'] ['\\', '\\'] s) := by
  show _ = Text.replaceNonempty _ _ (Text.replaceNonempty _ _ s)
  rw [replaceNonempty_singleton, replaceNonempty_singleton, List.flatMap_assoc]
  refine List.flatMap_congr fun c _ => ?_
  unfold escapeChar
  by_cases hbackslash : c = '\\'
  · simp [hbackslash]
  · by_cases hquote : c = '"' <;> simp [hbackslash, hquote]

namespace Literal

variable {s rest : List Char} {l : Literal}

-- ====================================================== reading

theorem readBody_escaped {c : Char} (h : c = '\\' ∨ c = '"') (rest : List Char) :
    readBody ('\\' :: c :: rest) = (readBody rest).map (behind ['\\', c] c) := by
  rw [readBody, if_pos h]

theorem readBody_plain {c : Char} (h : ¬(c = '\\' ∨ c = '"')) (rest : List Char) :
    readBody (c :: rest) = (readBody rest).map (behind [c] c) := by
  rw [not_or] at h
  rw [readBody]
  · exact fun hquote => absurd hquote h.2
  · exact fun hbackslash _ => absurd hbackslash h.1
  · exact fun _ _ hbackslash _ => absurd hbackslash h.1

/-- An escaped text in front of a quote is read as the text. -/
theorem readBody_escape (s rest : List Char) :
    readBody (escape s ++ '"' :: rest) = some ⟨escape s, s, '"' :: rest⟩ := by
  induction s with
  | nil => rfl
  | cons c s ih =>
      rw [escape_cons]
      by_cases hspecial : c = '\\' ∨ c = '"'
      · rw [escapeChar_of_special hspecial, List.append_assoc]
        show readBody ('\\' :: c :: (escape s ++ '"' :: rest)) = _
        rw [readBody_escaped hspecial, ih]
        rfl
      · rw [escapeChar_of_plain hspecial, List.append_assoc]
        show readBody (c :: (escape s ++ '"' :: rest)) = _
        rw [readBody_plain hspecial, ih]
        rfl

/-- A body that is read is the escaped form of what it means, up to the first quote behind it. -/
theorem exists_eq_of_readBody (h : readBody s = some l) :
    ∃ rest, s = escape l.meaning ++ '"' :: rest
      ∧ l = ⟨escape l.meaning, l.meaning, '"' :: rest⟩ := by
  induction s using readBody.induct generalizing l with
  | case1 => cases h
  | case2 rest =>
      obtain rfl := Option.some.inj h
      exact ⟨rest, rfl, rfl⟩
  | case3 => cases h
  | case4 c rest hspecial ih =>
      rw [readBody_escaped hspecial] at h
      obtain ⟨inner, hinner, rfl⟩ := Option.map_eq_some_iff.mp h
      obtain ⟨more, hrest, hl⟩ := ih hinner
      refine ⟨more, ?_, ?_⟩
      · show '\\' :: c :: rest = escape (c :: inner.meaning) ++ _
        rw [escape_cons, escapeChar_of_special hspecial, hrest]
        rfl
      · show behind _ c inner = ⟨escape (c :: inner.meaning), _, _⟩
        rw [escape_cons, escapeChar_of_special hspecial, hl]
        rfl
  | case5 c rest hother =>
      rw [readBody, if_neg hother] at h
      cases h
  | case6 c rest hquote hlast hescape ih =>
      have hplain : ¬(c = '\\' ∨ c = '"') := by
        rintro (rfl | rfl)
        · cases rest with
          | nil => exact hlast rfl rfl
          | cons d more => exact hescape d more rfl rfl
        · exact hquote rfl
      rw [readBody_plain hplain] at h
      obtain ⟨inner, hinner, rfl⟩ := Option.map_eq_some_iff.mp h
      obtain ⟨more, hrest, hl⟩ := ih hinner
      refine ⟨more, ?_, ?_⟩
      · show c :: rest = escape (c :: inner.meaning) ++ _
        rw [escape_cons, escapeChar_of_plain hplain, hrest]
        rfl
      · show behind _ c inner = ⟨escape (c :: inner.meaning), _, _⟩
        rw [escape_cons, escapeChar_of_plain hplain, hl]
        rfl

/-- The bodies that are read are the escaped texts, each as the text it is the escaped form of. -/
theorem readBody_eq_some_iff :
    readBody s = some l
      ↔ ∃ meaning rest, s = escape meaning ++ '"' :: rest
          ∧ l = ⟨escape meaning, meaning, '"' :: rest⟩ := by
  constructor
  · intro h
    obtain ⟨rest, hs, hl⟩ := exists_eq_of_readBody h
    exact ⟨l.meaning, rest, hs, hl⟩
  · rintro ⟨meaning, rest, rfl, rfl⟩
    exact readBody_escape meaning rest

theorem dropPrefix?_tripleQuote_eq_some_iff :
    Text.dropPrefix? tripleQuote s = some rest ↔ s = tripleQuote ++ rest :=
  Text.dropPrefix?_eq_some_iff

/-- A text starts with a literal exactly if it starts with an escaped text between triple quotes,
and this is what the literal means. -/
theorem read?_eq_some_iff :
    read? s = some l
      ↔ s = tripleQuote ++ l.body ++ tripleQuote ++ l.rest ∧ l.body = escape l.meaning := by
  unfold read?
  simp only [Option.bind_eq_bind, Option.bind_eq_some_iff, dropPrefix?_tripleQuote_eq_some_iff,
    readBody_eq_some_iff, Option.pure_def, Option.some.injEq]
  constructor
  · rintro ⟨inside, rfl, _, ⟨meaning, back, rfl, rfl⟩, rest, hback, rfl⟩
    refine ⟨?_, rfl⟩
    rw [show '"' :: back = tripleQuote ++ rest from hback]
    simp only [List.append_assoc]
  · rintro ⟨hs, hbody⟩
    refine ⟨escape l.meaning ++ '"' :: (['"', '"'] ++ l.rest), ?_, _,
      ⟨l.meaning, _, rfl, rfl⟩, l.rest, rfl, ?_⟩
    · rw [hs, hbody]
      simp [tripleQuote]
    · rw [← hbody]

end Literal

-- ====================================================== summaries

/-- Between triple quotes a summary means the first line of its text, or the fallback. -/
theorem means_summary (text : Option String) (fallback : String) :
    Means (summary text fallback) (firstLine text fallback) := by
  intro rest
  rw [Literal.read?_eq_some_iff]
  unfold quotedLine summary
  constructor
  · simp [tripleQuote]
  · rw [String.toList_ofList]

/-- A summary is the first line of its text, or the fallback, with its backslashes replaced and then
its quotes. Every summary that is emitted between triple quotes is read to its end, whatever stands
behind it, and means this line: the one of a method and the one of a command, which fall
back on method and path, and the description of a model, which falls back on the name of its
schema. -/
theorem docstrings_mean_first_lines :
    (∀ text fallback,
      (summary text fallback).toList
          = Text.replace ['"'] ['\\', '"']
              (Text.replace ['\\'] ['\\', '\\'] (firstLine text fallback).toList)
        ∧ Means (summary text fallback) (firstLine text fallback))
      ∧ (∀ t op, Means (ClientMethod.ofOperation t op).summary (firstLine op.summary op.route))
      ∧ (∀ t command, Means (Handler.ofCommand t command).help
          (firstLine command.operation.summary command.operation.route))
      ∧ ∀ (c : Catalog) key node className m, (c.modelOf key node className).outcome = .ok m →
          ∃ schema name text, c.IsModelOf (key, node) schema m ∧ key.display = .ok name
            ∧ Catalog.descriptionText schema = .ok text
            ∧ Means m.description
                (firstLine text ("Schema \x60\x60" ++ name ++ "\x60\x60.")) := by
  refine ⟨fun text fallback => ⟨?_, means_summary text fallback⟩,
    fun _ op => means_summary op.summary op.route,
    fun _ command => means_summary _ command.operation.route, fun c key node className m hm => ?_⟩
  · rw [← escape_eq_replace]
    exact String.toList_ofList
  · obtain ⟨-, schema, hmodel⟩ := Catalog.outcome_modelOf_eq_ok_iff.mp hm
    obtain ⟨name, text, hname, htext, hdescription⟩ := hmodel.description
    refine ⟨schema, name, text, hmodel, hname, htext, ?_⟩
    rw [hdescription]
    exact means_summary text _

namespace QuotingNote

/-- A document without schemas. -/
def catalog : Catalog :=
  ⟨ModelNames.standardAttributes, .standard, .ofDocument (.map []), []⟩

/-- A schema whose description has quotes and ends in a backslash. -/
def schema : Value := .map [(.text "description", .text "ends \"\"\" here \\")]

/-- Its model. -/
def model : DataModel :=
  { className := "Note"
    schemaName := .text "Note"
    description := "ends \\\"\\\"\\\" here \\\\"
    fields := [⟨"value", "value", "typing.Any", true⟩]
    isWrapper := true }

theorem outcome_modelOf :
    (catalog.modelOf (.text "Note") schema "Note").outcome = .ok model := by
  cbv

end QuotingNote

/-- A description with quotes and a backslash at its end does not end early. -/
theorem quotingNote_means_description :
    (QuotingNote.catalog.modelOf (.text "Note") QuotingNote.schema "Note").outcome
        = .ok QuotingNote.model
      ∧ ∃ schema name text, QuotingNote.catalog.IsModelOf (.text "Note", QuotingNote.schema) schema
            QuotingNote.model
          ∧ (Scalar.text "Note").display = .ok name
          ∧ Catalog.descriptionText schema = .ok text
          ∧ Means QuotingNote.model.description
              (firstLine text ("Schema \x60\x60" ++ name ++ "\x60\x60.")) :=
  ⟨QuotingNote.outcome_modelOf,
    docstrings_mean_first_lines.2.2.2 _ _ _ _ _ QuotingNote.outcome_modelOf⟩

end DocText

end ApiCommands
