/-
Texts written as JSON and read back.

A list of texts that is written on one line is read as the list it was
(`parse_encodeTexts`). The reader counts the characters it has read; what it
gives does not depend on the count, so the statements here only say that it has
come to some position.

# Strings

A character is written as it is, as an escape of two characters, or by its code
point if it is another control character. Whichever it is, the reader takes what
was written for the character and no more (`stringBody_encodeChar`), and by
induction on the characters a whole string up to the quote that closes it
(`string_encodeString`).

# Lists

Behind an item stands a comma, a blank and the next item, or the closing bracket.
The induction in `items_texts` is on the items that are left; what has been read
before them is arbitrary. Every item costs the reader one unit of fuel, and
has two characters at least, so its fuel lasts.

# Other values

Any value is written, unless it holds an integer with too many digits
(`exists_encode_eq_ok_iff`).
-/
import ApiCommands.Document.Json.Reader
import ApiCommands.Document.Json.Writer
import ApiCommands.Proofs.Document.Display

namespace ApiCommands.Json

-- ====================================================== characters

/-- Four digits are read whatever stands behind them. -/
theorem hexFour?_append (n : Nat) (rest : List Char) :
    hexFour? (Text.hexadecimal 4 n ++ rest) = hexFour? (Text.hexadecimal 4 n) := by
  have hlen := Text.length_hexadecimal 4 n
  unfold hexFour?
  rw [List.take_left' hlen, List.take_of_length_le (Nat.le_of_eq hlen)]

/-- The escape of a control character stands for it, if the string goes on behind it. -/
theorem unicodeEscape_hexadecimal {n : Nat} (h : n < 32) (c : Char) (rest : List Char)
    (position : Nat) :
    unicodeEscape (Text.hexadecimal 4 n ++ c :: rest) position = .ok (Char.ofNat n, 4) := by
  have hdigits : ∀ m < 32, hexFour? (Text.hexadecimal 4 m) = some m := by decide
  have hunit : Text.unitChar n = Char.ofNat n := by
    have hhalf : Text.isHalfUnit n = false := by
      simp only [Text.isHalfUnit, Bool.and_eq_false_iff, decide_eq_false_iff_not]
      omega
    simp [Text.unitChar, hhalf]
  unfold unicodeEscape
  rw [hexFour?_append, hdigits n h, List.drop_left' (Text.length_hexadecimal 4 n), ← hunit]
  simp only [List.isEmpty_cons, Bool.false_eq_true, if_false]
  split
  · rw [if_neg (by omega)]
  · rfl

/-- The reader takes what is written for a character, and no more. -/
theorem stringBody_encodeChar (start : Nat) (read : List Char) (c d : Char) (rest : List Char)
    (position : Nat) :
    ∃ next, stringBody start read (encodeChar false c ++ d :: rest) position
      = stringBody start (c :: read) (d :: rest) next := by
  have hsimple : ∀ e : Char, e ≠ 'u' → simpleEscape? e = some c →
      ∃ next, stringBody start read ('\\' :: e :: d :: rest) position
        = stringBody start (c :: read) (d :: rest) next := by
    intro e hne he
    refine ⟨position + 2, ?_⟩
    rw [stringBody]
    · rw [he]
    · exact hne
  have hcode : ∀ n, c.toNat = n → c = Char.ofNat n := by
    intro n h
    rw [← h, Char.ofNat_toNat]
  unfold encodeChar
  split
  · next h => exact hsimple '"' (by decide) (by rw [h]; rfl)
  split
  · next h => exact hsimple '\\' (by decide) (by rw [h]; rfl)
  split
  · next h => exact hsimple 'n' (by decide) (by rw [h]; rfl)
  split
  · next h => exact hsimple 'r' (by decide) (by rw [h]; rfl)
  split
  · next h => exact hsimple 't' (by decide) (by rw [h]; rfl)
  split
  · next h => exact hsimple 'b' (by decide) (by rw [hcode 8 h]; rfl)
  split
  · next h => exact hsimple 'f' (by decide) (by rw [hcode 12 h]; rfl)
  split
  · -- any other control character
    next h =>
    refine ⟨position + 6, ?_⟩
    show stringBody start read
      ('\\' :: 'u' :: (Text.hexadecimal 4 c.toNat ++ d :: rest)) position = _
    rw [stringBody, unicodeEscape_hexadecimal h]
    dsimp only
    rw [List.drop_left' (Text.length_hexadecimal 4 c.toNat), Char.ofNat_toNat]
  · next hquote hslash _ _ _ _ _ hcontrol =>
    refine ⟨position + 1, ?_⟩
    show stringBody start read (c :: d :: rest) position = _
    rw [stringBody]
    · rw [if_neg hcontrol]
    · exact hquote
    · exact fun _ h => absurd h hslash
    · exact fun _ _ h => absurd h hslash
    · exact fun h => absurd h hslash

/-- The reader takes a string up to the quote that closes it. -/
theorem stringBody_flatMap (start : Nat) (read s rest : List Char) (position : Nat) :
    ∃ next, stringBody start read (s.flatMap (encodeChar false) ++ '"' :: rest) position
      = .ok (read.reverse ++ s, ⟨rest, next⟩) := by
  induction s generalizing read position with
  | nil =>
      refine ⟨position + 1, ?_⟩
      rw [List.flatMap_nil, List.nil_append, stringBody, List.append_nil]
  | cons c s ih =>
      -- what follows the character is not empty: the quote comes at the latest
      obtain ⟨d, more, hmore⟩ : ∃ d more,
          s.flatMap (encodeChar false) ++ '"' :: rest = d :: more :=
        List.exists_cons_of_ne_nil (by simp)
      obtain ⟨between, hchar⟩ := stringBody_encodeChar start read c d more position
      obtain ⟨next, hrest⟩ := ih (c :: read) between
      refine ⟨next, ?_⟩
      rw [List.flatMap_cons, List.append_assoc, hmore, hchar, ← hmore, hrest]
      simp

/-- The characters of a text as it is written. -/
def written (s : String) : List Char := (encodeString false s).toList

/-- They are the quote, the characters one after the other, and the quote. -/
theorem written_append (s : String) (rest : List Char) :
    written s ++ rest = '"' :: (s.toList.flatMap (encodeChar false) ++ '"' :: rest) := by
  simp [written, encodeString]

/-- A text that is written is read. -/
theorem value_written (fuel depth : Nat) (s : String) (rest : List Char) (position : Nat) :
    ∃ next, value (fuel + 1) depth ⟨written s ++ rest, position⟩ = .ok (.text s, ⟨rest, next⟩) := by
  obtain ⟨next, hbody⟩ := stringBody_flatMap position [] s.toList rest (position + 1)
  refine ⟨next, ?_⟩
  rw [written_append, value.eq_def]
  dsimp only
  unfold string
  dsimp only
  rw [List.drop_succ_cons, List.drop_zero, hbody]
  simp

-- ====================================================== items

/-- Blanks end where another character stands. -/
theorem skipSpaces_of_not_isSpace {c : Char} (h : isSpace c = false) (rest : List Char)
    (position : Nat) :
    Cursor.skipSpaces ⟨c :: rest, position⟩ = ⟨c :: rest, position⟩ := by
  simp [Cursor.skipSpaces, Cursor.advance, h]

/-- One blank is skipped. -/
theorem skipSpaces_blank {c : Char} (h : isSpace c = false) (rest : List Char) (position : Nat) :
    Cursor.skipSpaces ⟨' ' :: c :: rest, position⟩ = ⟨c :: rest, position + 1⟩ := by
  have hblank : isSpace ' ' = true := rfl
  simp [Cursor.skipSpaces, Cursor.advance, hblank, h]

/-- The items behind the first one, each with a comma and a blank in front. -/
def writtenMore (texts : List String) : List Char :=
  texts.flatMap fun s => ',' :: ' ' :: written s

/-- They have one character at least for each of them. -/
theorem length_le_length_writtenMore (texts : List String) :
    texts.length ≤ (writtenMore texts).length := by
  induction texts with
  | nil => exact Nat.le_refl _
  | cons t rest ih =>
      unfold writtenMore at ih ⊢
      simp only [List.flatMap_cons, List.length_cons, List.length_append]
      omega

/-- Items that are written are read, with those that were read before in front. -/
theorem items_texts (s : String) (more : List String) (rest : List Char) (read : List Value)
    (fuel depth position : Nat) (hfuel : more.length + 2 ≤ fuel) :
    ∃ next, items fuel depth read ⟨written s ++ (writtenMore more ++ ']' :: rest), position⟩
      = .ok (.list (read.reverse ++ (s :: more).map .text), ⟨rest, next⟩) := by
  induction more generalizing s read fuel position with
  | nil =>
      obtain ⟨fuel, rfl⟩ : ∃ n, fuel = n + 2 := ⟨fuel - 2, by simp at hfuel; omega⟩
      obtain ⟨next, hvalue⟩ := value_written fuel depth s (']' :: rest) position
      refine ⟨next + 1, ?_⟩
      show items (fuel + 2) depth read ⟨written s ++ ']' :: rest, position⟩ = _
      rw [items, hvalue]
      dsimp only
      rw [skipSpaces_of_not_isSpace rfl]
      simp [Cursor.advance]
  | cons t more ih =>
      obtain ⟨fuel, rfl⟩ : ∃ n, fuel = n + 2 := ⟨fuel - 2, by simp at hfuel; omega⟩
      obtain ⟨between, hvalue⟩ := value_written fuel depth s
        (writtenMore (t :: more) ++ ']' :: rest) position
      obtain ⟨next, hitems⟩ := ih t (.text s :: read) (fuel + 1) (between + 2)
        (by simp at hfuel; omega)
      refine ⟨next, ?_⟩
      have hmore : writtenMore (t :: more) ++ ']' :: rest
          = ',' :: ' ' :: (written t ++ (writtenMore more ++ ']' :: rest)) := by
        simp [writtenMore]
      rw [items, hvalue, hmore]
      dsimp only
      rw [skipSpaces_of_not_isSpace rfl]
      dsimp only
      rw [show Cursor.advance
          ⟨',' :: ' ' :: (written t ++ (writtenMore more ++ ']' :: rest)), between⟩ 1
          = ⟨' ' :: (written t ++ (writtenMore more ++ ']' :: rest)), between + 1⟩ from rfl,
        written_append, skipSpaces_blank rfl, ← written_append, hitems]
      simp

/-- A list of texts that is written is read. -/
theorem value_texts (s : String) (more : List String) (rest : List Char)
    (fuel depth position : Nat) (hfuel : more.length + 2 ≤ fuel) :
    ∃ next, value (fuel + 1) (depth + 1)
        ⟨'[' :: (written s ++ (writtenMore more ++ ']' :: rest)), position⟩
      = .ok (.texts (s :: more), ⟨rest, next⟩) := by
  obtain ⟨next, hitems⟩ := items_texts s more rest [] fuel depth (position + 1) hfuel
  refine ⟨next, ?_⟩
  rw [written_append] at hitems
  rw [value.eq_def]
  dsimp only
  rw [show Cursor.advance ⟨'[' :: (written s ++ (writtenMore more ++ ']' :: rest)), position⟩ 1
      = ⟨written s ++ (writtenMore more ++ ']' :: rest), position + 1⟩ from rfl,
    written_append, skipSpaces_of_not_isSpace rfl]
  dsimp only
  rw [hitems]
  rfl

-- ====================================================== whole texts

/-- A list of texts on one line. -/
def encodeTexts (texts : List String) : String :=
  enclose .line 0 "[" "]" (texts.map (encodeString false))

/-- Every list of texts is written. -/
theorem encode_texts (texts : List String) :
    encode .line (.texts texts) = .ok (encodeTexts texts) := by
  have hitems : encodeItems .line 1 (texts.map .text) = .ok (texts.map (encodeString false)) := by
    induction texts with
    | nil => rfl
    | cons t rest ih =>
        rw [List.map_cons, encodeItems, ih]
        rfl
  show (encodeItems .line 1 (texts.map .text) >>= fun items => .ok (enclose .line 0 "[" "]" items))
    = _
  rw [hitems]
  rfl

/-- A list of texts as it is written, its first item apart. -/
theorem toList_encodeTexts (s : String) (more : List String) :
    (encodeTexts (s :: more)).toList
      = '[' :: (written s ++ (writtenMore more ++ [']'])) := by
  have hjoin : ∀ (t : String) (rest : List String),
      (Text.joined ", " ((t :: rest).map (encodeString false))).toList
        = written t ++ writtenMore rest := by
    intro t rest
    induction rest generalizing t with
    | nil => simp [Text.joined, writtenMore, written]
    | cons u rest ih =>
        have hrest := ih u
        unfold Text.joined at hrest ⊢
        rw [String.toList_intercalate] at hrest ⊢
        rw [List.map_cons, List.map_cons] at hrest
        rw [List.map_cons, List.map_cons, List.map_cons, List.map_cons,
          List.intercalate_cons_cons, hrest]
        simp [writtenMore, written]
  show ("[" ++ Text.joined ", " ((s :: more).map (encodeString false)) ++ "]").toList = _
  rw [String.toList_append, String.toList_append, hjoin]
  simp

/-- A list of texts that is written on one line is read as this list. -/
theorem parse_encodeTexts {texts : List String} (h : texts ≠ []) :
    parse (encodeTexts texts) = .ok (.texts texts) := by
  obtain ⟨s, more, rfl⟩ := List.exists_cons_of_ne_nil h
  have htext := toList_encodeTexts s more
  have hmore := length_le_length_writtenMore more
  have hfuel : more.length + 2 ≤ 2 * (encodeTexts (s :: more)).toList.length + 1 := by
    rw [htext]
    simp only [List.length_cons, List.length_append]
    omega
  obtain ⟨next, hvalue⟩ := value_texts s more [] _ 984 0 hfuel
  have hread : read (encodeTexts (s :: more)).toList = .ok (.texts (s :: more)) := by
    rw [← htext] at hvalue
    unfold read
    rw [if_neg (by rw [htext, List.head?_cons]; decide)]
    have hstart : Cursor.skipSpaces ⟨(encodeTexts (s :: more)).toList, 0⟩
        = ⟨(encodeTexts (s :: more)).toList, 0⟩ := by
      rw [htext]
      exact skipSpaces_of_not_isSpace rfl _ 0
    dsimp only
    rw [hstart, show maxDepth = 984 + 1 from rfl, hvalue]
    rfl
  unfold parse
  rw [hread]

-- ====================================================== all values

theorem exists_encodeScalar_eq_ok_iff (ascii : Bool) (s : Scalar) :
    (∃ text, encodeScalar ascii s = .ok text)
      ↔ ∀ n ∈ s.integers, n.natAbs < 10 ^ Numeral.maxDigits := by
  cases s with
  | int n => exact Scalar.exists_literal_eq_ok_iff (s := .int n)
  | _ => exact iff_of_true ⟨_, rfl⟩ (List.forall_mem_nil _)

theorem exists_keyText_eq_ok_iff (s : Scalar) :
    (∃ text, keyText s = .ok text)
      ↔ ∀ n ∈ s.integers, n.natAbs < 10 ^ Numeral.maxDigits := by
  cases s with
  | int n => exact Scalar.exists_literal_eq_ok_iff (s := .int n)
  | _ => exact iff_of_true ⟨_, rfl⟩ (List.forall_mem_nil _)

section

variable (style : Style)

mutual

/-- A value is written at every level unless an integer in it has too many digits. -/
theorem exists_encodeAt_eq_ok_iff (level : Nat) (v : Value) :
    (∃ text, encodeAt style level v = .ok text) ↔ v.IntegersShort := by
  cases v with
  | scalar s =>
      rw [encodeAt]
      exact exists_encodeScalar_eq_ok_iff style.ascii s
  | list items =>
      rw [encodeAt, Value.IntegersShort, Value.integers,
        ← exists_encodeItems_eq_ok_iff (level + 1) items]
      simp only [Except.bind_eq_ok_iff]
      exact ⟨fun ⟨_, parts, h, _⟩ => ⟨parts, h⟩, fun ⟨parts, h⟩ => ⟨_, parts, h, rfl⟩⟩
  | map entries =>
      rw [encodeAt, Value.IntegersShort, Value.integers,
        ← exists_encodeEntries_eq_ok_iff (level + 1) entries]
      simp only [Except.bind_eq_ok_iff]
      exact ⟨fun ⟨_, parts, h, _⟩ => ⟨parts, h⟩, fun ⟨parts, h⟩ => ⟨_, parts, h, rfl⟩⟩

theorem exists_encodeItems_eq_ok_iff (level : Nat) (items : List Value) :
    (∃ parts, encodeItems style level items = .ok parts)
      ↔ ∀ n ∈ Value.integersOfAll items, n.natAbs < 10 ^ Numeral.maxDigits := by
  cases items with
  | nil =>
      rw [encodeItems, Value.integersOfAll]
      exact iff_of_true ⟨[], rfl⟩ (List.forall_mem_nil _)
  | cons v rest =>
      rw [encodeItems, Value.integersOfAll, List.forall_mem_append,
        ← exists_encodeItems_eq_ok_iff level rest]
      simp only [Except.bind_eq_ok_iff]
      have hv := exists_encodeAt_eq_ok_iff level v
      exact ⟨fun ⟨_, text, htext, more, hrest, _⟩ => ⟨hv.mp ⟨text, htext⟩, more, hrest⟩,
        fun ⟨h, more, hrest⟩ =>
          let ⟨text, htext⟩ := hv.mpr h
          ⟨_, text, htext, more, hrest, rfl⟩⟩

theorem exists_encodeEntries_eq_ok_iff (level : Nat) (entries : Entries) :
    (∃ parts, encodeEntries style level entries = .ok parts)
      ↔ ∀ n ∈ Value.integersOfEntries entries, n.natAbs < 10 ^ Numeral.maxDigits := by
  cases entries with
  | nil =>
      rw [encodeEntries, Value.integersOfEntries]
      exact iff_of_true ⟨[], rfl⟩ (List.forall_mem_nil _)
  | cons entry rest =>
      obtain ⟨k, v⟩ := entry
      rw [encodeEntries, Value.integersOfEntries, List.forall_mem_append, List.forall_mem_append,
        ← exists_keyText_eq_ok_iff, ← exists_encodeEntries_eq_ok_iff level rest]
      simp only [Except.bind_eq_ok_iff]
      have hv := exists_encodeAt_eq_ok_iff level v
      exact ⟨fun ⟨_, key, hk, text, htext, more, hrest, _⟩ =>
          ⟨⟨⟨key, hk⟩, hv.mp ⟨text, htext⟩⟩, more, hrest⟩,
        fun ⟨⟨⟨key, hk⟩, h⟩, more, hrest⟩ =>
          let ⟨text, htext⟩ := hv.mpr h
          ⟨_, key, hk, text, htext, more, hrest, rfl⟩⟩

end

/-- A value is written as JSON unless an integer in it has too many digits. -/
theorem exists_encode_eq_ok_iff {v : Value} :
    (∃ text, encode style v = .ok text) ↔ v.IntegersShort :=
  exists_encodeAt_eq_ok_iff style 0 v

end

end ApiCommands.Json
