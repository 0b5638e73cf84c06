/-
The limits of the reader, and texts they play no part in.

# Readers and lengths

Every reader hands on no more of the text than it gets, and one that comes upon a
limit had a text longer than that limit in front of it: an integer of too many
digits has as many characters, and every list or mapping around a value takes one
(`Within`). For the three readers that call each other this is one induction on
their fuel; a bracket costs a character and one of the levels that are left, so
the bound is kept.

So no limit plays a part in reading a text that is no longer than the smaller
limit (`withinLimits_of_length_le`), nor in reading a blank one, which has no value
at all (`withinLimits_of_isBlank`).
-/
import ApiCommands.Document.Json.Reader
import ApiCommands.Proofs.Text.LetterCase
import ApiCommands.Text.Blank

namespace ApiCommands.Json

variable {depth length longer : Nat} {α : Type} {c : Cursor}

/-- The number a limit stands for, with so many levels left. -/
def Limit.bound (depth : Nat) : Limit → Nat
  | .digits => Numeral.maxDigits
  | .depth => depth

/-- What becomes of a text of a given length, with so many levels left: no more of it is handed on,
and no limit is named that it is not longer than. -/
def Within (depth length : Nat) : Except Failure (α × Cursor) → Prop
  | .ok (_, next) => next.rest.length ≤ length
  | .error (.beyond l) => l.bound depth < length
  | .error (.problem _ _) => True

namespace Within

variable {x : Except Failure (α × Cursor)}

theorem mono (h : Within depth length x) (hlonger : length ≤ longer) : Within depth longer x := by
  cases x with
  | ok answer => exact Nat.le_trans h hlonger
  | error e =>
      cases e with
      | problem p position => trivial
      | beyond l => exact Nat.lt_of_lt_of_le h hlonger

/-- One character more goes with one level more. -/
theorem deeper (h : Within depth length x) (hlonger : length < longer) :
    Within (depth + 1) longer x := by
  cases x with
  | ok answer => exact Nat.le_trans h (Nat.le_of_lt hlonger)
  | error e =>
      cases e with
      | problem p position => trivial
      | beyond l =>
          cases l with
          | digits => exact Nat.lt_trans h hlonger
          | depth => exact Nat.lt_of_le_of_lt (Nat.succ_le_of_lt h) hlonger

end Within

-- ====================================================== cursors

theorem length_advance_le (c : Cursor) (n : Nat) : (c.advance n).rest.length ≤ c.rest.length := by
  show (c.rest.drop n).length ≤ c.rest.length
  rw [List.length_drop]
  omega

theorem length_skipSpaces_le (c : Cursor) : c.skipSpaces.rest.length ≤ c.rest.length :=
  length_advance_le c _

theorem length_advance_one {first : Char} {rest : List Char} (h : c.rest = first :: rest) :
    (c.advance 1).rest.length < c.rest.length := by
  show (c.rest.drop 1).length < c.rest.length
  rw [h]
  exact Nat.lt_succ_self _

-- ====================================================== strings and numbers

/-- An escape comes upon no limit. -/
theorem unicodeEscape_ne_beyond (digits : List Char) (position : Nat) (l : Limit) :
    unicodeEscape digits position ≠ .error (.beyond l) := by
  unfold unicodeEscape
  split
  · simp
  · split
    · simp
    · split
      · split
        · split
          · simp
          · split <;> simp
        · simp
      · simp

/-- The characters of a string. -/
theorem stringBody_within (depth start : Nat) (read s : List Char) (position : Nat) :
    Within depth s.length (stringBody start read s position) := by
  fun_induction stringBody start read s position with
  | case1 => trivial
  | case2 => exact Nat.le_succ _
  | case3 read position rest e he =>
      cases e with
      | problem p place => trivial
      | beyond l => exact absurd he (unicodeEscape_ne_beyond _ _ l)
  | case4 read position rest e n he ih =>
      refine ih.mono ?_
      rw [List.length_drop, List.length_cons, List.length_cons]
      omega
  | case5 => trivial
  | case6 read position c rest hc e hsimple ih =>
      exact ih.mono (Nat.le_trans (Nat.le_succ _) (Nat.le_succ _))
  | case7 => trivial
  | case8 => trivial
  | case9 read position c rest h1 h2 h3 h4 hc ih => exact ih.mono (Nat.le_succ _)

/-- A string with its quotes. -/
theorem string_within (depth : Nat) (c : Cursor) : Within depth c.rest.length (string c) := by
  have hbody := (stringBody_within depth c.position [] (c.rest.drop 1) (c.position + 1)).mono
    (length_advance_le c 1)
  unfold string
  cases hread : stringBody c.position [] (c.rest.drop 1) (c.position + 1) with
  | error e =>
      rw [hread] at hbody
      cases e with
      | problem p position => trivial
      | beyond l => exact hbody
  | ok answer =>
      rw [hread] at hbody
      exact hbody

/-- The digits before a point are characters of the text. -/
theorem length_wholePart_le (s : List Char) : (wholePart s).length ≤ s.length := by
  unfold wholePart
  split
  · exact Nat.succ_le_succ (Nat.zero_le _)
  · exact (List.takeWhile_sublist _).length_le

/-- An integer of too many digits has as many characters. -/
theorem number_within (depth : Nat) (c : Cursor) : Within depth c.rest.length (number c) := by
  unfold number
  dsimp only
  -- with a sign in front of the digits, and without one
  split
  case' h_1 rest hrest =>
    have hwhole : (wholePart rest).length ≤ c.rest.length := by
      rw [hrest]
      exact Nat.le_trans (length_wholePart_le rest) (Nat.le_succ _)
  case' h_2 =>
    have hwhole := length_wholePart_le c.rest
  all_goals
    dsimp only
    split
    · trivial
    · split
      · exact length_advance_le c _
      · split
        · split
          · next hmany => exact Nat.lt_of_lt_of_le hmany hwhole
          · exact length_advance_le c _
        · exact length_advance_le c _

/-- A word hands on what stands behind it. -/
theorem length_word?_le {answer : Value × Cursor} (h : word? c = some answer) :
    answer.2.rest.length ≤ c.rest.length := by
  obtain ⟨entry, -, rfl⟩ := Option.map_eq_some_iff.mp h
  exact length_advance_le c _

-- ====================================================== values

/-- What the three readers of values do with so much fuel. -/
structure ReadersWithin (fuel : Nat) : Prop where
  value : ∀ depth c, Within depth c.rest.length (value fuel depth c)
  members : ∀ depth read c, Within depth c.rest.length (members fuel depth read c)
  items : ∀ depth read c, Within depth c.rest.length (items fuel depth read c)

/-- A value, with one more unit of fuel. -/
theorem ReadersWithin.value_succ {fuel : Nat} (h : ReadersWithin fuel) (depth : Nat) (c : Cursor) :
    Within depth c.rest.length (Json.value (fuel + 1) depth c) := by
  unfold Json.value
  split
  · have hstring := string_within depth c
    split
    · next e he =>
      rw [he] at hstring
      cases e with
      | problem p position => trivial
      | beyond l => exact hstring
    · next s next he =>
      rw [he] at hstring
      exact hstring
  · next rest hrest =>
    -- a mapping: the brace takes a character and a level
    have hfirst : (c.advance 1).skipSpaces.rest.length < c.rest.length :=
      Nat.lt_of_le_of_lt (length_skipSpaces_le _) (length_advance_one hrest)
    cases depth with
    | zero =>
        show 0 < c.rest.length
        omega
    | succ depth =>
        dsimp only
        split
        · exact Nat.le_trans (length_advance_le _ 1) (Nat.le_of_lt hfirst)
        · exact (h.members depth [] _).deeper hfirst
  · next rest hrest =>
    have hfirst : (c.advance 1).skipSpaces.rest.length < c.rest.length :=
      Nat.lt_of_le_of_lt (length_skipSpaces_le _) (length_advance_one hrest)
    cases depth with
    | zero =>
        show 0 < c.rest.length
        omega
    | succ depth =>
        dsimp only
        split
        · exact Nat.le_trans (length_advance_le _ 1) (Nat.le_of_lt hfirst)
        · exact (h.items depth [] _).deeper hfirst
  · split
    · next answer hword => exact length_word?_le hword
    · exact number_within depth c

/-- The members of a mapping, with one more unit of fuel. -/
theorem ReadersWithin.members_succ {fuel : Nat} (h : ReadersWithin fuel) (depth : Nat)
    (read : List (Scalar × Value)) (c : Cursor) :
    Within depth c.rest.length (Json.members (fuel + 1) depth read c) := by
  unfold Json.members
  split
  · have hname := string_within depth c
    split
    · next e he =>
      rw [he] at hname
      cases e with
      | problem p position => trivial
      | beyond l => exact hname
    · next name afterName he =>
      rw [he] at hname
      have hcolon : afterName.skipSpaces.rest.length ≤ c.rest.length :=
        Nat.le_trans (length_skipSpaces_le _) hname
      dsimp only
      split
      · have hstart : (afterName.skipSpaces.advance 1).skipSpaces.rest.length ≤ c.rest.length :=
          Nat.le_trans (length_skipSpaces_le _) (Nat.le_trans (length_advance_le _ 1) hcolon)
        have hvalue := (h.value depth (afterName.skipSpaces.advance 1).skipSpaces).mono hstart
        split
        · next e hread =>
          rw [hread] at hvalue
          cases e with
          | problem p position => trivial
          | beyond l => exact hvalue
        · next v afterValue hread =>
          rw [hread] at hvalue
          have hnext : afterValue.skipSpaces.rest.length ≤ c.rest.length :=
            Nat.le_trans (length_skipSpaces_le _) hvalue
          split
          · exact Nat.le_trans (length_advance_le _ 1) hnext
          · exact (h.members depth _ _).mono (Nat.le_trans (length_skipSpaces_le _)
              (Nat.le_trans (length_advance_le _ 1) hnext))
          · trivial
      · trivial
  · trivial

/-- The items of a list, with one more unit of fuel. -/
theorem ReadersWithin.items_succ {fuel : Nat} (h : ReadersWithin fuel) (depth : Nat)
    (read : List Value) (c : Cursor) :
    Within depth c.rest.length (Json.items (fuel + 1) depth read c) := by
  unfold Json.items
  have hvalue := h.value depth c
  split
  · next e hread =>
    rw [hread] at hvalue
    cases e with
    | problem p position => trivial
    | beyond l => exact hvalue
  · next v afterValue hread =>
    rw [hread] at hvalue
    have hnext : afterValue.skipSpaces.rest.length ≤ c.rest.length :=
      Nat.le_trans (length_skipSpaces_le _) hvalue
    dsimp only
    split
    · exact Nat.le_trans (length_advance_le _ 1) hnext
    · exact (h.items depth _ _).mono (Nat.le_trans (length_skipSpaces_le _)
        (Nat.le_trans (length_advance_le _ 1) hnext))
    · trivial

/-- Whatever the fuel, the readers hand on no more than they get, and a limit they come upon is
shorter than the text. -/
theorem readersWithin (fuel : Nat) : ReadersWithin fuel := by
  induction fuel with
  | zero => exact ⟨fun _ _ => trivial, fun _ _ _ => trivial, fun _ _ _ => trivial⟩
  | succ fuel ih => exact ⟨ih.value_succ, ih.members_succ, ih.items_succ⟩

-- ====================================================== whole texts

/-- No limit of the reader plays a part in reading the text. -/
def WithinLimits (s : String) : Prop := ∀ l, parse s ≠ .error (.beyond l)

/-- A failure of the reader that is a limit is one of the text as well. -/
theorem parse_eq_beyond_iff {s : String} {l : Limit} :
    parse s = .error (.beyond l) ↔ read s.toList = .error (.beyond l) := by
  unfold parse
  cases read s.toList with
  | ok v => simp
  | error e => cases e <;> simp

/-- A text that is not longer than the limit of levels is within all limits. -/
theorem withinLimits_of_length_le {s : String} (h : s.toList.length ≤ maxDepth) :
    WithinLimits s := by
  intro l hbeyond
  rw [parse_eq_beyond_iff] at hbeyond
  unfold read at hbeyond
  split at hbeyond
  · cases hbeyond
  · dsimp only at hbeyond
    have hvalue := ((readersWithin (2 * s.toList.length + 2)).value maxDepth
      (Cursor.mk s.toList 0).skipSpaces).mono (length_skipSpaces_le _)
    split at hbeyond
    · next e hread =>
      rw [hread] at hvalue
      obtain rfl := Except.error.inj hbeyond
      have hlong : l.bound maxDepth < s.toList.length := hvalue
      have hleast : maxDepth ≤ l.bound maxDepth := by
        cases l with
        | digits => decide
        | depth => exact Nat.le_refl _
      omega
    · split at hbeyond <;> cases hbeyond

-- ====================================================== blank texts

/-- No word is found in front of a blank. -/
theorem word?_of_isBlank (h : Text.isBlank c.rest = true) : word? c = none := by
  have hwords : ∀ entry ∈ words, Text.isBlank entry.1 = false := by decide
  unfold word?
  rw [Option.map_eq_none_iff, List.find?_eq_none]
  intro entry hentry hprefix
  have hsub := (List.isPrefixOf_iff_prefix.mp hprefix).subset
  have hblank : Text.isBlank entry.1 = true :=
    List.all_eq_true.mpr fun letter hletter => List.all_eq_true.mp h letter (hsub hletter)
  rw [hwords entry hentry] at hblank
  cases hblank

/-- No digit is found there either. -/
theorem wholePart_of_isBlank {s : List Char} (h : Text.isBlank s = true) : wholePart s = [] := by
  have hdigit : ∀ c : Char, c.isDigit = true → Text.isBlankChar c = false := by
    intro c hc
    have hnot := Text.forall_of_isDigit (p := fun c => !Text.isBlankChar c) (by decide) hc
    simpa using hnot
  unfold wholePart
  split
  · cases h
  · cases s with
    | nil => rfl
    | cons c rest =>
        have hc : Text.isBlankChar c = true := List.all_eq_true.mp h c List.mem_cons_self
        refine List.takeWhile_cons_of_neg fun hc' => ?_
        rw [hdigit c hc'] at hc
        cases hc

/-- So there is no value. -/
theorem value_of_isBlank (fuel depth : Nat) (h : Text.isBlank c.rest = true) :
    value (fuel + 1) depth c = .error (.problem .expectingValue c.position) := by
  have hnumber : number c = .error (.problem .expectingValue c.position) := by
    unfold number
    dsimp only
    split
    · next rest hrest =>
      rw [hrest] at h
      cases h
    · rw [wholePart_of_isBlank h]
      rfl
  unfold value
  split
  · next rest hrest =>
    rw [hrest] at h
    cases h
  · next rest hrest =>
    rw [hrest] at h
    cases h
  · next rest hrest =>
    rw [hrest] at h
    cases h
  · rw [word?_of_isBlank h]
    exact hnumber

/-- A blank text is within all limits: it is no JSON. -/
theorem withinLimits_of_isBlank {s : String} (h : Text.isBlank s.toList = true) :
    WithinLimits s := by
  intro l hbeyond
  have hstart : Text.isBlank (Cursor.mk s.toList 0).skipSpaces.rest = true :=
    List.all_eq_true.mpr fun c hc => List.all_eq_true.mp h c (List.mem_of_mem_drop hc)
  rw [parse_eq_beyond_iff] at hbeyond
  unfold read at hbeyond
  split at hbeyond
  · cases hbeyond
  · dsimp only at hbeyond
    rw [value_of_isBlank _ _ hstart] at hbeyond
    cases hbeyond

end ApiCommands.Json
