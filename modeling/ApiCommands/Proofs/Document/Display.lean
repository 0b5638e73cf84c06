/-
What is shown of a value.

# What is shown

A value is shown unless an integer in it has too many digits
(`Value.exists_display_eq_ok_iff`), which is all that can go wrong
(`Value.eq_badNumeral_of_display`).

# Bytes

Only text is shown as it is; a text inside of a list or a mapping is quoted, and
everything else is shown in ASCII. So what is shown of a value has bytes unless
the value is a text without (`Value.whole_of_display`). The lemmas go with the
definitions: one for each kind of scalar, and for lists and mappings an induction
over their parts (`Value.whole_of_literal`).

# More than points

Of any value but a text something is shown, and that is no row of points
(`Value.exists_ne_point_of_display`): a digit, a dash, a letter or a bracket is
there.
-/
import ApiCommands.Document.Display
import ApiCommands.Proofs.Number.Shortest
import ApiCommands.Proofs.Outcome.Result
import ApiCommands.Proofs.Text.Half
import Mathlib.Algebra.Group.Nat.Defs

namespace ApiCommands

open Text (Whole whole_append whole_braced whole_joined whole_of_isAscii)

-- ====================================================== integers, dates and bytes

theorem integerLiteral_eq_ok_iff {n : Int} {t : String} : integerLiteral n = .ok t
    ↔ n.natAbs < 10 ^ Numeral.maxDigits ∧ t = toString n := by
  have hlength : (toString n.natAbs).length ≤ Numeral.maxDigits
      ↔ n.natAbs < 10 ^ Numeral.maxDigits := by
    rw [← String.length_toList, Nat.toString_eq_ofList_toDigits, String.toList_ofList]
    exact Nat.length_toDigits_le_iff (by decide) (by decide)
  unfold integerLiteral
  split
  · next hlong =>
    refine iff_of_false (fun h => by cases h) fun h => ?_
    exact absurd (hlength.mpr h.1) (Nat.not_le.mpr hlong)
  · next hshort =>
    rw [Except.ok.injEq, ← hlength, eq_comm]
    exact (and_iff_right (Nat.not_lt.mp hshort)).symm

theorem eq_badNumeral_of_integerLiteral {n : Int} {f : Fault} (h : integerLiteral n = .error f) :
    f = .badNumeral := by
  unfold integerLiteral at h
  split at h
  · exact (Except.error.inj h).symm
  · cases h

/-- Of an integer a sign or a digit is shown. -/
theorem exists_ne_point_mem_toString (n : Int) : ∃ c ∈ (toString n).toList, c ≠ '.' := by
  cases n with
  | ofNat n =>
      show ∃ c ∈ (toString n).toList, c ≠ '.'
      obtain ⟨c, hc⟩ := List.exists_mem_of_ne_nil _ (Nat.toDigits_ne_nil (n := n) (b := 10))
      have hdigit := Nat.isDigit_of_mem_toDigits (by decide) (by decide) hc
      rw [Nat.toString_eq_ofList_toDigits, String.toList_ofList]
      exact ⟨c, hc, fun hpoint => absurd (hpoint ▸ hdigit) (by decide)⟩
  | negSucc n =>
      refine ⟨'-', ?_, by decide⟩
      show '-' ∈ ("-" ++ toString (n + 1)).toList
      rw [String.toList_append]
      exact List.mem_append_left _ (by decide)

theorem Calendar.DateTime.mem_text_of_mem {separator : String} {c : Char} (h : c ∈ separator.toList)
    (t : DateTime) : c ∈ (t.text separator).toList := by
  unfold text
  simp only [String.toList_append, List.mem_append, h, or_true, true_or]

/-- What is written for a byte inside of printable quotes is printable. -/
theorem isPrintable_of_mem_byteLiteral {quote c : Char} {b : UInt8}
    (hquote : Text.isPrintable quote = true) (h : c ∈ byteLiteral quote b) :
    Text.isPrintable c = true := by
  unfold byteLiteral at h
  dsimp only at h
  split at h
  · next hb =>
    refine Text.isPrintable_of_mem_pair ?_ h
    rcases hb with hb | hb
    · rw [hb]
      exact hquote
    · rw [hb]
      decide
  · split at h
    · exact Text.isPrintable_of_mem_pair (by decide) h
    · split at h
      · exact Text.isPrintable_of_mem_pair (by decide) h
      · split at h
        · exact Text.isPrintable_of_mem_pair (by decide) h
        · split at h
          · next hvisible =>
            have hall : ∀ n < 127, 32 ≤ n → Text.isPrintable (Char.ofNat n) = true := by
              decide
            rw [List.mem_singleton.mp h]
            exact hall _ hvisible.2 hvisible.1
          · rcases List.mem_cons.mp h with rfl | h
            · decide
            · rcases List.mem_cons.mp h with rfl | hdigit
              · decide
              · exact Text.isPrintable_of_mem_hexadecimal hdigit

-- ====================================================== the integers of a value

/-- The integer that a scalar is, if it is one. -/
def Scalar.integers : Scalar → List Int
  | int n => [n]
  | _ => []

namespace Value

mutual

/-- The integers in a value, however deep. -/
def integers : Value → List Int
  | scalar s => s.integers
  | list items => integersOfAll items
  | map entries => integersOfEntries entries

def integersOfAll : List Value → List Int
  | [] => []
  | v :: rest => v.integers ++ integersOfAll rest

def integersOfEntries : List (Scalar × Value) → List Int
  | [] => []
  | (k, v) :: rest => k.integers ++ v.integers ++ integersOfEntries rest

end

/-- No integer in the value has too many digits. -/
def IntegersShort (v : Value) : Prop := ∀ n ∈ v.integers, n.natAbs < 10 ^ Numeral.maxDigits

theorem integersShort_of_digits {v : Value} (h : ∀ n ∈ v.integers, n.natAbs < 10) :
    v.IntegersShort := fun n hn =>
  Nat.lt_of_lt_of_le (h n hn) (Nat.le_self_pow (by decide) 10)

end Value

variable [Text.Halves]

-- ====================================================== dates

namespace Calendar

@[simp]
theorem whole_padded (width n : Nat) : Whole (padded width n) := by
  rw [Text.whole_iff, padded, String.toList_ofList, List.forall_mem_append]
  have hzero : Text.half? '0' = none := Text.half?_eq_none_of_lt (by decide)
  exact ⟨fun c hc => List.eq_of_mem_replicate hc ▸ hzero,
    fun c hc => Text.half?_eq_none_of_isDigit
      (Nat.isDigit_of_mem_toDigits (by decide) (by decide) hc)⟩

theorem Date.whole_iso (d : Date) : Whole d.iso := by
  have hdash : Whole "-" := whole_of_isAscii (by decide)
  unfold iso
  simp only [whole_append, whole_padded, hdash, and_self]

namespace DateTime

theorem whole_offsetText (minutes : Int) : Whole (offsetText minutes) := by
  have hsign : Whole (if minutes < 0 then "-" else "+") := by
    split <;> exact whole_of_isAscii (by decide)
  have hcolon : Whole ":" := whole_of_isAscii (by decide)
  unfold offsetText
  simp only [whole_append, whole_padded, hsign, hcolon, and_self]

theorem whole_text {separator : String} (h : Whole separator) (t : DateTime) :
    Whole (t.text separator) := by
  have hcolon : Whole ":" := whole_of_isAscii (by decide)
  have hpoint : Whole "." := whole_of_isAscii (by decide)
  have hfraction : Whole (if t.microsecond = 0 then "" else "." ++ padded 6 t.microsecond) := by
    split
    · exact whole_of_isAscii (by decide)
    · exact whole_append.mpr ⟨hpoint, whole_padded _ _⟩
  have hoffset : Whole ((t.offset?.map offsetText).getD "") := by
    cases t.offset? with
    | none => exact whole_of_isAscii (by decide)
    | some minutes => exact whole_offsetText minutes
  unfold text
  simp only [whole_append, whole_padded, Date.whole_iso, h, hcolon, hfraction, hoffset, and_self]

end DateTime

end Calendar

-- ====================================================== literals of scalars

theorem whole_numbersLiteral {name : String} {parts : List String} (hname : Whole name)
    (hparts : ∀ part ∈ parts, Whole part) : Whole (numbersLiteral name parts) := by
  have hopen : Whole "(" := whole_of_isAscii (by decide)
  have hclose : Whole ")" := whole_of_isAscii (by decide)
  have hjoined : Whole (Text.joined ", " parts) := whole_joined (whole_of_isAscii (by decide)) hparts
  unfold numbersLiteral
  simp only [whole_append, hname, hopen, hjoined, hclose, and_self]

theorem whole_dateLiteral (d : Calendar.Date) : Whole (dateLiteral d) := by
  refine whole_numbersLiteral (whole_of_isAscii (by decide)) fun part hpart => ?_
  obtain ⟨n, -, rfl⟩ := List.mem_map.mp hpart
  exact Text.whole_toString n

theorem whole_offsetLiteral (minutes : Int) : Whole (offsetLiteral minutes) := by
  unfold offsetLiteral
  dsimp only
  split
  · exact whole_of_isAscii (by decide)
  · refine whole_numbersLiteral (whole_of_isAscii (by decide)) fun part hpart => ?_
    rw [List.mem_singleton.mp hpart]
    refine whole_numbersLiteral (whole_of_isAscii (by decide)) fun part hpart => ?_
    rcases List.mem_append.mp hpart with hdays | hseconds
    · split at hdays
      · rw [List.mem_singleton.mp hdays]
        exact whole_of_isAscii (by decide)
      · cases hdays
    · have hname : Whole "seconds=" := whole_of_isAscii (by decide)
      rw [List.mem_singleton.mp hseconds]
      exact whole_append.mpr ⟨hname, Text.whole_toString_int _⟩

theorem whole_dateTimeLiteral (t : Calendar.DateTime) : Whole (dateTimeLiteral t) := by
  unfold dateTimeLiteral
  dsimp only
  refine whole_numbersLiteral (whole_of_isAscii (by decide)) fun part hpart => ?_
  rcases List.mem_append.mp hpart with hnumber | hoffset
  · obtain ⟨n, -, rfl⟩ := List.mem_map.mp hnumber
    exact Text.whole_toString n
  · obtain ⟨minutes, -, rfl⟩ := Option.map_eq_some_iff.mp (Option.mem_toList.mp hoffset)
    have hname : Whole "tzinfo=" := whole_of_isAscii (by decide)
    exact whole_append.mpr ⟨hname, whole_offsetLiteral minutes⟩

theorem whole_bytesLiteral (bs : List UInt8) : Whole (bytesLiteral bs) := by
  have hquote := Text.Quoted.isPrintable_quoteFor (bs.map fun b => Char.ofNat b.toNat)
  refine Text.whole_iff.mpr fun c hc => Text.half?_eq_none_of_isPrintable ?_
  rw [bytesLiteral, String.toList_ofList, List.mem_append, List.mem_cons, List.mem_cons,
    List.mem_singleton, List.mem_flatMap] at hc
  rcases hc with (rfl | rfl | ⟨b, -, hb⟩) | rfl
  · decide
  · exact hquote
  · exact isPrintable_of_mem_byteLiteral hquote hb
  · exact hquote

namespace Scalar

variable {s : Scalar} {shown : String} {f : Fault}

/-- A scalar has a literal unless it is an integer with too many digits. -/
theorem exists_literal_eq_ok_iff :
    (∃ shown, s.literal = .ok shown)
      ↔ ∀ n ∈ s.integers, n.natAbs < 10 ^ Numeral.maxDigits := by
  cases s with
  | int n =>
      rw [integers, List.forall_mem_singleton, literal]
      simp only [integerLiteral_eq_ok_iff, exists_and_left, exists_eq, and_true]
  | bool b => cases b <;> exact iff_of_true ⟨_, rfl⟩ (List.forall_mem_nil _)
  | null => exact iff_of_true ⟨_, rfl⟩ (List.forall_mem_nil _)
  | float x => exact iff_of_true ⟨_, rfl⟩ (List.forall_mem_nil _)
  | text t => exact iff_of_true ⟨_, rfl⟩ (List.forall_mem_nil _)
  | bytes bs => exact iff_of_true ⟨_, rfl⟩ (List.forall_mem_nil _)
  | date d => exact iff_of_true ⟨_, rfl⟩ (List.forall_mem_nil _)
  | dateTime t => exact iff_of_true ⟨_, rfl⟩ (List.forall_mem_nil _)

theorem eq_badNumeral_of_literal (h : s.literal = .error f) : f = .badNumeral := by
  cases s with
  | int n => exact eq_badNumeral_of_integerLiteral h
  | bool b => cases b <;> cases h
  | null => cases h
  | float x => cases h
  | text t => cases h
  | bytes bs => cases h
  | date d => cases h
  | dateTime t => cases h

/-- What is shown of a scalar is its literal, but for texts and dates. -/
theorem display_cases (s : Scalar) :
    (∃ t, s = text t ∧ s.display = .ok t) ∨ (∃ d, s = date d ∧ s.display = .ok d.iso)
      ∨ (∃ t, s = dateTime t ∧ s.display = .ok (t.text " ")) ∨ s.display = s.literal := by
  cases s with
  | text t => exact .inl ⟨t, rfl, rfl⟩
  | date d => exact .inr (.inl ⟨d, rfl, rfl⟩)
  | dateTime t => exact .inr (.inr (.inl ⟨t, rfl, rfl⟩))
  | null => exact .inr (.inr (.inr rfl))
  | bool b => exact .inr (.inr (.inr rfl))
  | int n => exact .inr (.inr (.inr rfl))
  | float x => exact .inr (.inr (.inr rfl))
  | bytes bs => exact .inr (.inr (.inr rfl))

theorem exists_display_eq_ok_iff :
    (∃ shown, s.display = .ok shown) ↔ ∃ shown, s.literal = .ok shown := by
  rcases display_cases s with ⟨t, rfl, h⟩ | ⟨d, rfl, h⟩ | ⟨t, rfl, h⟩ | h
  · exact iff_of_true ⟨_, h⟩ ⟨_, rfl⟩
  · exact iff_of_true ⟨_, h⟩ ⟨_, rfl⟩
  · exact iff_of_true ⟨_, h⟩ ⟨_, rfl⟩
  · rw [h]

theorem eq_badNumeral_of_display (h : s.display = .error f) : f = .badNumeral := by
  rcases display_cases s with ⟨t, -, hshown⟩ | ⟨d, -, hshown⟩ | ⟨t, -, hshown⟩ | hshown
  · rw [hshown] at h
    cases h
  · rw [hshown] at h
    cases h
  · rw [hshown] at h
    cases h
  · rw [hshown] at h
    exact eq_badNumeral_of_literal h

theorem whole_of_literal (h : s.literal = .ok shown) : Whole shown := by
  unfold literal at h
  split at h
  · cases h
    exact whole_of_isAscii (by decide)
  · cases h
    exact whole_of_isAscii (by decide)
  · cases h
    exact whole_of_isAscii (by decide)
  · obtain ⟨-, rfl⟩ := integerLiteral_eq_ok_iff.mp h
    exact Text.whole_toString_int _
  · rw [← Except.ok.inj h]
    exact whole_of_isAscii (Binary64.isAscii_text _)
  · rw [← Except.ok.inj h]
    exact Text.whole_quoted _
  · rw [← Except.ok.inj h]
    exact whole_bytesLiteral _
  · rw [← Except.ok.inj h]
    exact whole_dateLiteral _
  · rw [← Except.ok.inj h]
    exact whole_dateTimeLiteral _

theorem whole_of_display (htext : ∀ t, s = text t → Whole t) (h : s.display = .ok shown) :
    Whole shown := by
  rcases display_cases s with ⟨t, hs, hshown⟩ | ⟨d, -, hshown⟩ | ⟨t, -, hshown⟩ | hshown
  · rw [hshown] at h
    exact Except.ok.inj h ▸ htext t hs
  · rw [hshown] at h
    exact Except.ok.inj h ▸ d.whole_iso
  · rw [hshown] at h
    exact Except.ok.inj h ▸ Calendar.DateTime.whole_text (whole_of_isAscii (by decide)) t
  · rw [hshown] at h
    exact whole_of_literal h

/-- What is shown of a scalar that is no text is more than points. -/
theorem exists_ne_point_of_display (htext : ∀ t, s ≠ text t) (h : s.display = .ok shown) :
    ∃ c ∈ shown.toList, c ≠ '.' := by
  cases s with
  | null =>
      cases h
      exact ⟨'N', by decide, by decide⟩
  | bool b =>
      cases b <;> cases h <;> exact ⟨'e', by decide, by decide⟩
  | int n =>
      obtain ⟨-, rfl⟩ := integerLiteral_eq_ok_iff.mp h
      exact exists_ne_point_mem_toString n
  | float x => exact Except.ok.inj h ▸ x.exists_ne_point_mem_text
  | text t => exact absurd rfl (htext t)
  | bytes bs =>
      rw [← Except.ok.inj h]
      exact ⟨'b', by simp [bytesLiteral], by decide⟩
  | date d =>
      rw [← Except.ok.inj h]
      exact ⟨'-', by simp [Calendar.Date.iso], by decide⟩
  | dateTime t =>
      rw [← Except.ok.inj h]
      exact ⟨' ', Calendar.DateTime.mem_text_of_mem (by decide) t, by decide⟩

end Scalar

-- ====================================================== lists and mappings

namespace Value

variable {v : Value} {shown : String} {f : Fault}

mutual

/-- A value has a literal unless an integer in it has too many digits. -/
theorem exists_literal_eq_ok_iff (v : Value) :
    (∃ shown, v.literal = .ok shown)
      ↔ ∀ n ∈ v.integers, n.natAbs < 10 ^ Numeral.maxDigits := by
  cases v with
  | scalar s => exact Scalar.exists_literal_eq_ok_iff
  | list items =>
      rw [literal, integers, ← exists_literals_eq_ok_iff items]
      simp only [Except.bind_eq_ok_iff]
      exact ⟨fun ⟨_, shown, h, _⟩ => ⟨shown, h⟩, fun ⟨shown, h⟩ => ⟨_, shown, h, rfl⟩⟩
  | map entries =>
      rw [literal, integers, ← exists_entryLiterals_eq_ok_iff entries]
      simp only [Except.bind_eq_ok_iff]
      exact ⟨fun ⟨_, shown, h, _⟩ => ⟨shown, h⟩, fun ⟨shown, h⟩ => ⟨_, shown, h, rfl⟩⟩

theorem exists_literals_eq_ok_iff (items : List Value) :
    (∃ shown, literals items = .ok shown)
      ↔ ∀ n ∈ integersOfAll items, n.natAbs < 10 ^ Numeral.maxDigits := by
  cases items with
  | nil => exact iff_of_true ⟨[], rfl⟩ (List.forall_mem_nil _)
  | cons v rest =>
      rw [literals, integersOfAll, List.forall_mem_append, ← exists_literal_eq_ok_iff v,
        ← exists_literals_eq_ok_iff rest]
      simp only [Except.bind_eq_ok_iff]
      exact ⟨fun ⟨_, shown, hv, more, hrest, _⟩ => ⟨⟨shown, hv⟩, more, hrest⟩,
        fun ⟨⟨shown, hv⟩, more, hrest⟩ => ⟨_, shown, hv, more, hrest, rfl⟩⟩

theorem exists_entryLiterals_eq_ok_iff (entries : Entries) :
    (∃ shown, entryLiterals entries = .ok shown)
      ↔ ∀ n ∈ integersOfEntries entries, n.natAbs < 10 ^ Numeral.maxDigits := by
  cases entries with
  | nil => exact iff_of_true ⟨[], rfl⟩ (List.forall_mem_nil _)
  | cons entry rest =>
      obtain ⟨k, v⟩ := entry
      rw [entryLiterals, integersOfEntries, List.forall_mem_append, List.forall_mem_append,
        ← Scalar.exists_literal_eq_ok_iff, ← exists_literal_eq_ok_iff v,
        ← exists_entryLiterals_eq_ok_iff rest]
      simp only [Except.bind_eq_ok_iff]
      exact ⟨fun ⟨_, key, hk, shown, hv, more, hrest, _⟩ => ⟨⟨⟨key, hk⟩, shown, hv⟩, more, hrest⟩,
        fun ⟨⟨⟨key, hk⟩, shown, hv⟩, more, hrest⟩ =>
          ⟨_, key, hk, shown, hv, more, hrest, rfl⟩⟩

end

/-- A value is shown unless an integer in it has too many digits. -/
theorem exists_display_eq_ok_iff : (∃ shown, v.display = .ok shown) ↔ v.IntegersShort := by
  refine Iff.trans ?_ (exists_literal_eq_ok_iff v)
  cases v with
  | scalar s => exact Scalar.exists_display_eq_ok_iff
  | list items => rfl
  | map entries => rfl

mutual

/-- All that can go wrong with a literal is an integer with too many digits. -/
theorem eq_badNumeral_of_literal {v : Value} (h : v.literal = .error f) : f = .badNumeral := by
  cases v with
  | scalar s => exact Scalar.eq_badNumeral_of_literal h
  | list items =>
      rw [literal] at h
      rcases Except.bind_eq_error h with hitems | ⟨_, hpure⟩
      · exact eq_badNumeral_of_literals hitems
      · cases hpure
  | map entries =>
      rw [literal] at h
      rcases Except.bind_eq_error h with hentries | ⟨_, hpure⟩
      · exact eq_badNumeral_of_entryLiterals hentries
      · cases hpure

theorem eq_badNumeral_of_literals {items : List Value} (h : literals items = .error f) :
    f = .badNumeral := by
  cases items with
  | nil => cases h
  | cons v rest =>
      rw [literals] at h
      rcases Except.bind_eq_error h with hv | ⟨_, h⟩
      · exact eq_badNumeral_of_literal hv
      · rcases Except.bind_eq_error h with hrest | ⟨_, hpure⟩
        · exact eq_badNumeral_of_literals hrest
        · cases hpure

theorem eq_badNumeral_of_entryLiterals {entries : Entries}
    (h : entryLiterals entries = .error f) : f = .badNumeral := by
  cases entries with
  | nil => cases h
  | cons entry rest =>
      obtain ⟨k, v⟩ := entry
      rw [entryLiterals] at h
      rcases Except.bind_eq_error h with hk | ⟨_, h⟩
      · exact Scalar.eq_badNumeral_of_literal hk
      · rcases Except.bind_eq_error h with hv | ⟨_, h⟩
        · exact eq_badNumeral_of_literal hv
        · rcases Except.bind_eq_error h with hrest | ⟨_, hpure⟩
          · exact eq_badNumeral_of_entryLiterals hrest
          · cases hpure

end

theorem eq_badNumeral_of_display (h : v.display = .error f) : f = .badNumeral := by
  cases v with
  | scalar s => exact Scalar.eq_badNumeral_of_display h
  | list items => exact eq_badNumeral_of_literal h
  | map entries => exact eq_badNumeral_of_literal h

mutual

/-- A literal has bytes, however deep its parts are. -/
theorem whole_of_literal {v : Value} {shown : String} (h : v.literal = .ok shown) :
    Whole shown := by
  cases v with
  | scalar s => exact Scalar.whole_of_literal h
  | list items =>
      rw [literal, Except.bind_eq_ok_iff] at h
      obtain ⟨parts, hparts, hshown⟩ := h
      have hopen : Whole "[" := whole_of_isAscii (by decide)
      have hclose : Whole "]" := whole_of_isAscii (by decide)
      have hitems : Whole (Text.joined ", " parts) :=
        whole_joined (whole_of_isAscii (by decide)) (whole_of_literals hparts)
      rw [← Except.ok.inj hshown]
      simp only [whole_append, hopen, hitems, hclose, and_self]
  | map entries =>
      rw [literal, Except.bind_eq_ok_iff] at h
      obtain ⟨parts, hparts, hshown⟩ := h
      have hentries : Whole (Text.joined ", " parts) :=
        whole_joined (whole_of_isAscii (by decide)) (whole_of_entryLiterals hparts)
      exact Except.ok.inj hshown ▸ whole_braced hentries

theorem whole_of_literals {items : List Value} {parts : List String}
    (h : literals items = .ok parts) : ∀ part ∈ parts, Whole part := by
  cases items with
  | nil =>
      cases h
      exact List.forall_mem_nil _
  | cons v rest =>
      rw [literals] at h
      simp only [Except.bind_eq_ok_iff] at h
      obtain ⟨first, hv, more, hrest, hparts⟩ := h
      rw [← Except.ok.inj hparts, List.forall_mem_cons]
      exact ⟨whole_of_literal hv, whole_of_literals hrest⟩

theorem whole_of_entryLiterals {entries : Entries} {parts : List String}
    (h : entryLiterals entries = .ok parts) : ∀ part ∈ parts, Whole part := by
  cases entries with
  | nil =>
      cases h
      exact List.forall_mem_nil _
  | cons entry rest =>
      obtain ⟨k, v⟩ := entry
      have hcolon : Whole ": " := whole_of_isAscii (by decide)
      rw [entryLiterals] at h
      simp only [Except.bind_eq_ok_iff] at h
      obtain ⟨key, hk, first, hv, more, hrest, hparts⟩ := h
      rw [← Except.ok.inj hparts, List.forall_mem_cons, whole_append, whole_append]
      exact ⟨⟨⟨Scalar.whole_of_literal hk, hcolon⟩, whole_of_literal hv⟩,
        whole_of_entryLiterals hrest⟩

end

/-- What is shown of a value has bytes, if the value is no text without. -/
theorem whole_of_display (htext : ∀ s, v = text s → Whole s) (h : v.display = .ok shown) :
    Whole shown := by
  cases v with
  | scalar s => exact Scalar.whole_of_display (fun t ht => htext t (congrArg scalar ht)) h
  | list items => exact whole_of_literal h
  | map entries => exact whole_of_literal h

/-- What is shown of a value that is no text is more than points. -/
theorem exists_ne_point_of_display (htext : ∀ t, v ≠ text t) (h : v.display = .ok shown) :
    ∃ c ∈ shown.toList, c ≠ '.' := by
  cases v with
  | scalar s => exact Scalar.exists_ne_point_of_display (fun t ht => htext t (congrArg scalar ht)) h
  | list items =>
      have hliteral : (list items).literal = .ok shown := h
      rw [literal, Except.bind_eq_ok_iff] at hliteral
      obtain ⟨parts, -, hshown⟩ := hliteral
      rw [← Except.ok.inj hshown]
      exact ⟨'[', by simp, by decide⟩
  | map entries =>
      have hliteral : (map entries).literal = .ok shown := h
      rw [literal, Except.bind_eq_ok_iff] at hliteral
      obtain ⟨parts, -, hshown⟩ := hliteral
      rw [← Except.ok.inj hshown]
      exact ⟨'{', by simp, by decide⟩

end Value

end ApiCommands
