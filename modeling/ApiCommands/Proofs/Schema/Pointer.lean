/-
Pointers, and the places they lead to.

# Places

A place in a document is told by the moves that lead to it: to the value of a
key, or to an item of a list (`Move`, `target?`). A pointer makes one move for
each of its segments, so what it leads to is a place of the node it starts from
(`exists_target?_of_follow`).

# The written form

Inside a key `~0` is written for a tilde and `~1` for a slash (`escape`). The
reader puts all slashes back before it looks for tildes. That is the right
order, for a tilde that was written as `~0` cannot become the start of a slash
then (`unescape_escape`). A written key has no slash, so a written path falls
into its moves again (`segments_written`).

# Indexes

The decimal digits of a number are read as this number, if there are not too
many of them (`index?_toString`). Other segments may look like digits and yet be
no numeral (`Unreadable`); that is the one thing that can stop a pointer, and it
does so only where it meets a list (`follow_eq_error_iff`).
-/
import ApiCommands.Proofs.Document.Entries
import ApiCommands.Proofs.Outcome.Result
import ApiCommands.Proofs.Text.LetterCase
import ApiCommands.Proofs.Text.Pieces
import ApiCommands.Schema.Pointer
import Mathlib.Algebra.Group.Nat.Defs
import Mathlib.Logic.Basic

namespace ApiCommands.Pointer

variable {segment : List Char} {segments : List (List Char)} {node part target : Value}
  {fault : Fault}

-- ====================================================== places

/-- A move inside a document: to the value of a key, or to an item of a list. -/
inductive Move where
  | key (name : String)
  | index (i : Nat)
  deriving DecidableEq, Repr

/-- The part of a node that a move leads to. -/
def Move.part? : Move → Value → Option Value
  | .key name, .map entries => Entries.find? (.text name) entries
  | .index i, .list items => items[i]?
  | _, _ => none

/-- A move leads to the value of a key of a mapping, or to an item of a list. -/
theorem Move.cases_of_part? {move : Move} (h : move.part? node = some part) :
    (∃ name entries, move = .key name ∧ node = .map entries
        ∧ Entries.find? (.text name) entries = some part)
      ∨ ∃ (i : Nat) (items : List Value), move = .index i ∧ node = .list items
        ∧ items[i]? = some part := by
  cases move with
  | key name =>
      cases node with
      | map entries => exact Or.inl ⟨name, entries, rfl, rfl, h⟩
      | scalar s => cases h
      | list items => cases h
  | index i =>
      cases node with
      | list items => exact Or.inr ⟨i, items, rfl, rfl, h⟩
      | scalar s => cases h
      | map entries => cases h

/-- The node that moves lead to. -/
def target? : List Move → Value → Option Value
  | [], node => some node
  | move :: path, node => (move.part? node).bind (target? path)

theorem follow_cons_of_some (h : step segment node = .ok (some part)) :
    follow (segment :: segments) node = follow segments part := by
  rw [follow, h]
  rfl

theorem follow_cons_of_none (h : step segment node = .ok none) :
    follow (segment :: segments) node = .ok none := by
  rw [follow, h]
  rfl

theorem follow_cons_of_error (h : step segment node = .error fault) :
    follow (segment :: segments) node = .error fault := by
  rw [follow, h]
  rfl

/-- The segment of a name picks the entry of the name. -/
theorem step_toList_map (name : String) (entries : Entries) :
    step name.toList (.map entries) = .ok (entries.find? (.text name)) := by
  show Except.ok (Entries.find? (.text (String.ofList name.toList)) entries) = _
  rw [String.ofList_toList]

/-- A segment picks the part that a move leads to. -/
theorem exists_move_of_step (h : step segment node = .ok (some part)) :
    ∃ move : Move, move.part? node = some part := by
  cases node with
  | scalar s => cases h
  | map entries => exact ⟨.key (String.ofList segment), Except.ok.inj h⟩
  | list items =>
      obtain ⟨index, -, hindex⟩ := Except.bind_eq_ok_iff.mp h
      obtain ⟨i, -, hi⟩ := Option.bind_eq_some_iff.mp (Except.ok.inj hindex)
      exact ⟨.index i, hi⟩

/-- What a pointer leads to, its other segments lead to from the part that the first one picks. -/
theorem follow_cons_eq_some_iff : follow (segment :: segments) node = .ok (some target)
    ↔ ∃ part, step segment node = .ok (some part) ∧ follow segments part = .ok (some target) := by
  cases hstep : step segment node with
  | error fault =>
      rw [follow_cons_of_error hstep]
      exact iff_of_false (fun h => by cases h) fun ⟨_, h, _⟩ => by cases h
  | ok found =>
      cases found with
      | none =>
          rw [follow_cons_of_none hstep]
          exact iff_of_false (fun h => by cases h) fun ⟨_, h, _⟩ => by cases h
      | some part =>
          rw [follow_cons_of_some hstep]
          constructor
          · exact fun h => ⟨part, rfl, h⟩
          · rintro ⟨other, heq, h⟩
            obtain rfl := Option.some.inj (Except.ok.inj heq)
            exact h

/-- What a pointer leads to is a place of the node it starts from. -/
theorem exists_target?_of_follow (h : follow segments node = .ok (some target)) :
    ∃ path, target? path node = some target := by
  induction segments generalizing node with
  | nil => exact ⟨[], Except.ok.inj h⟩
  | cons segment rest ih =>
      obtain ⟨part, hstep, hrest⟩ := follow_cons_eq_some_iff.mp h
      obtain ⟨move, hmove⟩ := exists_move_of_step hstep
      obtain ⟨path, hpath⟩ := ih hrest
      exact ⟨move :: path, Option.bind_eq_some_iff.mpr ⟨part, hmove, hpath⟩⟩

/-- What parts have from their node, places have as well. -/
theorem target?_preserves {P : Value → Prop} {path : List Move}
    (hpart : ∀ (move : Move) (outer inner : Value), move.part? outer = some inner →
      P outer → P inner)
    (h : target? path node = some target) (hnode : P node) : P target := by
  induction path generalizing node with
  | nil => exact Option.some.inj h ▸ hnode
  | cons move path ih =>
      obtain ⟨part, hmove, hrest⟩ := Option.bind_eq_some_iff.mp h
      exact ih hrest (hpart move node part hmove hnode)

-- ====================================================== the written form

/-- A character of a key, as it is written. -/
def escapeChar (c : Char) : List Char :=
  if c = '~' then ['~', '0'] else if c = '/' then ['~', '1'] else [c]

/-- A key as it is written. -/
def escape (key : List Char) : List Char := key.flatMap escapeChar

/-- What a segment means, for a move. -/
def Move.meant : Move → List Char
  | .key name => name.toList
  | .index i => (toString i).toList

/-- The segment that is written for a move. -/
def Move.written : Move → List Char
  | .key name => escape name.toList
  | .index i => (toString i).toList

/-- The written form of moves. -/
def written (path : List Move) : List Char := Text.join ['/'] (path.map Move.written)

theorem slash_not_mem_escape (key : List Char) : '/' ∉ escape key := by
  intro h
  obtain ⟨c, -, hc⟩ := List.mem_flatMap.mp h
  unfold escapeChar at hc
  split at hc
  · simp at hc
  · split at hc
    · simp at hc
    · next hslash => exact hslash (List.mem_singleton.mp hc).symm

/-- Putting the slashes back leaves the tildes as they are written. -/
private theorem replace_slashes (key : List Char) :
    Text.replaceNonempty ['~', '1'] ['/'] (escape key)
      = key.flatMap fun c => if c = '~' then ['~', '0'] else [c] := by
  induction key with
  | nil => rw [escape, List.flatMap_nil, List.flatMap_nil, Text.replaceNonempty]
  | cons c rest ih =>
      rw [escape, List.flatMap_cons, List.flatMap_cons, ← escape, ← ih]
      unfold escapeChar
      by_cases htilde : c = '~'
      · simp [htilde, Text.replaceNonempty]
      · by_cases hslash : c = '/'
        · simp [hslash, Text.replaceNonempty]
        · have hc : '~' ≠ c := Ne.symm htilde
          simp [htilde, hslash, hc, Text.replaceNonempty]

private theorem replace_tildes (key : List Char) :
    Text.replaceNonempty ['~', '0'] ['~'] (key.flatMap fun c => if c = '~' then ['~', '0'] else [c])
      = key := by
  induction key with
  | nil => rw [List.flatMap_nil, Text.replaceNonempty]
  | cons c rest ih =>
      rw [List.flatMap_cons]
      by_cases htilde : c = '~'
      · simp [htilde, Text.replaceNonempty, ih]
      · have hc : '~' ≠ c := Ne.symm htilde
        simp [htilde, hc, Text.replaceNonempty, ih]

/-- A written key is read back. -/
theorem unescape_escape (key : List Char) : unescape (escape key) = key := by
  show Text.replaceNonempty ['~', '0'] ['~'] (Text.replaceNonempty ['~', '1'] ['/'] (escape key))
    = key
  rw [replace_slashes, replace_tildes]

/-- Without a tilde a segment is meant as it is written. -/
theorem unescape_eq_self (h : '~' ∉ segment) : unescape segment = segment := by
  unfold unescape
  rw [Text.replace_eq_self List.mem_cons_self h, Text.replace_eq_self List.mem_cons_self h]

theorem not_mem_toString {c : Char} (h : c.isDigit = false) (i : Nat) :
    c ∉ (toString i).toList := by
  intro hmem
  rw [Text.isDigit_of_mem_toString hmem] at h
  cases h

/-- What is written with slashes between is unescaped piece by piece. -/
theorem unescape_append_slash (front back : List Char) :
    unescape (front ++ '/' :: back) = unescape front ++ '/' :: unescape back := by
  show Text.replaceNonempty ['~', '0'] ['~'] (Text.replaceNonempty ['~', '1'] ['/'] _) = _
  rw [Text.replaceNonempty_append_cons (List.cons_ne_nil _ _) (by decide),
    Text.replaceNonempty_append_cons (List.cons_ne_nil _ _) (by decide)]
  rfl

/-- A slash ends the first segment. -/
theorem segments_append_slash {front : List Char} (h : '/' ∉ front) (back : List Char) :
    Pointer.segments (front ++ '/' :: back) = unescape front :: Pointer.segments back := by
  unfold Pointer.segments Text.splitOn
  rw [Text.splitWhere_append_cons (fun c hc => ?_) rfl back, List.map_cons]
  exact beq_eq_false_iff_ne.mpr fun heq => h (heq ▸ hc)

/-- Without a slash there is one segment. -/
theorem segments_of_slash_not_mem (h : '/' ∉ segment) :
    Pointer.segments segment = [unescape segment] := by
  have hone : Text.splitOn '/' segment = [segment] :=
    Text.splitWhere_of_not_isSep fun c hc => beq_eq_false_iff_ne.mpr fun heq => h (heq ▸ hc)
  unfold Pointer.segments
  rw [hone, List.map_singleton]

theorem Move.unescape_written (move : Move) : unescape move.written = move.meant := by
  cases move with
  | key name => exact unescape_escape name.toList
  | index i => exact unescape_eq_self (not_mem_toString rfl i)

theorem Move.slash_not_mem_written (move : Move) : '/' ∉ move.written := by
  cases move with
  | key name => exact slash_not_mem_escape name.toList
  | index i => exact not_mem_toString rfl i

/-- A written path falls into the segments of its moves. -/
theorem segments_written {path : List Move} (h : path ≠ []) :
    Pointer.segments (written path) = path.map Move.meant := by
  have hsplit : Text.splitOn '/' (written path) = path.map Move.written := by
    refine Text.splitWhere_join (List.map_eq_nil_iff.not.mpr h) (fun piece hpiece c hc => ?_) rfl
    obtain ⟨move, -, rfl⟩ := List.mem_map.mp hpiece
    exact beq_eq_false_iff_ne.mpr fun heq => move.slash_not_mem_written (heq ▸ hc)
  unfold Pointer.segments
  rw [hsplit, List.map_map]
  exact List.map_congr_left fun move _ => move.unescape_written

-- ====================================================== indexes

/-- The segment looks like digits and is no numeral all the same: it is too long, or one of its
characters has no value. -/
structure Unreadable (segment : List Char) : Prop where
  ne_nil : segment ≠ []
  digitLike : ∀ c ∈ segment, Text.isDigitLike c = true
  noNumeral : Numeral.maxDigits < segment.length ∨ ∃ c ∈ segment, Text.decimalValue? c = none

theorem digitsValue?_eq_none_iff {digits : List Char} :
    digitsValue? digits = none ↔ ∃ c ∈ digits, Text.decimalValue? c = none := by
  have hgeneral : ∀ value? : Option Nat,
      digits.foldl (fun n c => do some (10 * (← n) + (← Text.decimalValue? c))) value? = none
        ↔ value? = none ∨ ∃ c ∈ digits, Text.decimalValue? c = none := by
    induction digits with
    | nil => simp
    | cons c rest ih =>
        intro value?
        simp only [List.foldl_cons, ih, List.mem_cons, exists_eq_or_imp, ← or_assoc]
        refine or_congr_left ?_
        cases value? with
        | none => simp
        | some n => cases Text.decimalValue? c <;> simp
  exact (hgeneral (some 0)).trans (by simp)

/-- Decimal digits of ASCII have the value that they have together. -/
theorem digitsValue?_of_isDigit {digits : List Char} (h : ∀ c ∈ digits, c.isDigit = true) :
    digitsValue? digits = some (Nat.ofDigitChars 10 digits 0) := by
  have hgeneral : ∀ n, digits.foldl (fun n c => do some (10 * (← n) + (← Text.decimalValue? c)))
      (some n) = some (Nat.ofDigitChars 10 digits n) := by
    induction digits with
    | nil => exact fun _ => rfl
    | cons c rest ih =>
        intro n
        have hc := h c List.mem_cons_self
        have hvalue : Text.decimalValue? c = some (c.toNat - '0'.toNat) :=
          beq_iff_eq.mp (Text.forall_of_isDigit
            (p := fun d => Text.decimalValue? d == some (d.toNat - '0'.toNat)) (by decide) hc)
        rw [List.foldl_cons, Nat.ofDigitChars_cons,
          ← ih (fun d hd => h d (List.mem_cons_of_mem _ hd)), hvalue]
        rfl
  exact hgeneral 0

/-- A segment is read as an index, or passed over, unless it only looks like digits. -/
theorem index?_eq_error_iff :
    index? segment = .error fault ↔ fault = .badNumeral ∧ Unreadable segment := by
  unfold index?
  split
  · next hother =>
    refine iff_of_false (fun h => by cases h) fun ⟨_, h⟩ => ?_
    have hempty : segment.isEmpty = false := List.isEmpty_eq_false_iff.mpr h.ne_nil
    have hall : segment.all Text.isDigitLike = true := List.all_eq_true.mpr h.digitLike
    rw [hempty, hall] at hother
    cases hother
  · next hdigits =>
    rw [Bool.or_eq_true, not_or, Bool.not_eq_true, Bool.not_eq_true, Bool.not_eq_false',
      List.isEmpty_eq_false_iff, List.all_eq_true] at hdigits
    obtain ⟨hne, hlike⟩ := hdigits
    split
    · next hlong =>
      rw [Except.error.injEq, eq_comm]
      exact (and_iff_left ⟨hne, hlike, Or.inl hlong⟩).symm
    · next hshort =>
      cases hvalue : digitsValue? segment with
      | some n =>
          refine iff_of_false (fun h => by cases h) fun ⟨_, h⟩ => ?_
          have hnone := digitsValue?_eq_none_iff.mpr (h.noNumeral.resolve_left hshort)
          rw [hvalue] at hnone
          cases hnone
      | none =>
          dsimp only
          rw [Except.error.injEq, eq_comm]
          exact (and_iff_left ⟨hne, hlike, Or.inr (digitsValue?_eq_none_iff.mp hvalue)⟩).symm

theorem isDigitLike_of_isDigit {c : Char} (h : c.isDigit = true) : Text.isDigitLike c = true :=
  Text.forall_of_isDigit (p := Text.isDigitLike) (by decide) h

theorem length_toString_le_iff {i : Nat} :
    (toString i).toList.length ≤ Numeral.maxDigits ↔ i < 10 ^ Numeral.maxDigits := by
  rw [Nat.toString_eq_ofList_toDigits, String.toList_ofList]
  exact Nat.length_toDigits_le_iff (by decide) (by decide)

/-- The digits of a number that is not too large are read as this number. -/
theorem index?_toString {i : Nat} (h : i < 10 ^ Numeral.maxDigits) :
    index? (toString i).toList = .ok (some i) := by
  have hdigits : ∀ c ∈ (toString i).toList, c.isDigit = true :=
    fun _ hc => Text.isDigit_of_mem_toString hc
  have hne : (toString i).toList.isEmpty = false := by
    rw [Nat.toString_eq_ofList_toDigits, String.toList_ofList, List.isEmpty_eq_false_iff]
    exact Nat.toDigits_ne_nil
  have hlike : (toString i).toList.all Text.isDigitLike = true :=
    List.all_eq_true.mpr fun c hc => isDigitLike_of_isDigit (hdigits c hc)
  have hvalue : digitsValue? (toString i).toList = some i := by
    rw [digitsValue?_of_isDigit hdigits, Nat.toString_eq_ofList_toDigits, String.toList_ofList,
      Nat.ofDigitChars_ten_toDigits]
  unfold index?
  rw [hne, hlike, hvalue, if_neg (by decide), if_neg (Nat.not_lt.mpr (length_toString_le_iff.mpr h))]

/-- The digits of one that is too large are not read. -/
theorem unreadable_toString {i : Nat} (h : ¬i < 10 ^ Numeral.maxDigits) :
    Unreadable (toString i).toList where
  ne_nil := by
    rw [Nat.toString_eq_ofList_toDigits, String.toList_ofList]
    exact Nat.toDigits_ne_nil
  digitLike := fun _ hc => isDigitLike_of_isDigit (Text.isDigit_of_mem_toString hc)
  noNumeral := Or.inl (Nat.not_le.mp (length_toString_le_iff.not.mpr h))

-- ====================================================== what stops a pointer

/-- A step fails at a list, where the segment is unreadable. -/
theorem step_eq_error_iff : step segment node = .error fault
    ↔ fault = .badNumeral ∧ Unreadable segment ∧ ∃ items, node = .list items := by
  cases node with
  | scalar s => simp [step]
  | map entries => simp [step]
  | list items =>
      have hindex : step segment (.list items) = .error fault ↔ index? segment = .error fault := by
        unfold step
        cases index? segment <;> simp [bind, Except.bind, pure, Except.pure]
      rw [hindex, index?_eq_error_iff]
      simp

/-- The first segments lead to a list, and the next one is unreadable. -/
def Stops (segments : List (List Char)) (node : Value) : Prop :=
  ∃ front segment back items, segments = front ++ segment :: back
    ∧ follow front node = .ok (some (.list items)) ∧ Unreadable segment

theorem not_stops_nil : ¬Stops [] node := by
  rintro ⟨front, segment, back, items, hnil, -⟩
  exact List.append_ne_nil_of_right_ne_nil front (List.cons_ne_nil segment back) hnil.symm

/-- A pointer stops at its first segment, or the others stop where this leads. -/
theorem stops_cons_iff : Stops (segment :: segments) node
    ↔ (Unreadable segment ∧ ∃ items, node = .list items)
      ∨ ∃ part, step segment node = .ok (some part) ∧ Stops segments part := by
  constructor
  · rintro ⟨front, other, back, items, heq, hfront, hother⟩
    cases front with
    | nil =>
        obtain ⟨rfl, -⟩ := List.cons.inj heq
        exact Or.inl ⟨hother, items, Option.some.inj (Except.ok.inj hfront)⟩
    | cons head front =>
        obtain ⟨rfl, rfl⟩ := List.cons.inj heq
        obtain ⟨part, hstep, hrest⟩ := follow_cons_eq_some_iff.mp hfront
        exact Or.inr ⟨part, hstep, front, other, back, items, rfl, hrest, hother⟩
  · rintro (⟨hsegment, items, rfl⟩ | ⟨part, hstep, front, other, back, items, rfl, hrest, hother⟩)
    · exact ⟨[], segment, segments, items, rfl, rfl, hsegment⟩
    · exact ⟨segment :: front, other, back, items, rfl,
        follow_cons_eq_some_iff.mpr ⟨part, hstep, hrest⟩, hother⟩

/-- A pointer fails exactly where it stops. -/
theorem follow_eq_error_iff :
    follow segments node = .error fault ↔ fault = .badNumeral ∧ Stops segments node := by
  induction segments generalizing node with
  | nil => exact iff_of_false (fun h => by cases h) fun ⟨_, h⟩ => not_stops_nil h
  | cons segment rest ih =>
      rw [stops_cons_iff]
      cases hstep : step segment node with
      | error other =>
          obtain ⟨rfl, hsegment⟩ := step_eq_error_iff.mp hstep
          rw [follow_cons_of_error hstep, Except.error.injEq]
          exact ⟨fun h => ⟨h.symm, Or.inl hsegment⟩, fun h => h.1.symm⟩
      | ok found =>
          -- the first segment can be read here, so the one that cannot comes behind it
          have hsegment : ¬(Unreadable segment ∧ ∃ items, node = .list items) := by
            intro h
            rw [step_eq_error_iff.mpr ⟨rfl, h⟩] at hstep
            cases hstep
          rw [or_iff_right hsegment]
          cases found with
          | none =>
              rw [follow_cons_of_none hstep]
              exact iff_of_false (fun h => by cases h) fun ⟨_, _, h, _⟩ => by cases h
          | some part =>
              rw [follow_cons_of_some hstep, ih]
              refine and_congr_right fun _ => ⟨fun h => ⟨part, rfl, h⟩, ?_⟩
              rintro ⟨other, heq, h⟩
              obtain rfl := Option.some.inj (Except.ok.inj heq)
              exact h

-- ====================================================== following moves

variable {path : List Move}

/-- A move is made by its segment, unless it is to an item too far behind. -/
theorem step_meant {move : Move} (h : move.part? node = some part)
    (hreach : ∀ i, move = .index i → i < 10 ^ Numeral.maxDigits) :
    step move.meant node = .ok (some part) := by
  obtain ⟨name, entries, rfl, rfl, hfind⟩ | ⟨i, items, rfl, rfl, hitem⟩ := Move.cases_of_part? h
  · exact (step_toList_map name entries).trans (congrArg Except.ok hfind)
  · unfold step Move.meant
    rw [index?_toString (hreach i rfl)]
    exact congrArg Except.ok hitem

/-- The segments of moves lead where the moves lead, exactly if no item is too far behind. -/
theorem follow_map_meant_eq_ok_iff (h : target? path node = some target) :
    follow (path.map Move.meant) node = .ok (some target)
      ↔ ∀ i, .index i ∈ path → i < 10 ^ Numeral.maxDigits := by
  induction path generalizing node with
  | nil => exact iff_of_true (congrArg Except.ok h) fun _ hmem => by cases hmem
  | cons move path ih =>
      obtain ⟨part, hpart, hrest⟩ := Option.bind_eq_some_iff.mp h
      by_cases hreach : ∀ i, move = .index i → i < 10 ^ Numeral.maxDigits
      · rw [List.map_cons, follow_cons_of_some (step_meant hpart hreach), ih hrest]
        refine forall_congr' fun i => ⟨fun hall hmem => ?_, fun hall hmem => ?_⟩
        · rcases List.mem_cons.mp hmem with heq | htail
          · exact hreach i heq.symm
          · exact hall htail
        · exact hall (List.mem_cons_of_mem _ hmem)
      · obtain ⟨i, hfar⟩ := not_forall.mp hreach
        obtain ⟨rfl, hlarge⟩ := Classical.not_imp.mp hfar
        refine iff_of_false (fun hok => ?_) fun hall => hlarge (hall i List.mem_cons_self)
        cases node with
        | list items =>
            have hstep : step (Move.index i).meant (.list items) = .error .badNumeral :=
              step_eq_error_iff.mpr ⟨rfl, unreadable_toString hlarge, items, rfl⟩
            rw [List.map_cons, follow_cons_of_error hstep] at hok
            cases hok
        | scalar s => cases hpart
        | map entries => cases hpart

end ApiCommands.Pointer
