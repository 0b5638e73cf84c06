/-
Lower case, the digits behind a name and the separators of a path or a name.

Names that clash get a number at their end, and names are compared in
lower case. So the theory of taken names needs one fact about case: digits
at the end of a text are left alone and change nothing before them. Paths are
compared in lower case too, and what is asked there is how many segments they
have.

# The sigma rule

Lowering is not letter by letter. A capital sigma looks at the nearest
letter on both sides, past the marks the rule looks through, and what is
appended to a text stands on its right side. A digit has no case and is not
looked through, so a sigma sees behind a run of digits exactly what it sees
at the end of the text: no letter (`any_isCased_append`). The
induction in `lowerAfter_append_digits` is on the text before the digits,
with what stands further left arbitrary.

# Separators

Slashes and hyphens have no case either, and they are the lower case of nothing
else (`mem_lowerAfter_iff`). So lowering keeps a path of one segment a path of
one segment, and makes no other path one (`exists_eq_slash_cons`). The sigma rule
does not look through them, so what stands on one side of a separator is lowered
as if the other side were not there (`lowerAfter_append_cons`), and words with
hyphens between them are lowered word by word (`lower_join`).

# Capitals

Letters of other scripts may have small letters in ASCII, but none has a capital
there for its small letter. So what is lowered has no capital of ASCII
(`isUpper_of_mem_lowerAfter`).

# Reading numbers back

A text may end in digits before a number is put behind it, and then the number
cannot be told from it. Where it does not, the text is what is left without the
digits at the end (`eq_of_append_toString_eq`).
-/
import ApiCommands.Text.LetterCase
import ApiCommands.Text.Pieces

namespace ApiCommands.Text

-- ====================================================== digits

/-- What is true of the ten digits is true of every digit. -/
theorem forall_of_isDigit {p : Char → Bool}
    (h : ['0', '1', '2', '3', '4', '5', '6', '7', '8', '9'].all p = true) {c : Char}
    (hc : c.isDigit = true) : p c = true := by
  refine List.all_eq_true.mp h c ?_
  simp only [Char.isDigit, ge_iff_le, UInt32.le_iff_toNat_le, Bool.and_eq_true,
    decide_eq_true_eq] at hc
  obtain ⟨hle, hge⟩ := hc
  have h0 : '0'.val.toNat = 48 := rfl
  have h9 : '9'.val.toNat = 57 := rfl
  have hof : c = Char.ofNat c.val.toNat := (Char.ofNat_toNat c).symm
  generalize c.val.toNat = n at hle hge hof
  have hn : n = 48 ∨ n = 49 ∨ n = 50 ∨ n = 51 ∨ n = 52 ∨ n = 53 ∨ n = 54 ∨ n = 55 ∨ n = 56
      ∨ n = 57 := by omega
  subst hof
  rcases hn with rfl | rfl | rfl | rfl | rfl | rfl | rfl | rfl | rfl | rfl <;> decide

/-- A digit is an ASCII character and its own lower case. -/
theorem toLower_of_isDigit {c : Char} (h : c.isDigit = true) :
    c.toNat < 128 ∧ c.toLower = c := by
  have hdigits := forall_of_isDigit (p := fun c => decide (c.toNat < 128) && c.toLower == c)
    (by decide) h
  simpa using hdigits

/-- A digit has no case. -/
theorem isCased_of_isDigit {c : Char} (h : c.isDigit = true) : isCased c = false := by
  have hdigits := forall_of_isDigit (p := fun c => !isCased c) (by decide) h
  simpa using hdigits

-- ====================================================== digits at the end

/-- What the sigma rule sees on one side of a letter does not change when characters without case
are put behind it. -/
theorem any_isCased_append (s : List Char) {uncased : List Char}
    (h : ∀ c ∈ uncased, isCased c = false) :
    (((s ++ uncased).dropWhile isCaseIgnorable).head?.any isCased)
      = ((s.dropWhile isCaseIgnorable).head?.any isCased) := by
  induction s with
  | nil =>
      cases hhead : (uncased.dropWhile isCaseIgnorable).head? with
      | none => simp [hhead]
      | some c =>
          have hc : c ∈ uncased :=
            (List.dropWhile_sublist _).subset (List.mem_of_mem_head? (Option.mem_def.mpr hhead))
          simp [hhead, h c hc]
  | cons c rest ih =>
      cases hc : isCaseIgnorable c with
      | true => simpa [hc] using ih
      | false => simp [hc]

/-- ASCII characters that are no capitals are their own lower case, whatever stands before them. -/
theorem lowerAfter_eq_self (before : List Char) {s : List Char}
    (h : ∀ c ∈ s, c.toNat < 128 ∧ c.toLower = c) : lowerAfter before s = s := by
  rw [lowerAfter_ascii before s fun c hc => (h c hc).1]
  calc s.map Char.toLower
      = s.map id := List.map_congr_left fun c hc => (h c hc).2
    _ = s := List.map_id s

/-- So are digits. -/
theorem lowerAfter_digits (before : List Char) {digits : List Char}
    (h : ∀ c ∈ digits, c.isDigit = true) : lowerAfter before digits = digits :=
  lowerAfter_eq_self before fun c hc => toLower_of_isDigit (h c hc)

/-- Lower case up to the digits at the end is the lower case of what stands before them. -/
theorem lowerAfter_append_digits (before s : List Char) {digits : List Char}
    (h : ∀ c ∈ digits, c.isDigit = true) :
    lowerAfter before (s ++ digits) = lowerAfter before s ++ digits := by
  induction s generalizing before with
  | nil =>
      rw [List.nil_append, lowerAfter_digits before h]
      rfl
  | cons c rest ih =>
      have hsigma : lowerBetween before c (rest ++ digits) = lowerBetween before c rest := by
        unfold lowerBetween isFinalSigma
        rw [any_isCased_append rest fun c hc => isCased_of_isDigit (h c hc)]
      rw [List.cons_append, lowerAfter, lowerAfter, hsigma, ih, List.append_assoc]

/-- The decimal digits of a number are digits. -/
theorem isDigit_of_mem_toString {n : Nat} {c : Char} (h : c ∈ (toString n).toList) :
    c.isDigit = true := by
  rw [Nat.toString_eq_ofList_toDigits, String.toList_ofList] at h
  exact Nat.isDigit_of_mem_toDigits (by decide) (by decide) h

/-- A number at the end of a string is not touched by lowering. -/
theorem lowered_append_toString (s : String) (n : Nat) :
    lowered (s ++ toString n) = lowered s ++ toString n := by
  unfold lowered lower
  rw [String.toList_append,
    lowerAfter_append_digits [] s.toList fun c hc => isDigit_of_mem_toString hc,
    String.ofList_append, String.ofList_toList]

/-- Two numbers behind one stem are the same number if the results agree. -/
theorem append_toString_injective (stem : String) {m n : Nat}
    (h : stem ++ toString m = stem ++ toString n) : m = n := by
  have hlist : stem.toList ++ (toString m).toList = stem.toList ++ (toString n).toList := by
    simpa using congrArg String.toList h
  have hdigits : Nat.toDigits 10 m = Nat.toDigits 10 n := by
    simpa [Nat.toString_eq_ofList_toDigits] using List.append_cancel_left hlist
  have hvalue := congrArg (fun digits => Nat.ofDigitChars 10 digits 0) hdigits
  simpa only [Nat.ofDigitChars_ten_toDigits] using hvalue

-- ====================================================== texts in front of digits

/-- Digits alone do not end a text that does not end in a digit. -/
private theorem eq_nil_of_append_digits {s digits : List Char}
    (h : (s ++ digits).getLast?.any Char.isDigit = false)
    (hdigits : ∀ c ∈ digits, c.isDigit = true) : digits = [] := by
  refine Decidable.byContradiction fun hne => ?_
  rw [List.getLast?_append, List.getLast?_eq_some_getLast hne, Option.some_or, Option.any_some,
    hdigits _ (List.getLast_mem hne)] at h
  cases h

/-- Where the digits at the end start is told by the text: two readings have the same front, if
neither front ends in a digit itself. -/
theorem eq_of_append_digits_eq {s s' digits digits' : List Char}
    (hs : s.getLast?.any Char.isDigit = false) (hs' : s'.getLast?.any Char.isDigit = false)
    (hdigits : ∀ c ∈ digits, c.isDigit = true) (hdigits' : ∀ c ∈ digits', c.isDigit = true)
    (h : s ++ digits = s' ++ digits') : s = s' := by
  rcases List.append_eq_append_iff.mp h with ⟨more, rfl, rfl⟩ | ⟨more, rfl, rfl⟩
  · have hnil := eq_nil_of_append_digits hs' fun c hc =>
      hdigits c (List.mem_append_left _ hc)
    rw [hnil, List.append_nil]
  · have hnil := eq_nil_of_append_digits hs fun c hc =>
      hdigits' c (List.mem_append_left _ hc)
    rw [hnil, List.append_nil]

/-- Two numbers stand behind one text if neither text ends in a digit. -/
theorem eq_of_append_toString_eq {s s' : String} {m n : Nat}
    (hs : s.toList.getLast?.any Char.isDigit = false)
    (hs' : s'.toList.getLast?.any Char.isDigit = false)
    (h : s ++ toString m = s' ++ toString n) : s = s' := by
  have hlist : s.toList ++ (toString m).toList = s'.toList ++ (toString n).toList := by
    simpa using congrArg String.toList h
  exact String.toList_injective (eq_of_append_digits_eq hs hs'
    (fun _ hc => isDigit_of_mem_toString hc) (fun _ hc => isDigit_of_mem_toString hc) hlist)

/-- A text with a number behind it ends in a digit. -/
theorem any_isDigit_append_toString (s : String) (n : Nat) :
    (s ++ toString n).toList.getLast?.any Char.isDigit = true := by
  have hne : (toString n).toList ≠ [] := by
    rw [Nat.toString_eq_ofList_toDigits, String.toList_ofList]
    exact Nat.toDigits_ne_nil
  rw [String.toList_append, List.getLast?_append, List.getLast?_eq_some_getLast hne,
    Option.some_or, Option.any_some]
  exact isDigit_of_mem_toString (List.getLast_mem hne)

-- ====================================================== separators

/-- A character between the segments of a path or between the words of a name. -/
def IsSeparator (c : Char) : Prop := c = '/' ∨ c = '-'

variable {sep : Char}

/-- The code point a separator comes from is no greater than the one of the slash. -/
private theorem le_of_eq_ofNat {n : Nat} (hsep : IsSeparator sep) (h : sep = Char.ofNat n) :
    n ≤ 0x2F := by
  have hpos : sep.toNat ≠ 0 ∧ sep.toNat ≤ 0x2F := by rcases hsep with rfl | rfl <;> decide
  have hnat : sep.toNat = (Char.ofNat n).toNat := congrArg Char.toNat h
  by_cases hvalid : n.isValidChar
  · rw [Char.ofNat, dif_pos hvalid] at hnat
    have hn : sep.toNat = n := hnat
    omega
  · rw [Char.ofNat, dif_neg hvalid] at hnat
    exact absurd hnat hpos.1

/-- Small letters of capitals beyond ASCII come after the capitals of ASCII. -/
private theorem lt_of_move? {r : ShiftRun} (hr : r ∈ lowerShifts) {n m : Nat}
    (h : r.move? n = some m) : 0x5A < m := by
  have htargets : lowerShifts.all (fun r => 0x5A < r.target) = true := by decide
  have htarget := of_decide_eq_true (List.all_eq_true.mp htargets r hr)
  unfold ShiftRun.move? at h
  split at h
  · obtain rfl := Option.some.inj h
    exact Nat.lt_of_lt_of_le htarget (Nat.le_add_right _ _)
  · cases h

/-- A separator is the lower case of nothing else. -/
private theorem eq_of_mem_lowerChar (hsep : IsSeparator sep) {c : Char} (h : sep ∈ lowerChar c) :
    c = sep := by
  unfold lowerChar at h
  split at h
  · next hascii =>
    have hall : ∀ n < 128, ('/' = (Char.ofNat n).toLower → Char.ofNat n = '/')
        ∧ ('-' = (Char.ofNat n).toLower → Char.ofNat n = '-') := by
      decide
    have hc := hall c.toNat hascii
    rw [Char.ofNat_toNat] at hc
    rcases hsep with rfl | rfl
    · exact hc.1 (List.mem_singleton.mp h)
    · exact hc.2 (List.mem_singleton.mp h)
  · next hascii =>
    split at h
    · rcases hsep with rfl | rfl <;> exact absurd h (by decide)
    · -- what `c` is moved to, if it is moved at all, lies beyond the separators
      have hcode := le_of_eq_ofNat hsep (List.mem_singleton.mp h)
      cases hmove : lowerShifts.findSome? (·.move? c.toNat) with
      | none =>
          rw [hmove, Option.getD_none] at hcode
          omega
      | some m =>
          obtain ⟨r, hr, hm⟩ := List.exists_of_findSome?_eq_some hmove
          have hlt := lt_of_move? hr hm
          rw [hmove, Option.getD_some] at hcode
          omega

theorem lowerBetween_separator (hsep : IsSeparator sep) (before after : List Char) :
    lowerBetween before sep after = [sep] := by
  unfold lowerBetween
  rcases hsep with rfl | rfl <;> rw [if_neg (by decide)] <;> decide

theorem mem_lowerBetween_iff (hsep : IsSeparator sep) {before after : List Char} {c : Char} :
    sep ∈ lowerBetween before c after ↔ c = sep := by
  constructor
  · intro h
    unfold lowerBetween at h
    split at h
    · have hsigma := List.mem_singleton.mp h
      rcases hsep with rfl | rfl <;> split at hsigma <;> exact absurd hsigma (by decide)
    · exact eq_of_mem_lowerChar hsep h
  · rintro rfl
    rw [lowerBetween_separator hsep]
    exact List.mem_singleton_self c

/-- A text and its lower case have separators or have none. -/
theorem mem_lowerAfter_iff (hsep : IsSeparator sep) {before s : List Char} :
    sep ∈ lowerAfter before s ↔ sep ∈ s := by
  induction s generalizing before with
  | nil => exact Iff.rfl
  | cons c rest ih =>
      rw [lowerAfter, List.mem_append, mem_lowerBetween_iff hsep, ih, List.mem_cons, eq_comm]

/-- The sigma rule sees nothing that stands behind a separator. -/
theorem any_isCased_append_cons (hsep : IsSeparator sep) (s rest : List Char) :
    (((s ++ sep :: rest).dropWhile isCaseIgnorable).head?.any isCased)
      = ((s.dropWhile isCaseIgnorable).head?.any isCased) := by
  have hplain : isCaseIgnorable sep = false ∧ isCased sep = false := by
    rcases hsep with rfl | rfl <;> decide
  induction s with
  | nil => simp [hplain]
  | cons c s ih =>
      cases hc : isCaseIgnorable c with
      | true => simpa [hc] using ih
      | false => simp [hc]

/-- What stands in front of a separator changes nothing for what stands behind it. -/
theorem lowerAfter_behind (hsep : IsSeparator sep) (between before s : List Char) :
    lowerAfter (between ++ sep :: before) s = lowerAfter between s := by
  induction s generalizing between with
  | nil => rfl
  | cons c rest ih =>
      have hsigma : lowerBetween (between ++ sep :: before) c rest
          = lowerBetween between c rest := by
        unfold lowerBetween isFinalSigma
        rw [any_isCased_append_cons hsep]
      rw [lowerAfter, lowerAfter, hsigma, ← List.cons_append, ih]

/-- The two sides of a separator are lowered on their own. -/
theorem lowerAfter_append_cons (hsep : IsSeparator sep) (before s rest : List Char) :
    lowerAfter before (s ++ sep :: rest) = lowerAfter before s ++ sep :: lower rest := by
  induction s generalizing before with
  | nil =>
      show lowerBetween before sep rest ++ lowerAfter (sep :: before) rest = sep :: lower rest
      rw [lowerBetween_separator hsep, List.singleton_append]
      exact congrArg _ (lowerAfter_behind hsep [] before rest)
  | cons c s ih =>
      have hsigma : lowerBetween before c (s ++ sep :: rest) = lowerBetween before c s := by
        unfold lowerBetween isFinalSigma
        rw [any_isCased_append_cons hsep]
      rw [List.cons_append, lowerAfter, lowerAfter, hsigma, ih, List.append_assoc]

/-- Pieces with separators between them are lowered piece by piece. -/
theorem lower_join (hsep : IsSeparator sep) (pieces : List (List Char)) :
    lower (join [sep] pieces) = join [sep] (pieces.map lower) := by
  induction pieces with
  | nil => rfl
  | cons piece more ih =>
      cases more with
      | nil => simp [join]
      | cons next more =>
          unfold join at ih ⊢
          rw [List.map_cons, List.map_cons, List.intercalate_cons_cons,
            List.intercalate_cons_cons, ← List.map_cons, ← ih, List.append_assoc,
            List.append_assoc, List.singleton_append, List.singleton_append]
          exact lowerAfter_append_cons hsep [] piece _

/-- A slash at the start is left alone and changes nothing behind it. -/
theorem lower_slash_cons (s : List Char) : lower ('/' :: s) = '/' :: lower s :=
  lowerAfter_append_cons (Or.inl rfl) [] [] s

/-- A slash in front of a string is left alone. -/
theorem lowered_slash_append (s : String) : lowered ("/" ++ s) = "/" ++ lowered s := by
  refine String.toList_injective ?_
  unfold lowered
  simp only [String.toList_append, String.toList_ofList]
  exact lower_slash_cons s.toList

/-- Lowering drops no character. -/
theorem lowerBetween_ne_nil (before after : List Char) (c : Char) :
    lowerBetween before c after ≠ [] := by
  unfold lowerBetween lowerChar
  split
  · exact List.cons_ne_nil _ _
  · split
    · exact List.cons_ne_nil _ _
    · split <;> exact List.cons_ne_nil _ _

theorem lower_ne_nil {s : List Char} (hne : s ≠ []) : lower s ≠ [] := by
  obtain ⟨c, rest, rfl⟩ := List.exists_cons_of_ne_nil hne
  exact List.append_ne_nil_of_left_ne_nil (lowerBetween_ne_nil [] rest c) _

/-- A text whose lower case has a slash at the start and no other is such a text itself. -/
theorem exists_eq_slash_cons {s tail : List Char} (h : lower s = '/' :: tail)
    (htail : '/' ∉ tail) : ∃ rest, s = '/' :: rest ∧ '/' ∉ rest := by
  cases s with
  | nil => cases h
  | cons c rest =>
      have hslash : '/' ∈ lowerBetween [] c rest := by
        obtain ⟨d, more, hfirst⟩ := List.exists_cons_of_ne_nil (lowerBetween_ne_nil [] rest c)
        unfold lower at h
        rw [lowerAfter, hfirst, List.cons_append] at h
        rw [hfirst, (List.cons.inj h).1]
        exact List.mem_cons_self
      obtain rfl := (mem_lowerBetween_iff (Or.inl rfl)).mp hslash
      rw [lower_slash_cons] at h
      obtain rfl := (List.cons.inj h).2
      exact ⟨rest, rfl, fun hmem => htail ((mem_lowerAfter_iff (Or.inl rfl)).mpr hmem)⟩

-- ====================================================== capitals

/-- The code points behind the last capital of ASCII are none. -/
private theorem isUpper_ofNat {n : Nat} (h : 0x5A < n) : (Char.ofNat n).isUpper = false := by
  by_cases hvalid : n.isValidChar
  · have hval : (Char.ofNat n).val.toNat = n := by
      rw [Char.ofNat, dif_pos hvalid]
      rfl
    refine decide_eq_false ?_
    rintro ⟨-, hle⟩
    rw [UInt32.le_iff_toNat_le, hval] at hle
    have hZ : 'Z'.val.toNat = 0x5A := rfl
    omega
  · rw [Char.ofNat, dif_neg hvalid]
    decide

theorem isUpper_of_mem_lowerBetween {before after : List Char} {c d : Char}
    (h : d ∈ lowerBetween before c after) : d.isUpper = false := by
  unfold lowerBetween lowerChar at h
  split at h
  · obtain rfl := List.mem_singleton.mp h
    split <;> decide
  · split at h
    · next hascii =>
      have hall : ∀ n < 128, (Char.ofNat n).toLower.isUpper = false := by decide
      have hc := hall c.toNat hascii
      rw [Char.ofNat_toNat] at hc
      rw [List.mem_singleton.mp h]
      exact hc
    · split at h
      · have hall : ∀ e ∈ ['i', Char.ofNat 0x307], e.isUpper = false :=
          List.forall_mem_cons.mpr ⟨by decide, List.forall_mem_singleton.mpr (by decide)⟩
        exact hall d h
      · next hascii _ =>
        -- moved or not, the character is beyond the capitals
        obtain rfl := List.mem_singleton.mp h
        refine isUpper_ofNat ?_
        cases hmove : lowerShifts.findSome? (·.move? c.toNat) with
        | none =>
            rw [Option.getD_none]
            omega
        | some m =>
            obtain ⟨r, hr, hm⟩ := List.exists_of_findSome?_eq_some hmove
            exact lt_of_move? hr hm

/-- A text in lower case has no capital of ASCII. -/
theorem isUpper_of_mem_lowerAfter {before s : List Char} {d : Char}
    (h : d ∈ lowerAfter before s) : d.isUpper = false := by
  induction s generalizing before with
  | nil => cases h
  | cons c rest ih =>
      rw [lowerAfter] at h
      rcases List.mem_append.mp h with hfirst | hrest
      · exact isUpper_of_mem_lowerBetween hfirst
      · exact ih hrest

-- ====================================================== ASCII

/-- An ASCII string is lowered letter by letter. -/
theorem toList_lowered_of_ascii {s : String} (h : ∀ c ∈ s.toList, c.toNat < 128) :
    (lowered s).toList = s.toList.map Char.toLower := by
  unfold lowered lower
  rw [String.toList_ofList, lowerAfter_ascii [] s.toList h]

/-- An ASCII string without capitals is its own lower case. -/
theorem lowered_eq_self {s : String} (h : ∀ c ∈ s.toList, c.toNat < 128 ∧ c.toLower = c) :
    lowered s = s := by
  unfold lowered lower
  rw [lowerAfter_eq_self [] h, String.ofList_toList]

end ApiCommands.Text
