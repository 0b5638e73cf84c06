/-
The form of slugs, and what a slug leaves of a text.

`IsSlug` is the form command and branch names have: words of lower-case ASCII
letters and digits, none of them empty, with single hyphens between them. The
words are given outright, so two slugs with a hyphen between them are a slug
by putting their words in a row (`IsSlug.hyphen`); every template of a command
name is built that way. `slug` gives a text of this form or the empty text
(`isSlug_ofChars`), and leaves these as they are (`ofChars_eq_self_iff`).

# Hyphens

The words of two texts with a hyphen between them are those of the one and then
those of the other, since lowering does not look over the hyphen
(`words_append_hyphen`). So their slugs stand in a row, `hyphenated` as they are: with
a hyphen between them if neither is empty (`ofChars_append_hyphen`). What else stands
around the hyphen of the texts does not matter.

# Collapsed runs

A slug is also the lowered text with each longest run of other characters made one
hyphen (`collapse`), and without the hyphens at its ends (`ofChars_eq_trimBy_collapse`).
The induction goes from one run to the next: in front of a run there is a word, which
stays, and behind it everything starts anew. There the hyphen for the run is what
stands between two slugs.
-/
import ApiCommands.Naming.Slug
import ApiCommands.Proofs.Text.LetterCase
import ApiCommands.Proofs.Text.Pieces

namespace ApiCommands

namespace Text

/-- Two rows of pieces with the separator between them are one row. -/
theorem join_append (sep : List Char) {front back : List (List Char)} (hfront : front ≠ [])
    (hback : back ≠ []) : join sep (front ++ back) = join sep front ++ sep ++ join sep back := by
  induction front with
  | nil => exact absurd rfl hfront
  | cons piece more ih =>
      cases more with
      | nil =>
          cases back with
          | nil => exact absurd rfl hback
          | cons next rest => simp [join, List.intercalate_cons_cons]
      | cons next rest =>
          have hrest := ih (by simp)
          simp only [join, List.cons_append, List.intercalate_cons_cons] at hrest ⊢
          rw [hrest]
          simp

/-- A run is not empty and holds no separator. -/
theorem ne_nil_of_mem_runsWithout {isSep : Char → Bool} {s run : List Char}
    (h : run ∈ runsWithout isSep s) : run ≠ [] ∧ ∀ c ∈ run, isSep c = false := by
  unfold runsWithout at h
  obtain ⟨hmem, hne⟩ := List.mem_filter.mp h
  refine ⟨by simpa using hne, not_isSep_of_mem_splitWhere hmem⟩

end Text

namespace Slug

/-- A word of a slug: one letter or digit, or more. -/
def IsWord (w : List Char) : Prop := w ≠ [] ∧ ∀ c ∈ w, isWordChar c = true

/-- A text is a word if the check of its characters says so. -/
theorem IsWord.of_all {w : List Char} (hne : w ≠ []) (h : w.all isWordChar = true) : IsWord w :=
  ⟨hne, List.all_eq_true.mp h⟩

/-- A slug: words with single hyphens between them, at least one. -/
def IsSlug (s : List Char) : Prop :=
  ∃ words, words ≠ [] ∧ (∀ w ∈ words, IsWord w) ∧ s = Text.join ['-'] words

/-- A word is a slug. -/
theorem IsWord.isSlug {w : List Char} (h : IsWord w) : IsSlug w := by
  refine ⟨[w], by simp, fun v hv => ?_, ?_⟩
  · rw [List.mem_singleton.mp hv]
    exact h
  · simp [Text.join]

/-- Two slugs with a hyphen between them are a slug. -/
theorem IsSlug.hyphen {s t : List Char} (hs : IsSlug s) (ht : IsSlug t) :
    IsSlug (s ++ '-' :: t) := by
  obtain ⟨front, hfront, hwordsFront, rfl⟩ := hs
  obtain ⟨back, hback, hwordsBack, rfl⟩ := ht
  refine ⟨front ++ back, by simp [hfront], fun w hw => ?_, ?_⟩
  · rcases List.mem_append.mp hw with h | h
    · exact hwordsFront w h
    · exact hwordsBack w h
  · rw [Text.join_append ['-'] hfront hback]
    simp

theorem IsSlug.ne_nil {s : List Char} (h : IsSlug s) : s ≠ [] := by
  obtain ⟨pieces, hne, hwords, rfl⟩ := h
  obtain ⟨w, more, rfl⟩ := List.exists_cons_of_ne_nil hne
  intro hnil
  -- an empty text holds no word, with its hyphens or without
  have hflat : (Text.join ['-'] (w :: more)).filter (· != '-') = (w :: more).flatten :=
    Text.filter_join fun w hw hmem => absurd ((hwords w hw).2 '-' hmem) (by decide)
  rw [hnil] at hflat
  exact (hwords w List.mem_cons_self).1 (List.append_eq_nil_iff.mp hflat.symm).1

-- ====================================================== the words of a text

/-- The words a text holds as it is written, without lowering it. -/
def runs (s : List Char) : List (List Char) := Text.runsWithout (fun c => !isWordChar c) s

theorem isWord_of_mem_runs {s w : List Char} (h : w ∈ runs s) : IsWord w := by
  obtain ⟨hne, hchars⟩ := Text.ne_nil_of_mem_runsWithout h
  exact ⟨hne, fun c hc => by simpa using hchars c hc⟩

/-- Words with hyphens between them are read back. -/
theorem runs_join {pieces : List (List Char)} (h : ∀ w ∈ pieces, IsWord w) :
    runs (Text.join ['-'] pieces) = pieces :=
  Text.runsWithout_join (by decide) fun w hw => ⟨(h w hw).1, fun c hc => by simp [(h w hw).2 c hc]⟩

theorem words_eq_runs (s : List Char) : words s = runs (Text.lower s) := rfl

/-- What `slug` leaves of a text is a slug, unless it leaves nothing. -/
theorem isSlug_ofChars {s : List Char} (h : ofChars s ≠ []) : IsSlug (ofChars s) := by
  refine ⟨words s, fun hnil => h ?_, fun w hw => isWord_of_mem_runs hw, rfl⟩
  unfold ofChars
  rw [hnil]
  rfl

-- ====================================================== slugs of slugs

/-- What is true of the word characters among the first 128 is true of every one. -/
theorem of_isWordChar {p : Char → Prop} {c : Char}
    (h : ∀ n < 128, isWordChar (Char.ofNat n) = true → p (Char.ofNat n))
    (hc : isWordChar c = true) : p c := by
  have hascii : c.toNat < 128 := by
    simp only [isWordChar, Bool.or_eq_true, Bool.and_eq_true, decide_eq_true_eq, Char.le_def,
      UInt32.le_iff_toNat_le] at hc
    have hz : 'z'.val.toNat = 122 := rfl
    have h9 : '9'.val.toNat = 57 := rfl
    show c.val.toNat < 128
    omega
  have hword := h c.toNat hascii
  rw [Char.ofNat_toNat] at hword
  exact hword hc

theorem IsWord.lower_eq {w : List Char} (h : IsWord w) : Text.lower w = w :=
  Text.lowerAfter_eq_self [] fun c hc =>
    of_isWordChar (p := fun c => c.toNat < 128 ∧ c.toLower = c) (by decide) (h.2 c hc)

theorem IsSlug.lower_eq {s : List Char} (h : IsSlug s) : Text.lower s = s := by
  obtain ⟨pieces, -, hwords, rfl⟩ := h
  have hmap : pieces.map Text.lower = pieces.map id :=
    List.map_congr_left fun w hw => (hwords w hw).lower_eq
  rw [Text.lower_join (Or.inr rfl), hmap, List.map_id]

/-- A text of this form is its own slug. -/
theorem IsSlug.ofChars_eq {s : List Char} (h : IsSlug s) : ofChars s = s := by
  unfold ofChars
  rw [words_eq_runs, h.lower_eq]
  obtain ⟨pieces, -, hwords, rfl⟩ := h
  rw [runs_join hwords]

/-- The slugs and the empty text, and no other texts, are left as they are. -/
theorem ofChars_eq_self_iff {s : List Char} : ofChars s = s ↔ s = [] ∨ IsSlug s := by
  constructor
  · intro h
    by_cases hnil : s = []
    · exact Or.inl hnil
    · rw [← h] at hnil ⊢
      exact Or.inr (isSlug_ofChars hnil)
  · rintro (rfl | h)
    · rfl
    · exact h.ofChars_eq

-- ====================================================== hyphens

/-- Two texts with a hyphen between them, or the one of them that is not empty. -/
def hyphenated (front back : List Char) : List Char :=
  if front = [] then back else if back = [] then front else front ++ '-' :: back

/-- Two rows of words are put in a row with a hyphen between them, if neither is empty. -/
theorem join_append_hyphenated {front back : List (List Char)} (hfront : ∀ w ∈ front, IsWord w)
    (hback : ∀ w ∈ back, IsWord w) :
    Text.join ['-'] (front ++ back)
      = hyphenated (Text.join ['-'] front) (Text.join ['-'] back) := by
  have hfilled : ∀ pieces : List (List Char), (∀ w ∈ pieces, IsWord w) → pieces ≠ [] →
      Text.join ['-'] pieces ≠ [] := fun pieces hwords hne =>
    IsSlug.ne_nil ⟨pieces, hne, hwords, rfl⟩
  unfold hyphenated
  by_cases hf : front = []
  · subst hf
    rw [if_pos (by rfl), List.nil_append]
  · by_cases hb : back = []
    · subst hb
      rw [if_neg (hfilled front hfront hf), if_pos (by rfl), List.append_nil]
    · rw [if_neg (hfilled front hfront hf), if_neg (hfilled back hback hb),
        Text.join_append ['-'] hf hb, List.append_assoc, List.singleton_append]

/-- The words on the two sides of a hyphen do not depend on each other. -/
theorem words_append_hyphen (s t : List Char) : words (s ++ '-' :: t) = words s ++ words t := by
  rw [words_eq_runs]
  unfold Text.lower
  rw [Text.lowerAfter_append_cons (Or.inr rfl)]
  exact Text.runsWithout_append (by decide) _ _

theorem ofChars_append_hyphen (s t : List Char) :
    ofChars (s ++ '-' :: t) = hyphenated (ofChars s) (ofChars t) := by
  unfold ofChars
  rw [words_append_hyphen]
  exact join_append_hyphenated (fun _ => isWord_of_mem_runs) fun _ => isWord_of_mem_runs

-- ====================================================== collapsed runs

/-- A text with each longest run of characters that are in no slug's words made one hyphen. -/
def collapse (s : List Char) : List Char :=
  match s with
  | [] => []
  | c :: rest =>
    if isWordChar c then c :: collapse rest
    else '-' :: collapse (rest.dropWhile fun d => !isWordChar d)
termination_by s.length
decreasing_by
  · simp
  · exact Nat.lt_succ_of_le (List.dropWhile_sublist _).length_le

variable {w : List Char}

theorem collapse_of_isWordChar (h : ∀ c ∈ w, isWordChar c = true) : collapse w = w := by
  induction w with
  | nil => rw [collapse]
  | cons c rest ih =>
      obtain ⟨hc, hrest⟩ := List.forall_mem_cons.mp h
      rw [collapse, if_pos hc, ih hrest]

/-- In front of the first run there is a word, and behind it everything starts anew. -/
theorem collapse_append_cons {c : Char} (h : ∀ d ∈ w, isWordChar d = true)
    (hc : isWordChar c = false) (rest : List Char) :
    collapse (w ++ c :: rest) = w ++ '-' :: collapse (rest.dropWhile fun d => !isWordChar d) := by
  induction w with
  | nil =>
      rw [List.nil_append, collapse, hc, if_neg Bool.false_ne_true]
      rfl
  | cons d more ih =>
      obtain ⟨hd, hmore⟩ := List.forall_mem_cons.mp h
      rw [List.cons_append, collapse, if_pos hd, ih hmore, List.cons_append]

/-- A hyphen is in no word. -/
theorem not_hyphen_of_isWordChar {c : Char} (h : isWordChar c = true) : (c == '-') = false := by
  rw [beq_eq_false_iff_ne]
  rintro rfl
  exact absurd h (by decide)

/-- Behind a run there is a character of a word, or nothing. -/
theorem head?_collapse_dropWhile (s : List Char) :
    (collapse (s.dropWhile fun c => !isWordChar c)).head?.any (· == '-') = false := by
  cases hs : s.dropWhile fun c => !isWordChar c with
  | nil =>
      rw [collapse]
      rfl
  | cons c rest =>
      have hhead := List.head?_dropWhile_not (fun c => !isWordChar c) s
      rw [hs] at hhead
      have hc : isWordChar c = true := by simpa using hhead
      rw [collapse, if_pos hc]
      exact not_hyphen_of_isWordChar hc

theorem trimBy_of_isWordChar (h : ∀ c ∈ w, isWordChar c = true) :
    Text.trimBy (· == '-') w = w := by
  refine Text.trimBy_eq_self ?_ ?_
  · cases hhead : w.head? with
    | none => rfl
    | some c => exact not_hyphen_of_isWordChar (h c (List.mem_of_head? hhead))
  · cases hlast : w.getLast? with
    | none => rfl
    | some c => exact not_hyphen_of_isWordChar (h c (List.mem_of_getLast? hlast))

/-- The hyphen behind a word is trimmed unless something is left on both sides of it. -/
theorem trimBy_append_hyphen {behind : List Char} (h : ∀ c ∈ w, isWordChar c = true)
    (hbehind : behind.head?.any (· == '-') = false) :
    Text.trimBy (· == '-') (w ++ '-' :: behind)
      = hyphenated w (Text.trimBy (· == '-') behind) := by
  unfold hyphenated
  by_cases hw : w = []
  · subst hw
    rw [if_pos rfl, List.nil_append, Text.trimBy_cons_of_pos (by rfl)]
  · rw [if_neg hw]
    cases behind with
    | nil =>
        rw [Text.trimBy_concat_of_pos (by rfl), trimBy_of_isWordChar h]
        rfl
    | cons c rest =>
        have hfront : (w ++ ['-']).head?.any (· == '-') = false := by
          obtain ⟨d, more, rfl⟩ := List.exists_cons_of_ne_nil hw
          exact not_hyphen_of_isWordChar (h d List.mem_cons_self)
        have hrow : w ++ '-' :: c :: rest = (w ++ ['-']) ++ c :: rest := by simp
        rw [hrow, Text.trimBy_append_cons hfront (by simp) hbehind,
          Text.trimBy_cons_of_neg hbehind, if_neg (List.cons_ne_nil _ _), List.append_assoc,
          List.singleton_append]

/-- A word is read as itself, and nothing as no word. -/
theorem join_runs_of_isWordChar (h : ∀ c ∈ w, isWordChar c = true) :
    Text.join ['-'] (runs w) = w := by
  unfold runs Text.runsWithout
  rw [Text.splitWhere_of_not_isSep fun c hc => by simp [h c hc]]
  cases w with
  | nil => rfl
  | cons c rest => simp [Text.join]

/-- A text is cut at the first character that is in no word, if it has any. -/
theorem isWordChar_or_exists_append (s : List Char) :
    (∀ c ∈ s, isWordChar c = true)
      ∨ ∃ w c rest, s = w ++ c :: rest ∧ (∀ d ∈ w, isWordChar d = true) ∧ isWordChar c = false := by
  have hword : ∀ c ∈ s.takeWhile isWordChar, isWordChar c = true :=
    List.all_eq_true.mp List.all_takeWhile
  have hsplit : s.takeWhile isWordChar ++ s.dropWhile isWordChar = s :=
    List.takeWhile_append_dropWhile
  cases hrest : s.dropWhile isWordChar with
  | nil =>
      rw [hrest, List.append_nil] at hsplit
      rw [hsplit] at hword
      exact Or.inl hword
  | cons c rest =>
      have hhead := List.head?_dropWhile_not isWordChar s
      rw [hrest] at hhead hsplit
      exact Or.inr ⟨_, c, rest, hsplit.symm, hword, by simpa using hhead⟩

/-- A text with its runs collapsed, and without the hyphens at its ends, is the words it holds. -/
theorem trimBy_collapse (s : List Char) :
    Text.trimBy (· == '-') (collapse s) = Text.join ['-'] (runs s) := by
  induction hlength : s.length using Nat.strongRecOn generalizing s with
  | ind n ih =>
    rcases isWordChar_or_exists_append s with hs | ⟨w, c, rest, rfl, hw, hc⟩
    · rw [collapse_of_isWordChar hs, trimBy_of_isWordChar hs, join_runs_of_isWordChar hs]
    · -- what follows the run that starts here is shorter
      generalize hbehind : (rest.dropWhile fun d => !isWordChar d) = behind
      have hshorter : behind.length ≤ rest.length := by
        rw [← hbehind]
        exact (List.dropWhile_sublist _).length_le
      have hruns : runs (w ++ c :: rest) = runs w ++ runs behind := by
        rw [← hbehind]
        unfold runs
        rw [Text.runsWithout_append (by simp [hc]), Text.runsWithout_dropWhile]
      have hstart : (collapse behind).head?.any (· == '-') = false := by
        rw [← hbehind]
        exact head?_collapse_dropWhile rest
      rw [List.length_append, List.length_cons] at hlength
      rw [collapse_append_cons hw hc, hbehind]
      calc Text.trimBy (· == '-') (w ++ '-' :: collapse behind)
          = hyphenated w (Text.trimBy (· == '-') (collapse behind)) :=
            trimBy_append_hyphen hw hstart
        _ = hyphenated (Text.join ['-'] (runs w)) (Text.join ['-'] (runs behind)) := by
            rw [join_runs_of_isWordChar hw, ih _ (by omega) behind rfl]
        _ = Text.join ['-'] (runs w ++ runs behind) :=
            (join_append_hyphenated (fun _ => isWord_of_mem_runs) fun _ => isWord_of_mem_runs).symm
        _ = Text.join ['-'] (runs (w ++ c :: rest)) := by rw [hruns]

theorem ofChars_eq_trimBy_collapse (s : List Char) :
    ofChars s = Text.trimBy (· == '-') (collapse (Text.lower s)) :=
  (trimBy_collapse (Text.lower s)).symm

-- ====================================================== strings

@[simp]
theorem toList_slug (s : String) : (slug s).toList = ofChars s.toList := String.toList_ofList

theorem slug_eq_empty_iff {s : String} : slug s = "" ↔ ofChars s.toList = [] := by
  rw [← String.toList_eq_nil_iff, toList_slug]

/-- The string is a slug. -/
def IsName (s : String) : Prop := IsSlug s.toList

/-- A slug that is not empty is a slug by its form. -/
theorem isName_slug {s : String} (h : slug s ≠ "") : IsName (slug s) := by
  unfold IsName
  rw [toList_slug]
  exact isSlug_ofChars fun hnil => h (slug_eq_empty_iff.mpr hnil)

theorem IsName.lowered_eq {s : String} (h : IsName s) : Text.lowered s = s := by
  unfold Text.lowered
  rw [IsSlug.lower_eq h, String.ofList_toList]

/-- Two names with a hyphen between them are a name. -/
theorem IsName.hyphen {s t : String} (hs : IsName s) (ht : IsName t) : IsName (s ++ "-" ++ t) := by
  have hlist : (s ++ "-" ++ t).toList = s.toList ++ '-' :: t.toList := by simp
  unfold IsName
  rw [hlist]
  exact IsSlug.hyphen hs ht

/-- A number is a name. -/
theorem isName_toString (n : Nat) : IsName (toString n) := by
  refine IsWord.isSlug ⟨?_, fun c hc => ?_⟩
  · rw [Nat.toString_eq_ofList_toDigits, String.toList_ofList]
    exact Nat.toDigits_ne_nil
  · exact Text.forall_of_isDigit (p := isWordChar) (by decide)
      (Text.isDigit_of_mem_toString hc)

/-- A string is its own slug exactly if it is empty or a slug by its form. -/
theorem slug_eq_self_iff {s : String} : slug s = s ↔ s = "" ∨ IsName s := by
  rw [← String.toList_inj, toList_slug, ofChars_eq_self_iff, String.toList_eq_nil_iff]
  rfl

/-- The slugs on the two sides of a hyphen do not depend on each other. -/
theorem slug_append_hyphen (s t : String) :
    slug (s ++ "-" ++ t)
      = if slug s = "" then slug t else if slug t = "" then slug s
        else slug s ++ "-" ++ slug t := by
  have hlist : (s ++ "-" ++ t).toList = s.toList ++ '-' :: t.toList := by simp
  have hrow : (slug s ++ "-" ++ slug t).toList = ofChars s.toList ++ '-' :: ofChars t.toList := by
    simp
  refine String.toList_injective ?_
  rw [toList_slug, hlist, ofChars_append_hyphen, apply_ite String.toList, apply_ite String.toList,
    hrow, toList_slug, toList_slug]
  simp only [slug_eq_empty_iff]
  rfl

/-- For all texts: a slug is empty or has the form of a slug. The empty text and the texts of this
form, and no others, are their own slugs, so a slug is its own slug. The slug of two texts with a
hyphen between them is their slugs with a hyphen between them, or the one that is not empty. And
it is the lowered text with each longest run of other characters made one hyphen, without hyphens
at its ends. -/
theorem slug_wellFormed_fixed_joined (s t : String) :
    (slug s = "" ∨ IsName (slug s))
      ∧ (slug s = s ↔ s = "" ∨ IsName s)
      ∧ slug (slug s) = slug s
      ∧ slug (s ++ "-" ++ t)
        = (if slug s = "" then slug t else if slug t = "" then slug s
          else slug s ++ "-" ++ slug t)
      ∧ (slug s).toList = Text.trimBy (· == '-') (collapse (Text.lower s.toList)) := by
  have hform : slug s = "" ∨ IsName (slug s) := by
    by_cases h : slug s = ""
    · exact Or.inl h
    · exact Or.inr (isName_slug h)
  refine ⟨hform, slug_eq_self_iff, slug_eq_self_iff.mpr hform, slug_append_hyphen s t, ?_⟩
  rw [toList_slug]
  exact ofChars_eq_trimBy_collapse s.toList

-- junk on both sides of the hyphen goes with it
example : slug ("Foo! " ++ "-" ++ "-_bar") = "foo-bar" := by decide

end Slug

end ApiCommands
