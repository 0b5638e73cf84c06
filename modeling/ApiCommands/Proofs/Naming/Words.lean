/-
Words of a text, and what the cases keep of them.

# Where words end

`FallsInto` reads a text from its end and says what the next character in front
does to the words: it stands in no word, it is a word of its own, or it is put
in front of the first word. Splitting follows it (`fallsInto_ofPrepared`), and
what can be said about words is an induction on it: in a row they are the
letters and digits of the text (`FallsInto.flatten_eq`), no hump stands inside a
word (`FallsInto.noHump`), and between two neighbours there is a gap or a hump
(`FallsInto.separated`).

# What is kept

Cases put words together again, with separators that are no letters or digits,
and change letters in case only. On ASCII, where a letter has one upper case and
one lower case, nothing else is changed: without its separators each case of a
text is the letters and digits of the text in lower case. For the case that goes
down to fragments this takes that fragments in a row are their word
(`flatten_flatMap_pieces`).
-/
import ApiCommands.Proofs.Naming.Fragments
import ApiCommands.Proofs.Text.LetterCase
import ApiCommands.Proofs.Text.Pieces
import Mathlib.Data.List.Chain

namespace ApiCommands.Words

open Text (isAlphanumeric)

-- ====================================================== where words end

/-- A lower-case letter with an upper-case letter behind it. -/
def IsHump (c d : Char) : Prop := Text.isLower c = true ∧ Text.isUpper d = true

/-- The words a text falls into. -/
inductive FallsInto : List Char → List (List Char) → Prop where
  | done : FallsInto [] []
  | gap {c : Char} {rest : List Char} {words : List (List Char)}
      (hc : isAlphanumeric c = false) (hrest : FallsInto rest words) :
      FallsInto (c :: rest) words
  | word {c : Char} {rest : List Char} {words : List (List Char)}
      (hc : isAlphanumeric c = true)
      (hends : ∀ d ∈ rest.head?, isAlphanumeric d = true → IsHump c d)
      (hrest : FallsInto rest words) : FallsInto (c :: rest) ([c] :: words)
  | longer {c d : Char} {rest word : List Char} {words : List (List Char)}
      (hc : isAlphanumeric c = true) (hd : isAlphanumeric d = true) (hhump : ¬IsHump c d)
      (hrest : FallsInto (d :: rest) ((d :: word) :: words)) :
      FallsInto (c :: d :: rest) ((c :: d :: word) :: words)

/-- The humps of a text start with its first character. -/
theorem exists_humps_cons (c : Char) (s : List Char) :
    ∃ word more, humps (c :: s) = (c :: word) :: more := by
  cases s with
  | nil => exact ⟨[], [], rfl⟩
  | cons d rest =>
      rw [humps]
      split
      · exact ⟨[], _, rfl⟩
      · split
        · exact ⟨[], [], rfl⟩
        · exact ⟨_, _, rfl⟩

/-- Empty pieces between separators have no words, so they need not be left out. -/
theorem ofPrepared_eq (s : List Char) :
    ofPrepared s = (Text.splitWhere (fun c => !isAlphanumeric c) s).flatMap humps := by
  unfold ofPrepared Text.runsWithout
  generalize Text.splitWhere (fun c => !isAlphanumeric c) s = pieces
  induction pieces with
  | nil => rfl
  | cons piece more ih =>
      cases piece with
      | nil => simpa [humps] using ih
      | cons c rest => simp [ih]

/-- A character that is no letter or digit stands in no word. -/
theorem ofPrepared_cons_gap {c : Char} (hc : isAlphanumeric c = false) (rest : List Char) :
    ofPrepared (c :: rest) = ofPrepared rest := by
  rw [ofPrepared_eq, ofPrepared_eq]
  simp [Text.splitWhere, hc, humps]

/-- The letters and digits up to the first gap start with the first character. -/
theorem exists_splitWhere_cons {c : Char} (hc : isAlphanumeric c = true) (rest : List Char) :
    ∃ piece more, Text.splitWhere (fun c => !isAlphanumeric c) rest = piece :: more
      ∧ Text.splitWhere (fun c => !isAlphanumeric c) (c :: rest) = (c :: piece) :: more := by
  obtain ⟨piece, more, hpieces⟩ :=
    List.exists_cons_of_ne_nil (Text.splitWhere_ne_nil (fun c => !isAlphanumeric c) rest)
  refine ⟨piece, more, hpieces, ?_⟩
  simp [Text.splitWhere, hc, hpieces]

/-- A letter or digit with a gap or a hump behind it is a word. -/
theorem ofPrepared_cons_word {c : Char} {rest : List Char} (hc : isAlphanumeric c = true)
    (hends : ∀ d ∈ rest.head?, isAlphanumeric d = true → IsHump c d) :
    ofPrepared (c :: rest) = [c] :: ofPrepared rest := by
  obtain ⟨piece, more, hrest, hcons⟩ := exists_splitWhere_cons hc rest
  rw [ofPrepared_eq, ofPrepared_eq, hrest, hcons, List.flatMap_cons, List.flatMap_cons]
  cases rest with
  | nil =>
      obtain ⟨rfl, rfl⟩ := List.cons.inj (hrest.symm.trans (by rfl : _ = [[]]))
      simp [humps]
  | cons d rest =>
      by_cases hd : isAlphanumeric d = true
      · obtain ⟨piece', more', -, hcons'⟩ := exists_splitWhere_cons hd rest
        obtain ⟨rfl, rfl⟩ := List.cons.inj (hrest.symm.trans hcons')
        have hhump := hends d rfl hd
        rw [humps, if_pos (by simp [hhump.1, hhump.2])]
        rfl
      · -- the text goes on with a gap, so the first piece is empty
        have hgap : Text.splitWhere (fun c => !isAlphanumeric c) (d :: rest)
            = [] :: Text.splitWhere (fun c => !isAlphanumeric c) rest := by
          simp [Text.splitWhere, hd]
        obtain ⟨rfl, rfl⟩ := List.cons.inj (hrest.symm.trans hgap)
        simp [humps]

/-- Any other letter or digit is put in front of the first word. -/
theorem ofPrepared_cons_longer {c d : Char} (hc : isAlphanumeric c = true)
    (hd : isAlphanumeric d = true) (hhump : ¬IsHump c d) (rest : List Char) :
    ∃ word words, ofPrepared (d :: rest) = (d :: word) :: words
      ∧ ofPrepared (c :: d :: rest) = (c :: d :: word) :: words := by
  obtain ⟨piece, more, -, hrest⟩ := exists_splitWhere_cons hd rest
  obtain ⟨piece', more', hrest', hcons⟩ := exists_splitWhere_cons hc (d :: rest)
  obtain ⟨rfl, rfl⟩ := List.cons.inj (hrest'.symm.trans hrest)
  obtain ⟨word, words, hhumps⟩ := exists_humps_cons d piece
  refine ⟨word, words ++ more'.flatMap humps, ?_, ?_⟩
  · rw [ofPrepared_eq, hrest, List.flatMap_cons, hhumps]
    rfl
  · have hnone : (Text.isLower c && Text.isUpper d) = false := by
      simpa [IsHump] using hhump
    rw [ofPrepared_eq, hcons, List.flatMap_cons, humps, hnone, hhumps]
    rfl

/-- Splitting puts a text into the words it falls into. -/
theorem fallsInto_ofPrepared (s : List Char) : FallsInto s (ofPrepared s) := by
  induction s with
  | nil => exact .done
  | cons c rest ih =>
      by_cases hc : isAlphanumeric c = true
      · by_cases hends : ∀ d ∈ rest.head?, isAlphanumeric d = true → IsHump c d
        · rw [ofPrepared_cons_word hc hends]
          exact .word hc hends ih
        · cases rest with
          | nil => simp at hends
          | cons d rest =>
              obtain ⟨hd, hhump⟩ : isAlphanumeric d = true ∧ ¬IsHump c d := by
                simpa using hends
              obtain ⟨word, words, hrest, hcons⟩ := ofPrepared_cons_longer hc hd hhump rest
              rw [hrest] at ih
              rw [hcons]
              exact .longer hc hd hhump ih
      · have hc : isAlphanumeric c = false := by simpa using hc
        rw [ofPrepared_cons_gap hc]
        exact .gap hc ih

/-- Replacements that each need a character the text does not have leave it as it is. -/
theorem prepared_eq_self {t : Tables} {s : List Char}
    (h : ∀ r ∈ t.wordReplacements, ∃ c ∈ r.1.toList, c ∉ s) : prepared t s = s := by
  unfold prepared
  generalize t.wordReplacements = replacements at h
  induction replacements with
  | nil => rfl
  | cons r more ih =>
      obtain ⟨c, hc, hs⟩ := h r List.mem_cons_self
      rw [List.foldl_cons]
      show List.foldl _ (Text.replace r.1.toList r.2.toList s) more = s
      rw [Text.replace_eq_self hc hs]
      exact ih fun next hnext => h next (List.mem_cons_of_mem _ hnext)

namespace FallsInto

variable {s : List Char} {words : List (List Char)}

/-- The words in a row are the letters and digits of the text. -/
theorem flatten_eq (h : FallsInto s words) : words.flatten = s.filter isAlphanumeric := by
  induction h with
  | done => rfl
  | gap hc _ ih => simp [hc, ih]
  | word hc _ _ ih => simp [hc, ih]
  | longer hc _ _ _ ih => simpa [hc] using ih

theorem ne_nil (h : FallsInto s words) : ∀ word ∈ words, word ≠ [] := by
  induction h with
  | done => simp
  | gap _ _ ih => exact ih
  | word _ _ _ ih => simpa using ih
  | longer _ _ _ _ ih => simpa using ih

theorem noHump (h : FallsInto s words) :
    ∀ word ∈ words, word.IsChain fun c d => ¬IsHump c d := by
  induction h with
  | done => simp
  | gap _ _ ih => exact ih
  | word _ _ _ ih => simpa using ih
  | longer _ _ hhump _ ih =>
      intro word hword
      rcases List.mem_cons.mp hword with rfl | hword
      · exact List.isChain_cons_cons.mpr ⟨hhump, ih _ List.mem_cons_self⟩
      · exact ih word (List.mem_cons_of_mem _ hword)

/-- The first word stands in the text behind a gap, or where the text starts. -/
theorem exists_gap {word : List Char} {more : List (List Char)} (h : FallsInto s (word :: more)) :
    ∃ gap after, s = gap ++ word ++ after ∧ (∀ c ∈ gap, isAlphanumeric c = false)
      ∧ after.filter isAlphanumeric = more.flatten := by
  generalize hwords : word :: more = words at h
  induction h generalizing word more with
  | done => cases hwords
  | @gap c _ _ hc _ ih =>
      obtain ⟨gap, after, rfl, hgap, hafter⟩ := ih hwords
      exact ⟨c :: gap, after, rfl, List.forall_mem_cons.mpr ⟨hc, hgap⟩, hafter⟩
  | word _ _ hrest _ =>
      obtain ⟨rfl, rfl⟩ := List.cons.inj hwords
      exact ⟨[], _, rfl, by simp, hrest.flatten_eq.symm⟩
  | @longer c d _ _ _ _ hd _ _ ih =>
      obtain ⟨rfl, rfl⟩ := List.cons.inj hwords
      obtain ⟨gap, after, heq, hgap, hafter⟩ := ih rfl
      -- the text starts with a letter or digit, so there is no gap at its start
      cases gap with
      | nil => exact ⟨[], after, by rw [heq]; rfl, by simp, hafter⟩
      | cons g gap =>
          obtain rfl : d = g := (List.cons.inj heq).1
          simp [hd] at hgap

end FallsInto

/-- `v` and `w` stand in the text with nothing but a gap between them; what stands before and after
them are the words `front` and `back`. Where there is no gap, a hump is between them. -/
def Separated (s : List Char) (front : List (List Char)) (v w : List Char)
    (back : List (List Char)) : Prop :=
  ∃ before gap after, s = before ++ v ++ gap ++ w ++ after
    ∧ before.filter isAlphanumeric = front.flatten
    ∧ (∀ c ∈ gap, isAlphanumeric c = false)
    ∧ after.filter isAlphanumeric = back.flatten
    ∧ (gap ≠ [] ∨ ∃ c ∈ v.getLast?, ∃ d ∈ w.head?, IsHump c d)

/-- Two words next to each other have a gap or a hump between them. -/
theorem FallsInto.separated {s v w : List Char} {words front back : List (List Char)}
    (h : FallsInto s words) (hsplit : words = front ++ v :: w :: back) :
    Separated s front v w back := by
  induction h generalizing front v with
  | done => simp at hsplit
  | @gap c _ _ hc _ ih =>
      obtain ⟨before, gap, after, rfl, hbefore, hgap, hafter, hsep⟩ := ih hsplit
      exact ⟨c :: before, gap, after, rfl, by simpa [hc] using hbefore, hgap, hafter, hsep⟩
  | @word c rest words hc hends hrest ih =>
      cases front with
      | nil =>
          obtain ⟨rfl, rfl⟩ := List.cons.inj hsplit
          obtain ⟨gap, after, heq, hgap, hafter⟩ := hrest.exists_gap
          refine ⟨[], gap, after, by rw [heq]; simp, rfl, hgap, hafter, ?_⟩
          by_cases hnone : gap = []
          · -- without a gap the second word starts right behind `c`
            subst hnone
            obtain ⟨d, tail, rfl⟩ := List.exists_cons_of_ne_nil (hrest.ne_nil w List.mem_cons_self)
            have hd : d ∈ ((d :: tail) :: back).flatten := by simp
            rw [hrest.flatten_eq] at hd
            refine Or.inr ⟨c, rfl, d, rfl, hends d ?_ (List.mem_filter.mp hd).2⟩
            rw [heq]
            rfl
          · exact Or.inl hnone
      | cons first front =>
          obtain ⟨rfl, hwords⟩ := List.cons.inj hsplit
          obtain ⟨before, gap, after, rfl, hbefore, hgap, hafter, hsep⟩ := ih hwords
          exact ⟨c :: before, gap, after, rfl, by simp [hc, hbefore], hgap, hafter, hsep⟩
  | @longer c d rest word words hc hd _ _ ih =>
      cases front with
      | nil =>
          obtain ⟨rfl, rfl⟩ := List.cons.inj hsplit
          obtain ⟨before, gap, after, heq, hbefore, hgap, hafter, hsep⟩ := @ih _ [] rfl
          -- nothing comes before the first word, since the text starts with it
          cases before with
          | nil =>
              refine ⟨[], gap, after, by rw [heq]; rfl, rfl, hgap, hafter, ?_⟩
              rw [List.getLast?_cons_cons]
              exact hsep
          | cons b before =>
              obtain rfl : d = b := (List.cons.inj heq).1
              simp [hd] at hbefore
      | cons first front =>
          obtain ⟨rfl, hwords⟩ := List.cons.inj hsplit
          obtain ⟨before, gap, after, heq, hbefore, hgap, hafter, hsep⟩ :=
            @ih _ ((d :: word) :: front) (by rw [hwords]; rfl)
          exact ⟨c :: before, gap, after, by rw [heq]; rfl, by simpa [hc] using hbefore, hgap,
            hafter, hsep⟩

-- ====================================================== what is kept

/-- An ASCII letter or digit. -/
def IsPlain (c : Char) : Prop := c.toNat < 128 ∧ isAlphanumeric c = true

/-- What is true of the plain characters among the first 128 is true of every plain one. -/
theorem IsPlain.of_all {p : Char → Prop} {c : Char}
    (h : ∀ n < 128, isAlphanumeric (Char.ofNat n) = true → p (Char.ofNat n)) (hc : IsPlain c) :
    p c := by
  have hplain := h c.toNat hc.1
  rw [Char.ofNat_toNat] at hplain
  exact hplain hc.2

/-- Lower case keeps characters plain, and does so once and for all. -/
theorem IsPlain.toLower {c : Char} (hc : IsPlain c) :
    IsPlain c.toLower ∧ c.toLower.toLower = c.toLower :=
  hc.of_all (p := fun c => IsPlain c.toLower ∧ c.toLower.toLower = c.toLower) (by
    unfold IsPlain
    decide)

/-- Upper case leaves the lower case as it is. -/
theorem IsPlain.toUpper {c : Char} (hc : IsPlain c) :
    c.toUpper.toNat < 128 ∧ c.toUpper.toLower = c.toLower :=
  hc.of_all (p := fun c => c.toUpper.toNat < 128 ∧ c.toUpper.toLower = c.toLower) (by decide)

/-- The separators the cases use are not plain. -/
theorem not_mem_of_isPlain {word : List Char} (h : ∀ c ∈ word, IsPlain c) {sep : Char}
    (hsep : sep = '-' ∨ sep = '_') : sep ∉ word := by
  intro hmem
  have hplain := (h sep hmem).2
  rcases hsep with rfl | rfl <;> exact absurd hplain (by decide)

theorem lower_of_isPlain {s : List Char} (h : ∀ c ∈ s, IsPlain c) :
    Text.lower s = s.map Char.toLower :=
  Text.lowerAfter_ascii [] s fun c hc => (h c hc).1

theorem isPlain_of_mem_lower {s : List Char} (h : ∀ c ∈ s, IsPlain c) :
    ∀ c ∈ Text.lower s, IsPlain c := by
  intro c hc
  rw [lower_of_isPlain h] at hc
  obtain ⟨d, hd, rfl⟩ := List.mem_map.mp hc
  exact (h d hd).toLower.1

section Kept

variable {t : Tables} {s word : List Char} {words : List (List Char)}

/-- The pieces of a word in a row are the word or its lower case. -/
theorem flatten_pieces (hfragments : "" ∉ t.wordFragments) (word : List Char) :
    (pieces t word).flatten = word ∨ (pieces t word).flatten = Text.lower word := by
  cases hupper : word.any Text.isUpper with
  | true =>
      left
      simp [pieces, fragments?_of_isUpper hupper]
  | false =>
      right
      by_cases hwhole : String.ofList (Text.lower word) ∈ t.unsplittableWords
      · simp [pieces, fragments?_of_unsplittable hupper hwhole]
      · exact (cutGreedily_pieces hfragments hupper hwhole).2.flatten_eq

/-- The pieces of plain words are plain and have the lower case of the words. -/
theorem flatten_flatMap_pieces (hfragments : "" ∉ t.wordFragments)
    (hplain : ∀ word ∈ words, ∀ c ∈ word, IsPlain c) :
    (∀ c ∈ (words.flatMap (pieces t)).flatten, IsPlain c)
      ∧ (words.flatMap (pieces t)).flatten.map Char.toLower
        = words.flatten.map Char.toLower := by
  induction words with
  | nil => simp
  | cons word more ih =>
      have hword := hplain word List.mem_cons_self
      obtain ⟨hplainMore, hmore⟩ := ih fun next hnext => hplain next (List.mem_cons_of_mem _ hnext)
      have hfirst : (∀ c ∈ (pieces t word).flatten, IsPlain c)
          ∧ (pieces t word).flatten.map Char.toLower = word.map Char.toLower := by
        rcases flatten_pieces hfragments word with heq | heq
        · rw [heq]
          exact ⟨hword, rfl⟩
        · rw [heq]
          refine ⟨isPlain_of_mem_lower hword, ?_⟩
          rw [lower_of_isPlain hword, List.map_map]
          exact List.map_congr_left fun c hc => (hword c hc).toLower.2
      rw [List.flatMap_cons, List.flatten_append, List.map_append, List.flatten_cons,
        List.map_append, hmore, hfirst.2]
      refine ⟨?_, rfl⟩
      intro c hc
      rcases List.mem_append.mp hc with hc | hc
      · exact hfirst.1 c hc
      · exact hplainMore c hc

theorem flatten_map_lower (hplain : ∀ word ∈ words, ∀ c ∈ word, IsPlain c) :
    (words.map Text.lower).flatten = words.flatten.map Char.toLower := by
  rw [List.map_flatten]
  congr 1
  exact List.map_congr_left fun word hword => lower_of_isPlain (hplain word hword)

/-- Plain words in lower case, without the separators between them. -/
theorem filter_join_lower {sep : Char} (hsep : sep = '-' ∨ sep = '_')
    (hplain : ∀ word ∈ words, ∀ c ∈ word, IsPlain c) :
    (Text.join [sep] (words.map Text.lower)).filter (· != sep)
      = words.flatten.map Char.toLower := by
  rw [Text.filter_join, flatten_map_lower hplain]
  intro low hlow
  obtain ⟨word, hword, rfl⟩ := List.mem_map.mp hlow
  exact not_mem_of_isPlain (isPlain_of_mem_lower (hplain word hword)) hsep

/-- A blank text is written as it is. -/
theorem kebab_of_isBlank (hblank : Text.isBlank s = true) : kebab t s = .ok s := by
  unfold kebab
  rw [if_pos hblank]

/-- A text without words is lowered. -/
theorem kebab_of_no_words (hblank : Text.isBlank s = false) (hnone : splitWords t s = []) :
    kebab t s = .ok (Text.lower s) := by
  unfold kebab
  rw [hblank, if_neg Bool.false_ne_true, hnone]

/-- A text with words is written as the lower case of their fragments with hyphens. -/
theorem kebab_of_words (hblank : Text.isBlank s = false) (hne : splitWords t s ≠ []) :
    kebab t s = (do
      let found ← (splitWords t s).mapM (fragments t)
      return Text.lower (Text.join ['-'] found.flatten)) := by
  unfold kebab
  rw [hblank, if_neg Bool.false_ne_true]
  split
  · next hnil => exact absurd hnil hne
  · rfl

/-- A text is written if it is blank, or if the search for fragments ends in each of its words. -/
theorem exists_kebab_eq_ok_iff :
    (∃ written, kebab t s = .ok written)
      ↔ Text.isBlank s = true ∨ ∀ word ∈ splitWords t s, (fragments? t word).isSome = true := by
  cases hblank : Text.isBlank s with
  | true => exact iff_of_true ⟨_, kebab_of_isBlank hblank⟩ (Or.inl rfl)
  | false =>
      rw [or_iff_right Bool.false_ne_true]
      by_cases hne : splitWords t s = []
      · rw [hne]
        exact iff_of_true ⟨_, kebab_of_no_words hblank hne⟩ (List.forall_mem_nil _)
      · have hall : (∃ found, (splitWords t s).mapM (fragments t) = .ok found)
            ↔ ∀ word ∈ splitWords t s, (fragments? t word).isSome = true := by
          rw [Except.exists_mapM_eq_ok_iff]
          exact forall₂_congr fun word _ => exists_fragments_eq_ok_iff
        rw [kebab_of_words hblank hne, ← hall]
        constructor
        · rintro ⟨written, h⟩
          obtain ⟨found, hfound, -⟩ := Except.bind_eq_ok_iff.mp h
          exact ⟨found, hfound⟩
        · exact fun h => Except.exists_bind_eq_ok h fun _ => ⟨_, rfl⟩

/-- Where it is not, a search does not end. -/
theorem eq_endlessSearch_of_kebab {e : Fault} (h : kebab t s = .error e) : e = .endlessSearch := by
  cases hblank : Text.isBlank s with
  | true =>
      rw [kebab_of_isBlank hblank] at h
      cases h
  | false =>
      by_cases hne : splitWords t s = []
      · rw [kebab_of_no_words hblank hne] at h
        cases h
      · rw [kebab_of_words hblank hne] at h
        rcases Except.bind_eq_error h with h | ⟨_, h⟩
        · obtain ⟨word, -, h⟩ := Except.exists_of_mapM_eq_error h
          unfold fragments at h
          split at h
          · cases h
          · exact (Except.error.inj h).symm
        · cases h

/-- If no fragment is empty, these are the pieces of the words. -/
theorem kebab_eq_join_pieces (hfragments : "" ∉ t.wordFragments)
    (hblank : Text.isBlank s = false) (hne : splitWords t s ≠ []) :
    kebab t s = .ok (Text.lower (Text.join ['-'] ((splitWords t s).flatMap (pieces t)))) := by
  rw [kebab_of_words hblank hne, mapM_fragments_eq hfragments, List.flatMap_def]
  rfl

/-- So every text is written. -/
theorem exists_kebab_eq_ok (hfragments : "" ∉ t.wordFragments) (s : List Char) :
    ∃ written, kebab t s = .ok written := by
  cases hblank : Text.isBlank s with
  | true => exact ⟨_, kebab_of_isBlank hblank⟩
  | false =>
      by_cases hne : splitWords t s = []
      · exact ⟨_, kebab_of_no_words hblank hne⟩
      · exact ⟨_, kebab_eq_join_pieces hfragments hblank hne⟩

theorem filter_kebab (hfragments : "" ∉ t.wordFragments) (hblank : Text.isBlank s = false)
    (hne : splitWords t s ≠ []) (hplain : ∀ word ∈ splitWords t s, ∀ c ∈ word, IsPlain c) :
    ∃ written, kebab t s = .ok written
      ∧ written.filter (· != '-') = (splitWords t s).flatten.map Char.toLower := by
  obtain ⟨hpieces, hlower⟩ := flatten_flatMap_pieces hfragments hplain
  refine ⟨_, kebab_eq_join_pieces hfragments hblank hne, ?_⟩
  rw [Text.lower_join (Or.inr rfl), filter_join_lower (Or.inl rfl)]
  · exact hlower
  · exact fun piece hpiece c hc => hpieces c (List.mem_flatten_of_mem hpiece hc)

/-- A capital at the start of a plain word is ASCII and leaves its lower case as it is. -/
theorem capitalize_of_isPlain (h : ∀ c ∈ word, IsPlain c) :
    (∀ c ∈ capitalize word, c.toNat < 128)
      ∧ (capitalize word).map Char.toLower = word.map Char.toLower := by
  cases word with
  | nil => exact ⟨by simp [capitalize], rfl⟩
  | cons c rest =>
      have hc := h c List.mem_cons_self
      have hcapital : capitalize (c :: rest) = c.toUpper :: rest := by
        rw [capitalize, Text.upperChar, if_pos hc.1, List.singleton_append]
      rw [hcapital]
      refine ⟨List.forall_mem_cons.mpr ⟨hc.toUpper.1, fun d hd => ?_⟩, ?_⟩
      · exact (h d (List.mem_cons_of_mem _ hd)).1
      · rw [List.map_cons, List.map_cons, hc.toUpper.2]

theorem lower_pascal (hblank : Text.isBlank s = false) (hne : splitWords t s ≠ [])
    (hplain : ∀ word ∈ splitWords t s, ∀ c ∈ word, IsPlain c) :
    Text.lower (pascal t s) = (splitWords t s).flatten.map Char.toLower := by
  have hpascal : pascal t s = ((splitWords t s).map capitalize).flatten := by
    unfold pascal
    rw [hblank, if_neg Bool.false_ne_true]
    split
    · next hnil => exact absurd hnil hne
    · rfl
  have hascii : ∀ c ∈ ((splitWords t s).map capitalize).flatten, c.toNat < 128 := by
    intro c hc
    obtain ⟨piece, hpiece, hmem⟩ := List.mem_flatten.mp hc
    obtain ⟨word, hword, rfl⟩ := List.mem_map.mp hpiece
    exact (capitalize_of_isPlain (hplain word hword)).1 c hmem
  calc Text.lower (pascal t s)
      = ((splitWords t s).map capitalize).flatten.map Char.toLower := by
        rw [hpascal, Text.lower, Text.lowerAfter_ascii [] _ hascii]
    _ = ((splitWords t s).map (List.map Char.toLower)).flatten := by
        rw [List.map_flatten, List.map_map]
        exact congrArg _ (List.map_congr_left fun word hword =>
          (capitalize_of_isPlain (hplain word hword)).2)
    _ = (splitWords t s).flatten.map Char.toLower := List.map_flatten.symm

end Kept

-- ====================================================== words and cases

/-- The words of a text are its letters and digits in order, cut at gaps and humps and nowhere else.
The cases of a text that is ASCII after the replacements keep all of them and nothing else. -/
theorem words_cut_and_kept (t : Tables) (s : List Char) :
    (splitWords t s).flatten = (prepared t s).filter isAlphanumeric
      ∧ (∀ word ∈ splitWords t s, word ≠ [] ∧ word.IsChain fun c d => ¬IsHump c d)
      ∧ (∀ front v w back, splitWords t s = front ++ v :: w :: back →
          Separated (prepared t s) front v w back)
      ∧ ("" ∉ t.wordFragments → Text.isBlank s = false →
          (∀ c ∈ prepared t s, c.toNat < 128) → (∃ c ∈ prepared t s, isAlphanumeric c = true) →
          (∃ written, kebab t s = .ok written
              ∧ written.filter (· != '-') = Text.lower ((prepared t s).filter isAlphanumeric))
            ∧ (wordKebab t s).filter (· != '-') = Text.lower ((prepared t s).filter isAlphanumeric)
            ∧ (snake t s).filter (· != '_') = Text.lower ((prepared t s).filter isAlphanumeric)
            ∧ Text.lower (pascal t s) = Text.lower ((prepared t s).filter isAlphanumeric)) := by
  have hwords : FallsInto (prepared t s) (splitWords t s) := fallsInto_ofPrepared (prepared t s)
  refine ⟨hwords.flatten_eq, fun word hword => ⟨hwords.ne_nil word hword, hwords.noHump word hword⟩,
    fun front v w back hsplit => hwords.separated hsplit, ?_⟩
  intro hfragments hblank hascii hany
  have hletters : ∀ c ∈ (splitWords t s).flatten, IsPlain c := by
    intro c hc
    rw [hwords.flatten_eq] at hc
    obtain ⟨hmem, halnum⟩ := List.mem_filter.mp hc
    exact ⟨hascii c hmem, halnum⟩
  have hplain : ∀ word ∈ splitWords t s, ∀ c ∈ word, IsPlain c := fun word hword c hc =>
    hletters c (List.mem_flatten_of_mem hword hc)
  have hne : splitWords t s ≠ [] := by
    obtain ⟨c, hmem, halnum⟩ := hany
    intro hnil
    have hc := List.mem_filter.mpr ⟨hmem, halnum⟩
    rw [← hwords.flatten_eq, hnil] at hc
    cases hc
  rw [← hwords.flatten_eq, lower_of_isPlain hletters]
  exact ⟨filter_kebab hfragments hblank hne hplain, filter_join_lower (Or.inl rfl) hplain,
    filter_join_lower (Or.inr rfl) hplain, lower_pascal hblank hne hplain⟩

/-- The letters and digits of a text with humps and a gap are kept. -/
theorem typeOfWork_kept :
    "" ∉ Tables.standard.wordFragments ∧ Text.isBlank "TypeOfWork v2".toList = false
      ∧ (∀ c ∈ prepared .standard "TypeOfWork v2".toList, c.toNat < 128)
      ∧ (∃ c ∈ prepared .standard "TypeOfWork v2".toList, isAlphanumeric c = true)
      ∧ ∃ written, kebab .standard "TypeOfWork v2".toList = .ok written
          ∧ written.filter (· != '-') = "typeofworkv2".toList := by
  have hprepared : prepared .standard "TypeOfWork v2".toList = "TypeOfWork v2".toList :=
    prepared_eq_self (List.forall_mem_singleton.mpr ⟨'S', by decide, by decide⟩)
  have hfragments : "" ∉ Tables.standard.wordFragments := by decide
  have hblank : Text.isBlank "TypeOfWork v2".toList = false := by decide
  have hascii : ∀ c ∈ prepared .standard "TypeOfWork v2".toList, c.toNat < 128 := by
    have hall : "TypeOfWork v2".toList.all (fun c => decide (c.toNat < 128)) = true := by decide
    rw [hprepared]
    exact fun c hc => of_decide_eq_true (List.all_eq_true.mp hall c hc)
  have hany : ∃ c ∈ prepared .standard "TypeOfWork v2".toList, isAlphanumeric c = true := by
    rw [hprepared]
    exact ⟨'T', by decide, by decide⟩
  refine ⟨hfragments, hblank, hascii, hany, ?_⟩
  have hkept := words_cut_and_kept .standard "TypeOfWork v2".toList
  obtain ⟨written, hwritten, hletters⟩ := (hkept.2.2.2 hfragments hblank hascii hany).1
  refine ⟨written, hwritten, ?_⟩
  rw [hletters, hprepared]
  decide

end ApiCommands.Words
