/-
Aliases and what comes out of them as the name of a resource.

The alias of a segment is not the name yet. Like any other text it is written in
lower case with hyphens, and on the way each of its words is split into the
fragments the tables know. So an alias comes out as it is exactly if splitting
leaves its words alone, and `Tables.Keeps` says of which words that is true.

# Names as words

A name in hyphenated form has words of lower-case letters and digits, so it falls
into just these words (`ofPrepared_join`). The pieces they are split into have no
hyphens and are not empty (`mem_pieces`), and this tells them from the hyphens
that were put between them: the name comes out exactly if the pieces are its
words (`kebab_eq_join_iff`).

# One piece for each word

The pieces of all words in a row are as many as the words only if each word is one
piece (`flatMap_eq_self_iff`). Which words are, is known of the fragments
(`CutGreedily.eq_singleton_iff`). So a name is written as it is exactly if each of
its words is kept (`Tables.kebab_eq_self_iff`).

Replacements come before all this and may turn an alias into another text, with
other words or none. Without words a text is lowered only, and then an alias comes
out as well.
-/
import ApiCommands.Naming.Tables.Standard
import ApiCommands.Proofs.Naming.PathShape
import ApiCommands.Proofs.Naming.Slug

namespace ApiCommands

/-- Splitting into fragments leaves a lower-case word in one piece: it may not be split, or it is a
fragment, or no fragment stands at its front. -/
def Tables.Keeps (t : Tables) (word : List Char) : Prop :=
  String.ofList word ∈ t.unsplittableWords ∨ word ∈ Words.fragmentTexts t
    ∨ ∀ f ∈ Words.fragmentTexts t, ¬f <+: word

instance (t : Tables) (word : List Char) : Decidable (t.Keeps word) :=
  inferInstanceAs (Decidable (_ ∨ _ ∨ _))

namespace Slug

variable {word : List Char}

/-- The characters of a word are plain and no capitals. -/
theorem IsWord.isPlain (h : IsWord word) :
    ∀ c ∈ word, Words.IsPlain c ∧ Text.isUpper c = false := by
  intro c hc
  refine of_isWordChar (p := fun c => Words.IsPlain c ∧ Text.isUpper c = false) ?_ (h.2 c hc)
  unfold Words.IsPlain
  decide

theorem IsWord.hyphen_notMem (h : IsWord word) : '-' ∉ word :=
  Words.not_mem_of_isPlain (fun c hc => (h.isPlain c hc).1) (Or.inl rfl)

theorem partsOn_join_words {words : List (List Char)} (h : ∀ word ∈ words, IsWord word) :
    Text.partsOn '-' (Text.join ['-'] words) = words :=
  Text.partsOn_join fun word hword => ⟨(h word hword).1, (h word hword).hyphen_notMem⟩

theorem IsSlug.isBlank_eq_false {s : List Char} (h : IsSlug s) : Text.isBlank s = false := by
  obtain ⟨words, hne, hwords, rfl⟩ := h
  obtain ⟨word, more, rfl⟩ := List.exists_cons_of_ne_nil hne
  obtain ⟨hword, hchars⟩ := hwords word List.mem_cons_self
  obtain ⟨c, rest, rfl⟩ := List.exists_cons_of_ne_nil hword
  have hc : Text.isBlankChar c = false :=
    of_isWordChar (p := fun c => Text.isBlankChar c = false) (by decide)
      (hchars c List.mem_cons_self)
  unfold Text.isBlank Text.join
  cases more with
  | nil => simp [hc]
  | cons next more => simp [List.intercalate_cons_cons, hc]

end Slug

namespace Words

variable {t : Tables} {word : List Char} {words : List (List Char)}

-- ====================================================== names as words

/-- A text without capitals has no humps. -/
theorem humps_eq_singleton (hne : word ≠ []) (h : ∀ c ∈ word, Text.isUpper c = false) :
    humps word = [word] := by
  induction word with
  | nil => exact absurd rfl hne
  | cons c rest ih =>
      cases rest with
      | nil => rfl
      | cons d rest =>
          have hrest := ih (List.cons_ne_nil _ _) fun e he => h e (List.mem_cons_of_mem _ he)
          have hd := h d (by simp)
          rw [humps, hd, Bool.and_false, if_neg Bool.false_ne_true, hrest]

/-- A name in hyphenated form falls into the words it is made of. -/
theorem ofPrepared_join (hne : words ≠ []) (h : ∀ word ∈ words, Slug.IsWord word) :
    ofPrepared (Text.join ['-'] words) = words := by
  have hsplit : Text.splitWhere (fun c => !Text.isAlphanumeric c) (Text.join ['-'] words)
      = words := by
    refine Text.splitWhere_join hne (fun word hword c hc => ?_) (by decide)
    rw [((h word hword).isPlain c hc).1.2]
    rfl
  rw [ofPrepared_eq, hsplit]
  clear hsplit hne
  induction words with
  | nil => rfl
  | cons word more ih =>
      have hword := h word List.mem_cons_self
      rw [List.flatMap_cons, humps_eq_singleton hword.1 fun c hc => (hword.isPlain c hc).2,
        ih fun next hnext => h next (List.mem_cons_of_mem _ hnext), List.singleton_append]

/-- No fragment of a word is empty, and none holds a hyphen. -/
theorem mem_pieces (hfragments : "" ∉ t.wordFragments) (hne : word ≠ []) (hword : '-' ∉ word) :
    ∀ piece ∈ pieces t word, piece ≠ [] ∧ '-' ∉ piece := by
  have hhyphen : '-' ∉ (pieces t word).flatten := by
    rcases flatten_pieces hfragments word with heq | heq
    · rw [heq]
      exact hword
    · rw [heq]
      exact fun hmem => hword ((Text.mem_lowerAfter_iff (Or.inr rfl)).mp hmem)
  intro piece hpiece
  refine ⟨?_, fun hmem => hhyphen (List.mem_flatten_of_mem hpiece hmem)⟩
  cases hupper : word.any Text.isUpper with
  | true =>
      rw [pieces, fragments?_of_isUpper hupper, Option.getD_some, List.mem_singleton] at hpiece
      exact hpiece ▸ hne
  | false =>
      by_cases hwhole : String.ofList (Text.lower word) ∈ t.unsplittableWords
      · rw [pieces, fragments?_of_unsplittable hupper hwhole, Option.getD_some,
          List.mem_singleton] at hpiece
        exact hpiece ▸ Text.lower_ne_nil hne
      · have hcut := (cutGreedily_pieces hfragments hupper hwhole).2
        exact hcut.ne_nil_of_mem (nil_notMem_fragmentTexts hfragments) piece hpiece

/-- No word of a text is empty, and none holds a hyphen. -/
theorem mem_splitWords (t : Tables) (s : List Char) :
    ∀ word ∈ splitWords t s, word ≠ [] ∧ '-' ∉ word := by
  have hwords : FallsInto (prepared t s) (splitWords t s) := fallsInto_ofPrepared (prepared t s)
  intro word hword
  refine ⟨hwords.ne_nil word hword, fun hmem => ?_⟩
  have hhyphen : '-' ∈ (splitWords t s).flatten := List.mem_flatten_of_mem hword hmem
  rw [hwords.flatten_eq] at hhyphen
  exact absurd (List.mem_filter.mp hhyphen).2 (by decide)

/-- A text is written as a name exactly if the pieces of its words are the words of the name. -/
theorem kebab_eq_join_iff {s : List Char} (hfragments : "" ∉ t.wordFragments)
    (hblank : Text.isBlank s = false) (hne : splitWords t s ≠ [])
    (hwords : ∀ word ∈ words, Slug.IsWord word) :
    kebab t s = .ok (Text.join ['-'] words)
      ↔ ((splitWords t s).flatMap (pieces t)).map Text.lower = words := by
  have hpieces : ∀ piece ∈ ((splitWords t s).flatMap (pieces t)).map Text.lower,
      piece ≠ [] ∧ '-' ∉ piece := by
    intro low hlow
    obtain ⟨piece, hpiece, rfl⟩ := List.mem_map.mp hlow
    obtain ⟨word, hword, hpiece⟩ := List.mem_flatMap.mp hpiece
    obtain ⟨hwordNe, hwordHyphen⟩ := mem_splitWords t s word hword
    obtain ⟨hpieceNe, hpieceHyphen⟩ := mem_pieces hfragments hwordNe hwordHyphen piece hpiece
    exact ⟨Text.lower_ne_nil hpieceNe,
      fun hmem => hpieceHyphen ((Text.mem_lowerAfter_iff (Or.inr rfl)).mp hmem)⟩
  rw [kebab_eq_join_pieces hfragments hblank hne, Except.ok.injEq, Text.lower_join (Or.inr rfl)]
  constructor
  · intro h
    have hparts := congrArg (Text.partsOn '-') h
    rwa [Text.partsOn_join hpieces, Slug.partsOn_join_words hwords] at hparts
  · intro h
    rw [h]

-- ====================================================== one piece for each word

/-- Splitting each word gives the words again exactly if each stays in one piece. -/
theorem flatMap_eq_self_iff {split : List Char → List (List Char)}
    (hne : ∀ word ∈ words, word ≠ [] ∧ ∀ piece ∈ split word, piece ≠ [])
    (hflat : ∀ word ∈ words, (split word).flatten = word) :
    words.flatMap split = words ↔ ∀ word ∈ words, split word = [word] := by
  induction words with
  | nil => simp
  | cons word more ih =>
      have hmore := ih (fun next hnext => hne next (List.mem_cons_of_mem _ hnext))
        fun next hnext => hflat next (List.mem_cons_of_mem _ hnext)
      have hword := hflat word List.mem_cons_self
      obtain ⟨hwordNe, hpieces⟩ := hne word List.mem_cons_self
      rw [List.flatMap_cons, List.forall_mem_cons]
      constructor
      · intro h
        cases hsplit : split word with
        | nil =>
            rw [hsplit] at hword
            exact absurd hword.symm hwordNe
        | cons piece rest =>
            rw [hsplit] at hword hpieces
            rw [hsplit, List.cons_append] at h
            obtain ⟨rfl, htail⟩ := List.cons.inj h
            -- the first piece is the whole word, so nothing is left for another one
            have hrest : rest = [] := by
              cases rest with
              | nil => rfl
              | cons next rest =>
                  have hnext := hpieces next (by simp)
                  simp [hnext] at hword
            rw [hrest, List.nil_append] at htail
            rw [hrest]
            exact ⟨rfl, hmore.mp htail⟩
      · rintro ⟨hsplit, hall⟩
        rw [hsplit, hmore.mpr hall, List.singleton_append]

theorem flatten_pieces_of_isWord (hfragments : "" ∉ t.wordFragments) (h : Slug.IsWord word) :
    (pieces t word).flatten = word := by
  rcases flatten_pieces hfragments word with heq | heq
  · exact heq
  · rw [heq, h.lower_eq]

/-- A word of a slug stays in one piece exactly if the tables keep it. -/
theorem pieces_eq_singleton_iff (hfragments : "" ∉ t.wordFragments) (h : Slug.IsWord word) :
    pieces t word = [word] ↔ t.Keeps word := by
  have hlow : word.any Text.isUpper = false := by
    rw [List.any_eq_false]
    intro c hc
    simp [(h.isPlain c hc).2]
  unfold Tables.Keeps
  by_cases hwhole : String.ofList word ∈ t.unsplittableWords
  · simp [pieces, fragments?, hlow, h.lower_eq, hwhole]
  · have hcut := (cutGreedily_pieces hfragments hlow (by rw [h.lower_eq]; exact hwhole)).2
    rw [h.lower_eq] at hcut
    rw [hcut.eq_singleton_iff (nil_notMem_fragmentTexts hfragments) h.1]
    exact (or_iff_right hwhole).symm

theorem isWord_of_mem_pieces (hfragments : "" ∉ t.wordFragments) (h : Slug.IsWord word) :
    ∀ piece ∈ pieces t word, Slug.IsWord piece := by
  intro piece hpiece
  refine ⟨(mem_pieces hfragments h.1 h.hyphen_notMem piece hpiece).1, fun c hc => h.2 c ?_⟩
  rw [← flatten_pieces_of_isWord hfragments h]
  exact List.mem_flatten_of_mem hpiece hc

/-- Splitting gives the words of a slug again exactly if each of them is kept. -/
theorem map_lower_pieces_eq_iff (hfragments : "" ∉ t.wordFragments)
    (h : ∀ word ∈ words, Slug.IsWord word) :
    (words.flatMap (pieces t)).map Text.lower = words ↔ ∀ word ∈ words, t.Keeps word := by
  have hisWord : ∀ word ∈ words, ∀ piece ∈ pieces t word, Slug.IsWord piece :=
    fun word hword => isWord_of_mem_pieces hfragments (h word hword)
  have hlower : (words.flatMap (pieces t)).map Text.lower = words.flatMap (pieces t) := by
    calc (words.flatMap (pieces t)).map Text.lower
        = (words.flatMap (pieces t)).map id := by
          refine List.map_congr_left fun piece hpiece => ?_
          obtain ⟨word, hword, hmem⟩ := List.mem_flatMap.mp hpiece
          exact (hisWord word hword piece hmem).lower_eq
      _ = words.flatMap (pieces t) := List.map_id _
  have hsame : words.flatMap (pieces t) = words ↔ ∀ word ∈ words, pieces t word = [word] :=
    flatMap_eq_self_iff
      (fun word hword =>
        ⟨(h word hword).1, fun piece hpiece => (hisWord word hword piece hpiece).1⟩)
      fun word hword => flatten_pieces_of_isWord hfragments (h word hword)
  rw [hlower, hsame]
  exact forall₂_congr fun word hword => pieces_eq_singleton_iff hfragments (h word hword)

end Words

-- ====================================================== aliases

namespace Tables

variable {t : Tables} {segment name : String}

/-- A segment with an alias gives a resource the name the alias is written as, if it is not
blank. -/
theorem resourceName_of_aliasOf? (halias : t.aliasOf? segment = some name)
    (hblank : Text.isBlank segment.toList = false) : t.resourceName segment = t.kebab name := by
  unfold resourceName expandSegment
  rw [hblank, if_neg Bool.false_ne_true, halias]

/-- A blank segment names the resource itself, with an alias or without one. -/
theorem resourceName_of_isBlank (hblank : Text.isBlank segment.toList = true) :
    t.resourceName segment = .ok segment := by
  have hexpand : t.expandSegment segment = segment := by
    unfold expandSegment
    rw [if_pos hblank]
  unfold resourceName kebab
  rw [hexpand, Words.kebab_of_isBlank hblank]
  exact congrArg Except.ok String.ofList_toList

/-- A name the replacements leave as it is is written as it is exactly if each of its words is
kept. -/
theorem kebab_eq_self_iff (hfragments : "" ∉ t.wordFragments) (hname : Slug.IsName name)
    (hprepared : Words.prepared t name.toList = name.toList) :
    t.kebab name = .ok name ↔ ∀ word ∈ Text.partsOn '-' name.toList, t.Keeps word := by
  have hblank : Text.isBlank name.toList = false := hname.isBlank_eq_false
  obtain ⟨words, hne, hwords, hform⟩ := hname
  have hsplit : Words.splitWords t name.toList = words := by
    unfold Words.splitWords
    rw [hprepared, hform]
    exact Words.ofPrepared_join hne hwords
  have hkebab := Words.kebab_eq_join_iff hfragments hblank (hsplit ▸ hne) hwords
  have hkept := Words.map_lower_pieces_eq_iff hfragments hwords
  rw [hsplit, ← hform] at hkebab
  rw [kebab_eq_ok_iff, hkebab, hkept, hform, Slug.partsOn_join_words hwords]

/-- An alias comes out exactly if the segment is not blank and writing the alias in lower case with
hyphens changes nothing. -/
theorem resourceName_eq_iff (halias : t.aliasOf? segment = some name) (hname : Slug.IsName name) :
    t.resourceName segment = .ok name
      ↔ Text.isBlank segment.toList = false ∧ t.kebab name = .ok name := by
  cases hblank : Text.isBlank segment.toList with
  | true =>
      rw [resourceName_of_isBlank hblank, Except.ok.injEq]
      constructor
      · rintro rfl
        exact absurd hblank (by rw [hname.isBlank_eq_false]; exact Bool.false_ne_true)
      · rintro ⟨hfalse, -⟩
        cases hfalse
  | false =>
      rw [resourceName_of_aliasOf? halias hblank]
      exact (and_iff_right rfl).symm

/-- The resource of an operation is named by the last segment of its path, if this is a literal. -/
theorem resourceName_of_shape {op : Operation} {collections : List String} {shape : PathShape}
    (h : t.shape collections op = .ok shape) (hlast : op.segments.getLast? = some segment)
    (hliteral : PathTemplate.isParam segment = false) :
    t.resourceName segment = .ok shape.resource := by
  obtain ⟨before, hsegments⟩ := List.getLast?_eq_some_iff.mp hlast
  have hliterals : op.literals.getLast? = some segment := by
    unfold Operation.literals
    rw [hsegments, List.filter_append]
    simp [hliteral]
  have hresource := (shape_spec h).resource
  rwa [hliterals, Option.getD_some] at hresource

/-- The alias of a segment that is not blank names the resource exactly if the fragments of its
words, in lower case, are the words it is made of, or if the replacements leave no word of it. An
alias they leave as it is comes out exactly if each of its words is kept. An operation whose path
ends in the segment has a shape, and the resource of that is what the segment names. -/
theorem resourceName_eq_alias_iff (hfragments : "" ∉ t.wordFragments)
    (halias : t.aliasOf? segment = some name) (hname : Slug.IsName name) :
    (t.resourceName segment = .ok name ↔ Text.isBlank segment.toList = false
        ∧ (Words.splitWords t name.toList = []
          ∨ ∃ found, (Words.splitWords t name.toList).mapM (Words.fragments t) = .ok found
            ∧ found.flatten.map Text.lower = Text.partsOn '-' name.toList))
      ∧ (Words.prepared t name.toList = name.toList →
          (t.resourceName segment = .ok name ↔ Text.isBlank segment.toList = false
            ∧ ∀ word ∈ Text.partsOn '-' name.toList, t.Keeps word))
      ∧ ∀ collections op, op.segments.getLast? = some segment →
          PathTemplate.isParam segment = false →
          ∃ shape, t.shape collections op = .ok shape
            ∧ t.resourceName segment = .ok shape.resource := by
  rw [resourceName_eq_iff halias hname]
  refine ⟨and_congr_right fun _ => ?_, fun hprepared => ?_,
    fun collections op hlast hliteral => ?_⟩
  · rw [kebab_eq_ok_iff]
    by_cases hnone : Words.splitWords t name.toList = []
    · rw [Words.kebab_of_no_words hname.isBlank_eq_false hnone, hname.lower_eq]
      exact iff_of_true rfl (Or.inl hnone)
    · have hblank : Text.isBlank name.toList = false := hname.isBlank_eq_false
      obtain ⟨words, -, hwords, hform⟩ := hname
      have hkebab := Words.kebab_eq_join_iff hfragments hblank hnone hwords
      have hparts := Slug.partsOn_join_words hwords
      rw [← hform] at hkebab hparts
      rw [hkebab, hparts, or_iff_right hnone, Words.mapM_fragments_eq hfragments]
      simp [List.flatMap_def]
  · rw [kebab_eq_self_iff hfragments hname hprepared]
  · obtain ⟨shape, hshape⟩ := exists_shape_eq_ok hfragments collections op
    exact ⟨shape, hshape, resourceName_of_shape hshape hlast hliteral⟩

/-- An alias does not come out when a fragment stands at the front of one of its words. -/
theorem assignedTasks_not_kept :
    "" ∉ standard.wordFragments ∧ standard.aliasOf? "assignedtasks" = some "assigned-tasks"
      ∧ Slug.IsName "assigned-tasks"
      ∧ standard.resourceName "assignedtasks" ≠ .ok "assigned-tasks" := by
  have hfragments : "" ∉ standard.wordFragments := by decide
  have halias : standard.aliasOf? "assignedtasks" = some "assigned-tasks" := by decide
  have hname : Slug.IsName "assigned-tasks" := by
    refine ⟨["assigned".toList, "tasks".toList], by simp, ?_, rfl⟩
    intro word hword
    rcases List.mem_pair.mp hword with rfl | rfl
    · exact Slug.IsWord.of_all (by decide) (by decide)
    · exact Slug.IsWord.of_all (by decide) (by decide)
  have hprepared : Words.prepared standard "assigned-tasks".toList = "assigned-tasks".toList :=
    Words.prepared_eq_self (List.forall_mem_singleton.mpr ⟨'S', by decide, by decide⟩)
  refine ⟨hfragments, halias, hname, fun h => ?_⟩
  have hkept := (((resourceName_eq_alias_iff hfragments halias hname).2.1 hprepared).mp h).2
  -- the fragment `assign` stands at the front of the first word
  exact absurd (hkept "assigned".toList (by decide)) (by decide)

end Tables

end ApiCommands
