/-
Identifiers: what `Identifier.ofString` and the names built on it are.

`IsName` says what the emitted source can use as a name: the spelling of an
ASCII identifier, and no keyword. A number behind a name gives a name again
(`IsName.append_toString`): no keyword ends in a digit.

# What is usable of a text

An identifier holds what is `usable` of a text, its ASCII letters, digits and
underscores in their order. Where these are a name they are the identifier, and
otherwise one underscore in front makes them one, be it that there are none, that the
first is a digit or that they are a keyword (`ofString_eq`). Two guards are never
needed: no keyword starts with an underscore. All else follows from this equation: every
string becomes a name (`isName_ofString`), names and no other strings are left as they
are (`ofString_eq_self_iff`), and a word that starts with a letter is made of what is
usable of a text, and of nothing else (`ofString_eq_iff`).

# Candidates

So every candidate of an operation's chain is a name, the numbered ones included
(`Tables.isName_of_has_methodCandidates`), and so is all that is claimed for operations
(`Tables.isName_of_mem_claimAll`).
-/
import ApiCommands.Naming.MethodName
import ApiCommands.Proofs.Naming.Taken

namespace ApiCommands

namespace Identifier

/-- The spelling of an identifier: a letter or an underscore, then letters, digits and
underscores, all of them ASCII. -/
def IsSpelling : List Char → Prop
  | [] => False
  | c :: rest => (c.isAlpha = true ∨ c = '_') ∧ ∀ d ∈ rest, isWordChar d = true

/-- A name of the emitted source: spelled like an identifier, and no keyword. -/
structure IsName (s : String) : Prop where
  spelling : IsSpelling s.toList
  notKeyword : s ∉ keywords

instance (s : List Char) : Decidable (IsSpelling s) :=
  match s with
  | [] => isFalse id
  | c :: rest =>
    -- through `all`, so that nothing but the characters at hand is gone through
    decidable_of_iff ((c.isAlpha = true ∨ c = '_') ∧ rest.all isWordChar = true)
      (and_congr_right fun _ => List.all_eq_true)

instance (s : String) : Decidable (IsName s) :=
  decidable_of_iff (IsSpelling s.toList ∧ s ∉ keywords)
    ⟨fun h => ⟨h.1, h.2⟩, fun h => ⟨h.spelling, h.notKeyword⟩⟩

-- ====================================================== spellings

/-- A digit can stand in an identifier. -/
theorem isWordChar_of_isDigit {c : Char} (h : c.isDigit = true) : isWordChar c = true := by
  simp [isWordChar, Char.isAlphanum, h]

/-- A spelling consists of characters an identifier can hold. -/
theorem IsSpelling.isWordChar {s : List Char} (h : IsSpelling s) :
    ∀ c ∈ s, isWordChar c = true := by
  cases s with
  | nil => cases h
  | cons c rest =>
      intro d hd
      rcases List.mem_cons.mp hd with rfl | hrest
      · rcases h.1 with halpha | rfl
        · simp [Identifier.isWordChar, Char.isAlphanum, halpha]
        · rfl
      · exact h.2 d hrest

/-- An underscore in front of characters of identifiers makes a spelling. -/
theorem isSpelling_underscore_cons {s : List Char} (h : ∀ c ∈ s, isWordChar c = true) :
    IsSpelling ('_' :: s) :=
  ⟨Or.inr rfl, h⟩

/-- Characters of identifiers behind a spelling make a spelling. -/
theorem IsSpelling.append {s t : List Char} (h : IsSpelling s)
    (ht : ∀ c ∈ t, Identifier.isWordChar c = true) : IsSpelling (s ++ t) := by
  cases s with
  | nil => cases h
  | cons c rest =>
      refine ⟨h.1, fun d hd => ?_⟩
      rcases List.mem_append.mp hd with hrest | htail
      · exact h.2 d hrest
      · exact ht d htail

/-- Characters of identifiers are a spelling exactly if there are any and the first is no digit. -/
theorem isSpelling_iff {s : List Char} (h : ∀ c ∈ s, isWordChar c = true) :
    IsSpelling s ↔ s.head?.all Char.isDigit = false := by
  cases s with
  | nil => exact ⟨False.elim, fun hall => by cases hall⟩
  | cons c rest =>
      obtain ⟨hc, hrest⟩ := List.forall_mem_cons.mp h
      constructor
      · intro hspelling
        have hdigits := Text.forall_of_isDigit (p := fun d => !(d.isAlpha || d == '_'))
          (by decide) (c := c)
        refine Bool.eq_false_iff.mpr fun hdigit => ?_
        have hneither := hdigits hdigit
        rcases hspelling.1 with halpha | hunderscore
        · simp [halpha] at hneither
        · simp [hunderscore] at hneither
      · intro hdigit
        have hnone : c.isDigit = false := hdigit
        exact ⟨by simpa [isWordChar, Char.isAlphanum, hnone] using hc, hrest⟩

-- ====================================================== names

/-- No keyword starts with an underscore. -/
theorem head?_of_mem_keywords {s : String} (h : s ∈ keywords) : s.toList.head? ≠ some '_' := by
  have hall : ∀ w ∈ keywords, w.toList.head? ≠ some '_' := by decide
  exact hall s h

/-- No keyword ends in a digit. -/
theorem getLast?_of_mem_keywords {s : String} (h : s ∈ keywords) :
    s.toList.getLast?.any Char.isDigit = false := by
  have hall : ∀ w ∈ keywords, w.toList.getLast?.any Char.isDigit = false := by decide
  exact hall s h

/-- An underscore in front of characters of identifiers makes a name. -/
theorem isName_underscore_append {s : String} (h : ∀ c ∈ s.toList, isWordChar c = true) :
    IsName ("_" ++ s) := by
  have hlist : ("_" ++ s).toList = '_' :: s.toList := by
    rw [String.toList_append]
    rfl
  refine ⟨?_, fun hmem => head?_of_mem_keywords hmem ?_⟩
  · rw [hlist]
    exact isSpelling_underscore_cons h
  · rw [hlist]
    rfl

/-- A number behind a spelling gives a name. -/
theorem isName_append_toString {s : String} (h : IsSpelling s.toList) (n : Nat) :
    IsName (s ++ toString n) := by
  have hdigits : ∀ c ∈ (toString n).toList, c.isDigit = true := fun c hc =>
    Text.isDigit_of_mem_toString hc
  refine ⟨?_, fun hmem => ?_⟩
  · rw [String.toList_append]
    exact h.append fun c hc => isWordChar_of_isDigit (hdigits c hc)
  · -- its last character is a digit, and that of a keyword is none
    have hlast := getLast?_of_mem_keywords hmem
    rw [Text.any_isDigit_append_toString] at hlast
    cases hlast

/-- A number behind a name gives a name. -/
theorem IsName.append_toString {s : String} (h : IsName s) (n : Nat) : IsName (s ++ toString n) :=
  isName_append_toString h.spelling n

/-- So does a number behind an underscore behind it. -/
theorem IsName.underscore_toString {s : String} (h : IsName s) (n : Nat) :
    IsName (s ++ "_" ++ toString n) := by
  refine isName_append_toString ?_ n
  rw [String.toList_append]
  exact h.spelling.append (List.all_eq_true.mp (by decide))

-- ====================================================== ASCII

/-- The characters of identifiers are ASCII. -/
theorem toNat_lt_of_isWordChar {c : Char} (h : isWordChar c = true) : c.toNat < 128 := by
  have hupTo : ∀ high : Char, c.val ≤ high.val → high.toNat < 128 → c.toNat < 128 :=
    fun _ hle hhigh => Nat.lt_of_le_of_lt (UInt32.le_iff_toNat_le.mp hle) hhigh
  unfold isWordChar at h
  rcases Bool.or_eq_true_iff.mp h with halnum | hunderscore
  · rcases Bool.or_eq_true_iff.mp halnum with halpha | hdigit
    · rcases Bool.or_eq_true_iff.mp halpha with hupper | hlower
      · exact hupTo 'Z' (of_decide_eq_true hupper).2 (by decide)
      · exact hupTo 'z' (of_decide_eq_true (Bool.and_eq_true_iff.mp hlower).2) (by decide)
    · exact hupTo '9' (of_decide_eq_true (Bool.and_eq_true_iff.mp hdigit).2) (by decide)
  · rw [beq_iff_eq.mp hunderscore]
    decide

/-- A name is lowered letter by letter. -/
theorem IsName.toList_lowered {s : String} (h : IsName s) :
    (Text.lowered s).toList = s.toList.map Char.toLower :=
  Text.toList_lowered_of_ascii fun c hc => toNat_lt_of_isWordChar (h.spelling.isWordChar c hc)

-- ====================================================== guards

/-- The first guard stands in front of characters that are no spelling. -/
theorem guardDigit_eq {s : List Char} (h : ∀ c ∈ s, isWordChar c = true) (hne : s ≠ []) :
    guardDigit s = if IsSpelling s then s else '_' :: s := by
  obtain ⟨c, rest, rfl⟩ := List.exists_cons_of_ne_nil hne
  rw [guardDigit]
  cases hdigit : c.isDigit with
  | true =>
      have hnot : ¬IsSpelling (c :: rest) := by
        rw [isSpelling_iff h]
        simpa using hdigit
      rw [if_pos rfl, if_neg hnot]
  | false => rw [if_neg Bool.false_ne_true, if_pos ((isSpelling_iff h).mpr hdigit)]

/-- The second one stands in front of a spelling that is no name. -/
theorem guardKeyword_eq {s : String} (h : IsSpelling s.toList) :
    guardKeyword s = if IsName s then s else "_" ++ s := by
  unfold guardKeyword
  by_cases hkeyword : s ∈ keywords
  · rw [if_pos (List.contains_iff_mem.mpr hkeyword), if_neg fun hname => hname.notKeyword hkeyword]
  · rw [if_neg fun hmem => hkeyword (List.contains_iff_mem.mp hmem), if_pos ⟨h, hkeyword⟩]

-- ====================================================== what is usable

/-- A character of identifiers is not blank. -/
theorem isBlankChar_of_isWordChar {c : Char} (h : isWordChar c = true) :
    Text.isBlankChar c = false := by
  have hall : ∀ n < 128, isWordChar (Char.ofNat n) = true →
      Text.isBlankChar (Char.ofNat n) = false := by
    decide
  have hc := hall c.toNat (toNat_lt_of_isWordChar h)
  rw [Char.ofNat_toNat] at hc
  exact hc h

/-- Nothing of a blank text is usable. -/
theorem filter_isWordChar_of_isBlank {s : List Char} (h : Text.isBlank s = true) :
    s.filter isWordChar = [] := by
  rw [List.filter_eq_nil_iff]
  intro c hc hword
  have hblank := List.all_eq_true.mp h c hc
  rw [isBlankChar_of_isWordChar hword] at hblank
  cases hblank

/-- What an identifier can hold of a text. -/
def usable (s : String) : String := String.ofList (s.toList.filter isWordChar)

@[simp]
theorem toList_usable (s : String) : (usable s).toList = s.toList.filter isWordChar :=
  String.toList_ofList

theorem isWordChar_of_mem_usable {s : String} : ∀ c ∈ (usable s).toList, isWordChar c = true := by
  intro c hc
  rw [toList_usable] at hc
  exact (List.mem_filter.mp hc).2

theorem usable_eq_self {s : String} (h : ∀ c ∈ s.toList, isWordChar c = true) : usable s = s := by
  unfold usable
  rw [List.filter_eq_self.mpr h, String.ofList_toList]

theorem ofString_of_usable_eq_empty {s : String} (h : usable s = "") :
    ofString s = placeholder := by
  have hnil : s.toList.filter isWordChar = [] := by
    rw [← toList_usable, h]
    rfl
  unfold ofString body
  rw [hnil, guardDigit]
  split <;> rfl

/-- The identifier of a text is what is usable of it, with an underscore in front where that is no
name without one. -/
theorem ofString_eq (s : String) :
    ofString s = if IsName (usable s) then usable s else "_" ++ usable s := by
  by_cases hempty : usable s = ""
  · rw [ofString_of_usable_eq_empty hempty, hempty, if_neg fun hname => hname.spelling]
    rfl
  · have hne : (usable s).toList ≠ [] := fun hnil => hempty (String.toList_eq_nil_iff.mp hnil)
    have hblank : Text.isBlank s.toList = false := by
      refine Bool.eq_false_iff.mpr fun hblank => hne ?_
      rw [toList_usable, filter_isWordChar_of_isBlank hblank]
    have hbody : body s.toList = guardDigit (usable s).toList := by
      rw [toList_usable]
      rfl
    unfold ofString
    rw [hblank, if_neg Bool.false_ne_true, hbody, guardDigit_eq isWordChar_of_mem_usable hne]
    by_cases hspelling : IsSpelling (usable s).toList
    · rw [if_pos hspelling]
      split
      · next hnil => exact absurd hnil hne
      · rw [String.ofList_toList]
        exact guardKeyword_eq hspelling
    · -- the guarded characters start with an underscore, so the second guard is not needed
      have hname : IsName ("_" ++ usable s) := isName_underscore_append isWordChar_of_mem_usable
      have hguarded : String.ofList ('_' :: (usable s).toList) = "_" ++ usable s := by
        refine String.toList_injective ?_
        rw [String.toList_ofList, String.toList_append]
        rfl
      rw [if_neg hspelling]
      dsimp only
      rw [hguarded, guardKeyword_eq hname.spelling, if_pos hname,
        if_neg fun h => hspelling h.spelling]

/-- Every string becomes a name. -/
theorem isName_ofString (s : String) : IsName (ofString s) := by
  rw [ofString_eq]
  split
  · next hname => exact hname
  · exact isName_underscore_append isWordChar_of_mem_usable

/-- A string is its own identifier exactly if it is a name. -/
theorem ofString_eq_self_iff {s : String} : ofString s = s ↔ IsName s := by
  constructor
  · intro h
    rw [← h]
    exact isName_ofString s
  · intro h
    rw [ofString_eq, usable_eq_self h.spelling.isWordChar, if_pos h]

/-- Guards stand in front. -/
theorem isSuffix_usable (s : String) : (usable s).toList <:+ (ofString s).toList := by
  rw [ofString_eq]
  split
  · exact List.suffix_refl _
  · rw [String.toList_append]
    exact List.suffix_append _ _

/-- A word that starts with a letter is the identifier of a text exactly if it is what is usable of
the text. -/
theorem ofString_eq_iff {s b : String} (hstart : b.toList.head?.any Char.isAlpha = true)
    (hkeyword : b ∉ keywords) : ofString s = b ↔ s.toList.filter isWordChar = b.toList := by
  rw [← toList_usable, String.toList_inj]
  constructor
  · rintro rfl
    rw [ofString_eq] at hstart ⊢
    split
    · rfl
    · next hguarded =>
      rw [if_neg hguarded, String.toList_append] at hstart
      exact absurd hstart (by simp)
  · rintro rfl
    have hspelling : IsSpelling (usable s).toList := by
      have hword := isWordChar_of_mem_usable (s := s)
      cases hs : (usable s).toList with
      | nil =>
          rw [hs] at hstart
          cases hstart
      | cons c rest =>
          rw [hs] at hstart hword
          exact ⟨Or.inl hstart, (List.forall_mem_cons.mp hword).2⟩
    rw [ofString_eq, if_pos ⟨hspelling, hkeyword⟩]

/-- Usable characters at the end of a text stay at the end of its identifier. -/
theorem isSuffix_ofString (s : String) {suffix : List Char}
    (hword : ∀ c ∈ suffix, isWordChar c = true) :
    suffix <:+ (ofString (s ++ String.ofList suffix)).toList := by
  have husable : (usable (s ++ String.ofList suffix)).toList = (usable s).toList ++ suffix := by
    rw [toList_usable, toList_usable, String.toList_append, String.toList_ofList,
      List.filter_append, List.filter_eq_self.mpr hword]
  have hsuffix : suffix <:+ (usable (s ++ String.ofList suffix)).toList := by
    rw [husable]
    exact List.suffix_append _ _
  exact hsuffix.trans (isSuffix_usable _)

-- ====================================================== any text, or none

theorem ofOption_eq (s : Option String) : ofOption s = ofString (s.getD "") := by
  cases s with
  | none => exact (ofString_of_usable_eq_empty rfl).symm
  | some s => rfl

/-- Every text, and also a missing one, becomes a name. The names, and no other texts, are left as
they are, so making an identifier of an identifier changes nothing. Its characters are the letters,
digits and underscores of the text, all ASCII and in their order; where these are no name, and that
is so if there are none, one underscore stands in front of them. -/
theorem ofOption_isName_fixed_usable (s : Option String) :
    IsName (ofOption s)
      ∧ (∀ name, ofOption (some name) = name ↔ IsName name)
      ∧ ofOption (some (ofOption s)) = ofOption s
      ∧ (ofOption s).toList
          = (if IsName (usable (s.getD "")) then [] else ['_'])
            ++ (s.getD "").toList.filter fun c => c.isAlphanum || c == '_' := by
  have hname : IsName (ofOption s) := by
    rw [ofOption_eq]
    exact isName_ofString _
  refine ⟨hname, fun name => ?_, ?_, ?_⟩
  · rw [ofOption_eq, Option.getD_some]
    exact ofString_eq_self_iff
  · rw [ofOption_eq (some _), Option.getD_some]
    exact ofString_eq_self_iff.mpr hname
  · rw [ofOption_eq, ofString_eq]
    split
    · exact toList_usable _
    · rw [String.toList_append, toList_usable]
      rfl

-- the guards look at what is left once the other characters are dropped
example : ofOption (some "é3d") = "_3d" ∧ ofOption (some "cl.ass") = "_class" := by decide

end Identifier

namespace Tables

variable (t : Tables)

/-- The first choice for an operation is a name. -/
theorem isName_methodBase (id path : String) : Identifier.IsName (t.methodBase id path) := by
  unfold methodBase
  dsimp only
  split
  · exact Identifier.isName_ofString _
  · exact Identifier.isName_ofString _

/-- Every candidate for an operation is a name. -/
theorem isName_of_has_methodCandidates {id path : String} {method : Method} {name : String}
    (h : (t.methodCandidates id path method).Has name) : Identifier.IsName name := by
  rcases h with hpre | ⟨i, rfl⟩
  · rcases List.mem_pair.mp hpre with rfl | rfl
    · exact t.isName_methodBase id path
    · exact Identifier.isName_ofString _
  · exact (Identifier.isName_ofString _).append_toString (i + 2)

/-- Whatever is taken before, a run of claims for operations gives names. -/
theorem isName_of_mem_claimAll {taken : Taken} {ops : List Operation} {name : String}
    (h : name ∈ taken.claimAll (ops.map fun op => t.methodCandidates op.id op.path op.method)) :
    Identifier.IsName name := by
  obtain ⟨c, hc, hhas⟩ := taken.exists_has_of_mem_claimAll h
  obtain ⟨op, -, rfl⟩ := List.mem_map.mp hc
  exact t.isName_of_has_methodCandidates hhas

/-- All candidates but the first end in the name of the method, up to case and a number. -/
theorem isSuffix_stem_methodCandidates (id path : String) (method : Method) :
    method.name.toList <:+ (Text.lowered (t.methodCandidates id path method).stem).toList := by
  have hverb : method.verb.toList.all Identifier.isWordChar = true
      ∧ method.verb.toList.map Char.toLower = method.name.toList := by
    cases method <;> decide
  obtain ⟨hword, hlower⟩ := hverb
  have hsuffix := Identifier.isSuffix_ofString (t.methodBase id path ++ t.pathName path)
    (List.all_eq_true.mp hword)
  rw [String.ofList_toList] at hsuffix
  have hstem : (t.methodCandidates id path method).stem
      = Identifier.ofString (t.methodBase id path ++ t.pathName path ++ method.verb) := rfl
  rw [hstem, (Identifier.isName_ofString _).toList_lowered, ← hlower]
  exact hsuffix.map _

end Tables

end ApiCommands
