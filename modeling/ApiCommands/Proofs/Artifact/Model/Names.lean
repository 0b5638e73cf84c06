/-
What models and fields may be called.

# Public names

The name of a class or of a field is a name of the emitted source that does not
start with an underscore (`IsPublic`). For a class the underscore is taken off
after the name is made, and what stands behind it may be a digit or a keyword;
the word put in front repairs both (`isPublic_guardUnderscore`). A number behind a
public name gives a public name again, so all candidates for a class are
public (`isPublic_of_has`).

# Names of fields

The name of a field is a public name without capitals (`IsFieldName`). It is
made of a stem, the words of the property without the underscores around them,
and a stem that is taken by the language or by every model gets an underscore
behind it (`fieldBase_cases`). No keyword and no type ends in an underscore or in a
digit, so neither the underscore nor a number behind it leads to one again
(`isFieldName_of_has`). Of the attributes of models as little is assumed as that takes
(`LeavesFieldNames`): then no field has a name that is reserved
(`notMem_reservedFields_of_has`).
-/
import ApiCommands.Artifact.Model.Names
import ApiCommands.Proofs.Naming.Identifier
import ApiCommands.Proofs.Text.Pieces

namespace ApiCommands.ModelNames

open Identifier (IsName IsSpelling isWordChar)

/-- A name that does not start with an underscore. -/
structure IsPublic (s : String) : Prop extends IsName s where
  plain : s.toList.head? ≠ some '_'

/-- A name that a field can have: public and in lower case. -/
structure IsFieldName (s : String) : Prop extends IsPublic s where
  noCapital : ∀ c ∈ s.toList, c.isUpper = false

/-- What the names of fields rely on: that of a property without words is no attribute, and no
attribute that does not start with an underscore ends in one, or in one and a number. -/
structure LeavesFieldNames (attributes : List String) : Prop where
  placeholder : placeholder ∉ attributes
  endPlainly : ∀ name ∈ attributes, name.toList.head? ≠ some '_' →
    ∀ base, name ≠ base ++ "_" ∧ ∀ n : Nat, name ≠ base ++ "_" ++ toString n

-- ====================================================== public names

/-- What stands behind a spelling does not change how it starts. -/
theorem head?_append_of_isSpelling {s : String} (h : IsSpelling s.toList) (behind : String) :
    (s ++ behind).toList.head? = s.toList.head? := by
  rw [String.toList_append]
  cases hs : s.toList with
  | nil =>
      rw [hs] at h
      cases h
  | cons c rest => rfl

/-- A number behind a public name gives a public name. -/
theorem IsPublic.append_toString {s : String} (h : IsPublic s) (n : Nat) :
    IsPublic (s ++ toString n) where
  toIsName := h.toIsName.append_toString n
  plain := by
    rw [head?_append_of_isSpelling h.spelling]
    exact h.plain

/-- A name made public is public. -/
theorem isPublic_guardUnderscore {s : String} (h : IsName s) : IsPublic (guardUnderscore s) := by
  unfold guardUnderscore
  split
  · have hmodel : IsSpelling "Model".toList :=
      ⟨Or.inl (by decide), List.all_eq_true.mp (by decide)⟩
    have hspelling :
        IsSpelling ("Model" ++ String.ofList (s.toList.dropWhile (· == '_'))).toList := by
      rw [String.toList_append]
      refine hmodel.append fun c hc => h.spelling.isWordChar c ?_
      rw [String.toList_ofList] at hc
      exact (List.dropWhile_sublist _).subset hc
    have hhead : ("Model" ++ String.ofList (s.toList.dropWhile (· == '_'))).toList.head?
        = some 'M' := head?_append_of_isSpelling hmodel _
    refine ⟨⟨hspelling, fun hmem => ?_⟩, by rw [hhead]; decide⟩
    -- no keyword starts like the word in front
    have hall : ∀ w ∈ keywords, w.toList.head? ≠ some 'M' := by decide
    exact hall _ hmem hhead
  · next hstart =>
    refine ⟨h, fun hhead => hstart ?_⟩
    obtain ⟨rest, hrest⟩ := List.head?_eq_some_iff.mp hhead
    rw [hrest]
    rfl

/-- The name of a schema gives a public name. -/
theorem isPublic_of_classBase {t : Tables} {key : Scalar} {base : String}
    (h : classBase t key = .ok base) : IsPublic base := by
  unfold classBase at h
  split at h
  · rw [← Except.ok.inj h]
    exact isPublic_guardUnderscore (Identifier.isName_ofString _)
  · split at h
    · cases h
    · rw [← Except.ok.inj h]
      exact isPublic_guardUnderscore ⟨⟨Or.inr rfl, by simp⟩, by decide⟩

/-- All candidates for a class are public. -/
theorem isPublic_of_has {base name : String} (hbase : IsPublic base)
    (h : (Candidates.numbered base "").Has name) : IsPublic name := by
  rcases h with hfirst | ⟨i, rfl⟩
  · rw [List.mem_singleton.mp hfirst]
    exact hbase
  · unfold Candidates.tailAt Candidates.numbered
    dsimp only
    rw [String.append_empty]
    exact hbase.append_toString (i + 2)

-- ====================================================== names of fields

/-- The words of a property have no capital. -/
theorem isUpper_of_mem_snake {t : Tables} {wireName : String} {c : Char}
    (h : c ∈ (t.snake wireName).toList) : c.isUpper = false := by
  unfold Tables.snake Words.snake Words.lowerWords at h
  rw [String.toList_ofList] at h
  rcases Text.mem_join h with hsep | ⟨word, hword, hc⟩
  · rw [List.mem_singleton.mp hsep]
    rfl
  · obtain ⟨w, -, rfl⟩ := List.mem_map.mp hword
    exact Text.isUpper_of_mem_lowerAfter hc

/-- A stem for names of fields: a spelling without capitals that does not start with an
underscore. -/
structure IsStem (s : String) : Prop where
  spelling : IsSpelling s.toList
  plain : s.toList.head? ≠ some '_'
  noCapital : ∀ c ∈ s.toList, c.isUpper = false

/-- What is behind a stem makes it longer. -/
theorem IsStem.append {s : String} (h : IsStem s) {behind : String}
    (hword : ∀ c ∈ behind.toList, isWordChar c = true)
    (hlower : ∀ c ∈ behind.toList, c.isUpper = false) : IsStem (s ++ behind) where
  spelling := by
    rw [String.toList_append]
    exact h.spelling.append hword
  plain := by
    rw [head?_append_of_isSpelling h.spelling]
    exact h.plain
  noCapital := by
    rw [String.toList_append]
    exact List.forall_mem_append.mpr ⟨h.noCapital, hlower⟩

/-- A stem that is no keyword is the name of a field. -/
theorem IsStem.isFieldName {s : String} (h : IsStem s) (hkeyword : s ∉ keywords) :
    IsFieldName s where
  spelling := h.spelling
  notKeyword := hkeyword
  plain := h.plain
  noCapital := h.noCapital

/-- The text ends in an underscore or in a digit. -/
def EndsNumbered (s : String) : Prop :=
  s.toList.getLast?.any (fun c => c == '_' || c.isDigit) = true

instance (s : String) : Decidable (EndsNumbered s) :=
  inferInstanceAs (Decidable (_ = true))

theorem endsNumbered_underscore (s : String) : EndsNumbered (s ++ "_") := by
  simp [EndsNumbered]

theorem endsNumbered_toString (s : String) (n : Nat) : EndsNumbered (s ++ toString n) := by
  have hlast := Text.any_isDigit_append_toString s n
  unfold EndsNumbered
  cases hend : (s ++ toString n).toList.getLast? with
  | none =>
      rw [hend] at hlast
      cases hlast
  | some c =>
      rw [hend] at hlast
      have hdigit : c.isDigit = true := hlast
      simp [hdigit]

/-- No keyword, no import and no type ends so. -/
theorem not_endsNumbered_of_avoided {s : String} (h : s ∈ keywords ++ (imports ++ builtinTypes)) :
    ¬ EndsNumbered s := by
  have hall : ∀ w ∈ keywords ++ (imports ++ builtinTypes), ¬ EndsNumbered w := by decide +kernel
  exact hall s h

/-- So a stem that does is the name of a field. -/
theorem IsStem.isFieldName_of_endsNumbered {s : String} (h : IsStem s) (hends : EndsNumbered s) :
    IsFieldName s :=
  h.isFieldName fun hmem => not_endsNumbered_of_avoided (List.mem_append_left _ hmem) hends

/-- Attributes of which none ends so leave fields their names. -/
theorem leavesFieldNames_of_forall {attributes : List String}
    (hplaceholder : placeholder ∉ attributes)
    (h : ∀ name ∈ attributes, ¬ EndsNumbered name) : LeavesFieldNames attributes := by
  refine ⟨hplaceholder, fun name hname _ base => ?_⟩
  refine ⟨?_, fun n => ?_⟩
  · rintro rfl
    exact h _ hname (endsNumbered_underscore base)
  · rintro rfl
    exact h _ hname (endsNumbered_toString (base ++ "_") n)

/-- The attributes of models in one release of the library do. -/
theorem leavesFieldNames_standardAttributes : LeavesFieldNames standardAttributes :=
  leavesFieldNames_of_forall (by decide) (by decide +kernel)

/-- An underscore behind a name, or one and a number, leads to no name that is reserved. -/
theorem notMem_reservedFields {attributes : List String} (h : LeavesFieldNames attributes)
    {s base : String}
    (hplain : s.toList.head? ≠ some '_')
    (hs : s = base ++ "_" ∨ ∃ n : Nat, s = base ++ "_" ++ toString n) :
    s ∉ reservedFields attributes := by
  have hends : EndsNumbered s := by
    rcases hs with rfl | ⟨n, rfl⟩
    · exact endsNumbered_underscore base
    · exact endsNumbered_toString (base ++ "_") n
  unfold reservedFields
  rw [List.append_assoc, List.mem_append]
  rintro (hattribute | hown)
  · rcases hs with heq | ⟨n, heq⟩
    · exact (h.endPlainly s hattribute hplain base).1 heq
    · exact (h.endPlainly s hattribute hplain base).2 n heq
  · exact not_endsNumbered_of_avoided (List.mem_append_right _ hown) hends

/-- The name of a field is the placeholder, or else a stem, with an underscore behind it if it must
avoid the stem. -/
theorem fieldBase_cases (attributes : List String) (t : Tables) (wireName : String) :
    fieldBase attributes t wireName = placeholder
      ∨ ∃ stem, IsStem stem ∧ fieldBase attributes t wireName
        = if keywords.contains stem || (reservedFields attributes).contains stem then stem ++ "_"
          else stem := by
  unfold fieldBase
  dsimp only
  split
  · exact .inl rfl
  · next c rest htrim =>
    refine .inr ⟨_, ?_, rfl⟩
    have husable : ∀ d ∈ c :: rest, isWordChar d = true ∧ d.isUpper = false := by
      intro d hd
      rw [← htrim] at hd
      obtain ⟨hmem, hword⟩ := List.mem_filter.mp ((Text.trimBy_sublist _ _).subset hd)
      exact ⟨hword, isUpper_of_mem_snake hmem⟩
    have hplain : c ≠ '_' := by simpa using Text.trimBy_cons htrim
    split
    · refine ⟨?_, ?_, ?_⟩
      · rw [String.toList_ofList]
        refine ⟨Or.inl (by decide), List.forall_mem_cons.mpr ⟨by decide, fun d hd => ?_⟩⟩
        exact (husable d hd).1
      · rw [String.toList_ofList]
        simp
      · rw [String.toList_ofList]
        refine List.forall_mem_cons.mpr ⟨by decide, List.forall_mem_cons.mpr ⟨by decide, ?_⟩⟩
        exact fun d hd => (husable d hd).2
    · next hdigit =>
      refine ⟨?_, ?_, ?_⟩
      · rw [String.toList_ofList]
        refine ⟨Or.inl ?_, fun d hd => (husable d (List.mem_cons_of_mem _ hd)).1⟩
        have hc := (husable c List.mem_cons_self).1
        simpa [isWordChar, Char.isAlphanum, hplain, hdigit] using hc
      · rw [String.toList_ofList]
        simpa using hplain
      · rw [String.toList_ofList]
        exact fun d hd => (husable d hd).2

/-- The stem with an underscore is a stem again. -/
theorem IsStem.append_underscore {s : String} (h : IsStem s) : IsStem (s ++ "_") :=
  h.append (List.all_eq_true.mp (by decide)) (by simp)

theorem isStem_placeholder : IsStem placeholder :=
  ⟨⟨Or.inl (by decide), List.all_eq_true.mp (by decide)⟩, by decide,
    by simp [placeholder]⟩

/-- The name of a property gives the name of a field. -/
theorem isFieldName_fieldBase (attributes : List String) (t : Tables) (wireName : String) :
    IsFieldName (fieldBase attributes t wireName) := by
  obtain heq | ⟨stem, hstem, heq⟩ := fieldBase_cases attributes t wireName
  · rw [heq]
    exact isStem_placeholder.isFieldName (by decide)
  rw [heq]
  split
  · exact hstem.append_underscore.isFieldName_of_endsNumbered (endsNumbered_underscore stem)
  · next hfree =>
    rw [Bool.or_eq_true, not_or, List.contains_iff_mem] at hfree
    exact hstem.isFieldName hfree.1

/-- And one that is not reserved. -/
theorem fieldBase_notMem_reservedFields {attributes : List String} (h : LeavesFieldNames attributes)
    (t : Tables) (wireName : String) :
    fieldBase attributes t wireName ∉ reservedFields attributes := by
  obtain heq | ⟨stem, hstem, heq⟩ := fieldBase_cases attributes t wireName
  · rw [heq]
    unfold reservedFields
    rw [List.append_assoc, List.mem_append, not_or]
    exact ⟨h.placeholder, by decide⟩
  rw [heq]
  split
  · exact notMem_reservedFields h hstem.append_underscore.plain (.inl rfl)
  · next hfree =>
    rw [Bool.or_eq_true, not_or, List.contains_iff_mem, List.contains_iff_mem] at hfree
    exact hfree.2

/-- A number behind an underscore behind the name of a field gives the name of a field. -/
theorem IsFieldName.append_toString {s : String} (h : IsFieldName s) (n : Nat) :
    IsFieldName (s ++ "_" ++ toString n) := by
  have hdigits : ∀ c ∈ (toString n).toList, c.isDigit = true := fun c hc =>
    Text.isDigit_of_mem_toString hc
  have hstem : IsStem (s ++ "_") :=
    (IsStem.mk h.spelling h.plain h.noCapital).append_underscore
  refine (hstem.append ?_ ?_).isFieldName_of_endsNumbered (endsNumbered_toString _ n)
  · exact fun c hc => Identifier.isWordChar_of_isDigit (hdigits c hc)
  · intro c hc
    have hnone := Text.forall_of_isDigit (p := fun c => !c.isUpper) (by decide) (hdigits c hc)
    simpa using hnone

/-- All candidates for a field are names of fields. -/
theorem isFieldName_of_has {attributes : List String} {t : Tables} {wireName name : String}
    (h : (Candidates.numbered (fieldBase attributes t wireName) "_").Has name) :
    IsFieldName name := by
  have hbase := isFieldName_fieldBase attributes t wireName
  rcases h with hfirst | ⟨i, rfl⟩
  · rw [List.mem_singleton.mp hfirst]
    exact hbase
  · exact hbase.append_toString (i + 2)

/-- And none is reserved. -/
theorem notMem_reservedFields_of_has {attributes : List String}
    (hleaves : LeavesFieldNames attributes)
    {t : Tables} {wireName name : String}
    (h : (Candidates.numbered (fieldBase attributes t wireName) "_").Has name) :
    name ∉ reservedFields attributes := by
  have hplain := (isFieldName_of_has h).plain
  rcases h with hfirst | ⟨i, rfl⟩
  · rw [List.mem_singleton.mp hfirst]
    exact fieldBase_notMem_reservedFields hleaves t wireName
  · exact notMem_reservedFields hleaves hplain (.inr ⟨i + 2, rfl⟩)

/-- The name of a field is its own lower case. -/
theorem IsFieldName.lowered_eq {s : String} (h : IsFieldName s) : Text.lowered s = s := by
  have hall : ∀ n < 128, (Char.ofNat n).isUpper = false → (Char.ofNat n).toLower = Char.ofNat n := by
    decide
  refine Text.lowered_eq_self fun c hc => ?_
  have hascii := Identifier.toNat_lt_of_isWordChar (h.spelling.isWordChar c hc)
  have hlower := hall c.toNat hascii
  rw [Char.ofNat_toNat] at hlower
  exact ⟨hascii, hlower (h.noCapital c hc)⟩

end ApiCommands.ModelNames
