/-
Names that clash inside a group.

# Who stands behind the parent

An operation whose base name stands at another place of the group as well
(`one_lt_count_iff`) is named behind its parent, if its path has two literals or
more and the name of the parent leaves anything (`parentPrefixed?_eq_some_iff`).
This is decided for all operations before the first name is claimed, so it
holds of every sharer, the first one included.

# Which candidate it gets

What an operation is called is then the first candidate of its chain that none
of the names before it takes: the chain is that of the name behind the parent,
or of the base name (`resolveGroup_getElem?`). Every candidate of the first kind
is the name behind the parent, or has it in front
(`exists_suffix_of_has`).
-/
import ApiCommands.Naming.Tables.Standard
import ApiCommands.Proofs.Naming.Alias
import ApiCommands.Proofs.Naming.CommandName
import Mathlib.Data.List.NodupEquivFin

namespace ApiCommands

/-- A value at place `k` is counted twice or more exactly if it stands at another place too. -/
theorem one_lt_count_iff {bases : List String} {base : String} {k : Nat}
    (hk : bases[k]? = some base) :
    1 < bases.count base ↔ ∃ j, j ≠ k ∧ bases[j]? = some base := by
  show 2 ≤ bases.count base ↔ _
  rw [← List.duplicate_iff_two_le_count, List.duplicate_iff_exists_distinct_get]
  constructor
  · intro h
    obtain ⟨i, j, hij, hi, hj⟩ := h
    have hij : i.val < j.val := hij
    -- one of the two places is not `k`
    by_cases hik : i.val = k
    · refine ⟨j, by omega, ?_⟩
      rw [List.getElem?_eq_getElem j.isLt]
      exact congrArg some hj.symm
    · refine ⟨i, hik, ?_⟩
      rw [List.getElem?_eq_getElem i.isLt]
      exact congrArg some hi.symm
  · intro h
    obtain ⟨j, hjk, hj⟩ := h
    obtain ⟨hkl, hkeq⟩ := List.getElem?_eq_some_iff.mp hk
    obtain ⟨hjl, hjeq⟩ := List.getElem?_eq_some_iff.mp hj
    rcases Nat.lt_or_gt_of_ne hjk with hlt | hlt
    · exact ⟨⟨j, hjl⟩, ⟨k, hkl⟩, hlt, hjeq.symm, hkeq.symm⟩
    · exact ⟨⟨k, hkl⟩, ⟨j, hjl⟩, hlt, hkeq.symm, hjeq.symm⟩

namespace Namer

variable (n : Namer)

-- ====================================================== behind the parent

/-- `prefixed` is `name` behind that of the parent: the literal before the last one, on a path with
two literals or more. -/
def IsParentPrefixed (name : String) (op : Operation) (prefixed : String) : Prop :=
  ∃ front parent last written, op.literals = front ++ [parent, last]
    ∧ n.tables.kebab parent = .ok written ∧ prefixed = slug (written ++ "-" ++ name)
    ∧ prefixed ≠ ""

/-- The last but one of a list. -/
private theorem getLast?_dropLast_eq_some_iff {l : List String} {parent : String} :
    l.dropLast.getLast? = some parent ↔ ∃ front last, l = front ++ [parent, last] := by
  constructor
  · intro h
    obtain ⟨front, hfront⟩ := List.getLast?_eq_some_iff.mp h
    have hne : l ≠ [] := by
      rintro rfl
      simp at hfront
    refine ⟨front, l.getLast hne, ?_⟩
    calc l = l.dropLast ++ [l.getLast hne] := (List.dropLast_append_getLast hne).symm
      _ = front ++ [parent, l.getLast hne] := by simp [hfront]
  · rintro ⟨front, last, rfl⟩
    simp

theorem parentPrefixed?_eq_some_iff {name prefixed : String} {op : Operation} :
    n.parentPrefixed? name op = .ok (some prefixed) ↔ n.IsParentPrefixed name op prefixed := by
  unfold parentPrefixed?
  rw [← Operation.literals]
  cases hparent : op.literals.dropLast.getLast? with
  | none =>
      constructor
      · intro h
        cases h
      · rintro ⟨front, parent, last, -, hliterals, -⟩
        rw [getLast?_dropLast_eq_some_iff.mpr ⟨front, last, hliterals⟩] at hparent
        cases hparent
  | some parent =>
      dsimp only
      rw [Except.bind_eq_ok_iff]
      constructor
      · rintro ⟨written, hwritten, h⟩
        obtain ⟨front, last, hliterals⟩ := getLast?_dropLast_eq_some_iff.mp hparent
        have h := Except.ok.inj h
        split at h
        · cases h
        · next hne =>
          obtain rfl := Option.some.inj h
          exact ⟨front, parent, last, written, hliterals, hwritten, rfl, hne⟩
      · rintro ⟨front, parent', last, written, hliterals, hwritten, rfl, hne⟩
        have hsame : some parent = some parent' := by
          rw [← hparent]
          exact getLast?_dropLast_eq_some_iff.mpr ⟨front, last, hliterals⟩
        obtain rfl := Option.some.inj hsame
        refine ⟨written, hwritten, ?_⟩
        rw [if_neg hne]
        rfl

/-- A candidate of a chain that has the parent in front is its name, or that with something
behind. -/
theorem exists_suffix_of_has {name candidate : String} {op : Operation}
    (h : (n.commandCandidates name op true).Has candidate) :
    candidate = name ∨ ∃ suffix, suffix ≠ "" ∧ candidate = name ++ "-" ++ suffix := by
  rcases h with hpre | ⟨i, rfl⟩
  · rcases n.mem_preferred_commandCandidates hpre with rfl | ⟨hfalse, -⟩ | rfl | hid
    · exact Or.inl rfl
    · cases hfalse
    · refine Or.inr ⟨op.method.name, ?_, rfl⟩
      cases op.method <;> decide
    · obtain ⟨suffix, hsuffix, rfl⟩ := n.exists_suffix_of_idSuffixed? hid
      refine Or.inr ⟨suffix, ?_, rfl⟩
      rintro rfl
      exact absurd hsuffix.isBlank_eq_false (by decide)
  · refine Or.inr ⟨toString (i + 2), ?_, rfl⟩
    intro hnil
    have hdigit := Text.any_isDigit_append_toString "" (i + 2)
    rw [hnil] at hdigit
    simp at hdigit

-- ====================================================== names of a group

variable {ops : List Operation} {bases names : List String}

/-- The name at each place of a group is the first candidate of its operation that no name before
it takes. -/
theorem resolveGroup_getElem? (h : n.resolveGroup ops bases = .ok names) {k : Nat}
    {op : Operation} {base : String} (hop : ops[k]? = some op) (hbase : bases[k]? = some base) :
    ∃ o name, n.groupOffers (fun base => decide (1 < bases.count base)) op base = .ok o
      ∧ names[k]? = some name
      ∧ o.candidates.IsFirstFree (Taken.ofList (names.take k)) name := by
  obtain ⟨offers, hoffers, rfl⟩ := n.resolveGroup_eq_ok h
  have hpair : (ops.zip bases)[k]? = some (op, base) := List.getElem?_zip_eq_some.mpr ⟨hop, hbase⟩
  obtain ⟨o, ho, hk⟩ := Except.mapM_getElem? hoffers hpair
  have hchain : (offers.map Offers.candidates)[k]? = some o.candidates := by
    rw [List.getElem?_map, hk]
    rfl
  obtain ⟨name, hname, hfirst⟩ := Taken.empty.claimAll_getElem? hchain
  exact ⟨o, name, ho, hname, hfirst.congr (Taken.contains_foldl_insert _)⟩

/-- A shared base name is put behind the parent, if there is one to put it behind. -/
theorem groupOffers_of_shared {shared : String → Bool} {op : Operation} {o : Offers Fault}
    {base prefixed : String} (ho : n.groupOffers shared op base = .ok o)
    (hshared : shared base = true) (hparent : n.IsParentPrefixed base op prefixed) :
    o = n.commandOffers prefixed op true := by
  have hprefixed := n.parentPrefixed?_eq_some_iff.mpr hparent
  rcases n.groupOffers_eq_ok_iff.mp ho with ⟨other, -, hother, rfl⟩ | ⟨hfalse | hnone, rfl⟩
  · rw [hprefixed] at hother
    obtain rfl := Option.some.inj (Except.ok.inj hother)
    rfl
  · rw [hshared] at hfalse
    cases hfalse
  · rw [hprefixed] at hnone
    cases hnone

/-- Any other base name is the first candidate itself. -/
theorem groupOffers_of_own {shared : String → Bool} {op : Operation} {o : Offers Fault}
    {base : String} (ho : n.groupOffers shared op base = .ok o)
    (h : shared base = false ∨ ∀ prefixed, ¬n.IsParentPrefixed base op prefixed) :
    o = n.commandOffers base op false := by
  rcases n.groupOffers_eq_ok_iff.mp ho with ⟨prefixed, hshared, hprefixed, rfl⟩ | ⟨-, rfl⟩
  · rcases h with hfalse | hnone
    · rw [hshared] at hfalse
      cases hfalse
    · exact absurd (n.parentPrefixed?_eq_some_iff.mp hprefixed) (hnone prefixed)
  · rfl

/-- A group of operations with as many base names gets names, if no fragment of the vocabulary is
empty. Whenever it does, these are as many, in order. An operation whose base name stands at another
place as well, and that has a parent to be named behind, gets the first candidate for the name behind
its parent that no name before it takes: this name itself, or it with something behind. Any other
operation gets the first candidate for its base name that no name before it takes. -/
theorem resolveGroup_first_free (hlen : bases.length = ops.length) :
    ("" ∉ n.tables.wordFragments → ∃ names, n.resolveGroup ops bases = .ok names)
      ∧ ∀ names, n.resolveGroup ops bases = .ok names → names.length = ops.length
      ∧ ∀ k op base, ops[k]? = some op → bases[k]? = some base →
        ∃ name, names[k]? = some name
          ∧ (∀ prefixed, (∃ j, j ≠ k ∧ bases[j]? = some base) →
              n.IsParentPrefixed base op prefixed →
              (n.commandCandidates prefixed op true).IsFirstFree (Taken.ofList (names.take k)) name
                ∧ (name = prefixed ∨ ∃ suffix, suffix ≠ "" ∧ name = prefixed ++ "-" ++ suffix))
          ∧ ((∀ j, j ≠ k → bases[j]? ≠ some base) ∨
              (∀ prefixed, ¬n.IsParentPrefixed base op prefixed) →
              (n.commandCandidates base op false).IsFirstFree
                (Taken.ofList (names.take k)) name) := by
  refine ⟨fun hfragments => exists_resolveGroup_eq_ok hfragments ops bases, ?_⟩
  intro names hnames
  refine ⟨n.length_resolveGroup hnames hlen, ?_⟩
  intro k op base hop hbase
  obtain ⟨o, name, ho, hname, hfirst⟩ := n.resolveGroup_getElem? hnames hop hbase
  have hshared : decide (1 < bases.count base) = true ↔ ∃ j, j ≠ k ∧ bases[j]? = some base := by
    rw [decide_eq_true_iff, one_lt_count_iff hbase]
  refine ⟨name, hname, ?_, ?_⟩
  · intro prefixed hother hparent
    obtain rfl := n.groupOffers_of_shared ho (hshared.mpr hother) hparent
    exact ⟨hfirst, n.exists_suffix_of_has hfirst.has⟩
  · intro hown
    obtain rfl := n.groupOffers_of_own ho (hown.imp_left fun hnone => by
      rw [← Bool.not_eq_true, hshared]
      rintro ⟨j, hj, hsame⟩
      exact hnone j hj hsame)
    exact hfirst

end Namer

-- ====================================================== tags of tasks and of templates

namespace SharedTags

/-- An update of the tags of something. -/
def update (path id : String) : Operation :=
  { tag := "TaskTags", method := .post, path := path, id := id, methodName := id }

/-- Two updates of tags, and an operation whose base name is what the first one is called. -/
def group : List Operation :=
  [update "/tasks/updatetags" "UpdateTaskTags",
   update "/tasktemplates/updatetags" "UpdateTemplateTags", update "/tags/{tagId}" "UpdateTag"]

/-- Their base names. -/
def bases : List String := ["update-tags", "update-tags", "tasks-update-tags"]

/-- The standard vocabulary and rules. -/
def namer : Namer := ⟨.standard, Rule.standard⟩

end SharedTags

/-- The first of the two updates stands behind its parent as well as the second. -/
theorem Namer.sharedTags_named_behind_parent :
    SharedTags.bases.length = SharedTags.group.length
      ∧ ∃ names name, SharedTags.namer.resolveGroup SharedTags.group SharedTags.bases = .ok names
        ∧ names[0]? = some name
        ∧ (name = "tasks-update-tags"
          ∨ ∃ suffix, suffix ≠ "" ∧ name = "tasks-update-tags" ++ "-" ++ suffix) := by
  have hlen : SharedTags.bases.length = SharedTags.group.length := rfl
  have hfragments : "" ∉ SharedTags.namer.tables.wordFragments := by decide
  have hname : Slug.IsName "tasks" :=
    Slug.IsWord.isSlug (Slug.IsWord.of_all (by decide) (by decide))
  have hprepared : Words.prepared .standard "tasks".toList = "tasks".toList :=
    Words.prepared_eq_self (List.forall_mem_singleton.mpr ⟨'S', by decide, by decide⟩)
  have hkebab : SharedTags.namer.tables.kebab "tasks" = .ok "tasks" :=
    (Tables.kebab_eq_self_iff hfragments hname hprepared).mpr (by decide)
  have hparent : SharedTags.namer.IsParentPrefixed "update-tags"
      (SharedTags.update "/tasks/updatetags" "UpdateTaskTags") "tasks-update-tags" :=
    ⟨[], "tasks", "updatetags", "tasks", by decide, hkebab, by decide, by decide⟩
  obtain ⟨hanswers, hall⟩ := SharedTags.namer.resolveGroup_first_free hlen
  obtain ⟨names, hnames⟩ := hanswers hfragments
  obtain ⟨name, hname, hshared, -⟩ := (hall names hnames).2 0 _ "update-tags" rfl rfl
  exact ⟨hlen, names, name, hnames, hname, (hshared _ ⟨1, by decide, rfl⟩ hparent).2⟩

end ApiCommands
