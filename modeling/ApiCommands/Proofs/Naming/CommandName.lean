/-
Command names: their form, and that a tag has each of them once.

# Form

Every name a command can get is a slug. Base names are slugs or the fallback
word (`isName_baseName`), and each candidate of a chain puts something behind
its name that is a slug itself: the method, the id, a number
(`isName_of_has_commandCandidates`). A parent's name in front is no exception,
since the result is made a slug again. Which of them are made does not matter:
where making one goes on for ever there is no name (`resolveGroup_eq_ok`).

# Uniqueness

Names are claimed tag by tag, each tag with nothing taken. Inside a tag they
differ because they were claimed one after the other; two commands of
different tags are not compared at all. So the statement is about pairs of
commands with one tag (`pairwise_namedGroups`), and it needs that the groups
are told apart by their tags.

Handler names are claimed in one run over all tags, in the order of the
commands (`commands_eq_ok`), so they differ across tags as well
(`nodup_handler`).

# When there are names

All that is made on the way is written in lower case with hyphens, which ends if
no fragment is empty. So there are commands then (`exists_commands_eq_ok`).
-/
import ApiCommands.Naming.CommandName
import ApiCommands.Proofs.Naming.Grouping
import ApiCommands.Proofs.Naming.Identifier
import ApiCommands.Proofs.Naming.PathShape
import ApiCommands.Proofs.Naming.Slug

namespace ApiCommands

/-- The name of a method is a word. -/
theorem Method.isName_name (m : Method) : Slug.IsName m.name := by
  refine Slug.IsWord.isSlug ?_
  cases m <;> exact Slug.IsWord.of_all (by decide) (by decide)

namespace Namer

variable (n : Namer)

-- ====================================================== form

/-- The name a rule gives is a slug. -/
theorem isName_of_ruleName? {collections : List String} {op : Operation} {found : String × String}
    (h : n.ruleName? collections op = .ok (some found)) : Slug.IsName found.1 := by
  obtain ⟨shape, -, h⟩ := Except.map_eq_ok_iff.mp h
  unfold Rule.nameOf? at h
  dsimp only at h
  split at h
  · cases h
  · split at h
    · cases h
    · next hne =>
      cases h
      exact Slug.isName_slug hne

/-- The name by the operation id is a slug. -/
theorem isName_fallbackName {op : Operation} {name : String} (h : n.fallbackName op = .ok name) :
    Slug.IsName name := by
  obtain ⟨written, -, h⟩ := Except.bind_eq_ok_iff.mp h
  obtain rfl := Except.ok.inj h
  split
  · exact Slug.IsWord.isSlug (Slug.IsWord.of_all (by decide) (by decide))
  · next hne => exact Slug.isName_slug hne

/-- A base name is a slug. -/
theorem isName_baseName {collections : List String} {op : Operation} {name : String}
    (h : n.baseName collections op = .ok name) : Slug.IsName name := by
  obtain ⟨found?, hrule, h⟩ := Except.bind_eq_ok_iff.mp h
  cases found? with
  | none => exact n.isName_fallbackName h
  | some found =>
      obtain rfl := Except.ok.inj h
      exact n.isName_of_ruleName? hrule

/-- A name behind that of the parent is a slug. -/
theorem isName_of_parentPrefixed? {name prefixed : String} {op : Operation}
    (h : n.parentPrefixed? name op = .ok (some prefixed)) : Slug.IsName prefixed := by
  unfold parentPrefixed? at h
  split at h
  · cases h
  · obtain ⟨written, -, h⟩ := Except.bind_eq_ok_iff.mp h
    have h := Except.ok.inj h
    split at h
    · cases h
    · next hne =>
      obtain rfl := Option.some.inj h
      exact Slug.isName_slug hne

/-- The operation id behind a name, if the id leaves anything. -/
theorem exists_suffix_of_idSuffixed? {name suffixed : String} {op : Operation}
    (h : n.idSuffixed? name op = .ok (some suffixed)) :
    ∃ suffix, Slug.IsName suffix ∧ suffixed = name ++ "-" ++ suffix := by
  obtain ⟨written, -, h⟩ := Except.bind_eq_ok_iff.mp h
  have h := Except.ok.inj h
  split at h
  · cases h
  · next hne => exact ⟨_, Slug.isName_slug hne, (Option.some.inj h).symm⟩

/-- A preferred candidate is the name, the name behind its parent, or the name with the method or
the id behind. -/
theorem mem_preferred_commandCandidates {name candidate : String} {op : Operation}
    {isPrefixed : Bool} (h : candidate ∈ (n.commandCandidates name op isPrefixed).preferred) :
    candidate = name
      ∨ (isPrefixed = false ∧ n.parentPrefixed? name op = .ok (some candidate))
      ∨ candidate = name ++ "-" ++ op.method.name
      ∨ n.idSuffixed? name op = .ok (some candidate) := by
  have hoffered := Offers.mem_made h
  simp only [commandOffers, List.mem_cons, List.not_mem_nil, or_false, Except.ok.injEq,
    Option.some.injEq] at hoffered
  rcases hoffered with heq | hparent | heq | hid
  · exact Or.inl heq
  · cases isPrefixed with
    | true => simp at hparent
    | false => exact Or.inr (Or.inl ⟨rfl, hparent.symm⟩)
  · exact Or.inr (Or.inr (Or.inl heq))
  · exact Or.inr (Or.inr (Or.inr hid.symm))

/-- Every candidate of the chain of a slug is a slug. -/
theorem isName_of_has_commandCandidates {name candidate : String} {op : Operation}
    {isPrefixed : Bool} (hname : Slug.IsName name)
    (h : (n.commandCandidates name op isPrefixed).Has candidate) : Slug.IsName candidate := by
  rcases h with hpre | ⟨i, rfl⟩
  · rcases n.mem_preferred_commandCandidates hpre with rfl | ⟨-, hparent⟩ | rfl | hid
    · exact hname
    · exact n.isName_of_parentPrefixed? hparent
    · exact hname.hyphen op.method.isName_name
    · obtain ⟨suffix, hsuffix, rfl⟩ := n.exists_suffix_of_idSuffixed? hid
      exact hname.hyphen hsuffix
  · exact hname.hyphen (Slug.isName_toString (i + 2))

-- ====================================================== one group

/-- What is offered to an operation in its group: the chain of its base name behind its parent, if
the base name is shared and there is a parent to put it behind, else that of the base name. -/
theorem groupOffers_eq_ok_iff {shared : String → Bool} {op : Operation} {base : String}
    {o : Offers Fault} :
    n.groupOffers shared op base = .ok o
      ↔ (∃ prefixed, shared base = true ∧ n.parentPrefixed? base op = .ok (some prefixed)
          ∧ n.commandOffers prefixed op true = o)
        ∨ (shared base = false ∨ n.parentPrefixed? base op = .ok none)
          ∧ n.commandOffers base op false = o := by
  unfold groupOffers
  rw [Except.bind_eq_ok_iff]
  cases hshared : shared base with
  | true =>
      rw [if_pos rfl]
      constructor
      · rintro ⟨prefixed?, hparent, h⟩
        cases prefixed? with
        | none => exact Or.inr ⟨Or.inr hparent, Except.ok.inj h⟩
        | some prefixed => exact Or.inl ⟨prefixed, rfl, hparent, Except.ok.inj h⟩
      · rintro (⟨prefixed, -, hparent, rfl⟩ | ⟨hfalse | hparent, rfl⟩)
        · exact ⟨some prefixed, hparent, rfl⟩
        · cases hfalse
        · exact ⟨none, hparent, rfl⟩
  | false =>
      rw [if_neg Bool.false_ne_true]
      constructor
      · rintro ⟨prefixed?, hnone, h⟩
        obtain rfl := Except.ok.inj hnone
        exact Or.inr ⟨Or.inl rfl, Except.ok.inj h⟩
      · rintro (⟨prefixed, hfalse, -⟩ | ⟨-, rfl⟩)
        · cases hfalse
        · exact ⟨none, rfl, rfl⟩

/-- Every candidate for a base name that is a slug is a slug, in its group as well. -/
theorem isName_of_has_groupOffers {shared : String → Bool} {op : Operation} {o : Offers Fault}
    {base candidate : String} (hbase : Slug.IsName base)
    (ho : n.groupOffers shared op base = .ok o) (h : o.candidates.Has candidate) :
    Slug.IsName candidate := by
  rcases n.groupOffers_eq_ok_iff.mp ho with ⟨prefixed, -, hparent, rfl⟩ | ⟨-, rfl⟩
  · exact n.isName_of_has_commandCandidates (n.isName_of_parentPrefixed? hparent) h
  · exact n.isName_of_has_commandCandidates hbase h

/-- The names of a group are claimed in one run of what is offered to its operations. -/
theorem resolveGroup_eq_ok {ops : List Operation} {bases names : List String}
    (h : n.resolveGroup ops bases = .ok names) :
    ∃ offers, (ops.zip bases).mapM (fun (op, base) =>
        n.groupOffers (fun base => decide (1 < bases.count base)) op base) = .ok offers
      ∧ names = Taken.empty.claimAll (offers.map Offers.candidates) := by
  obtain ⟨offers, hoffers, h⟩ := Except.bind_eq_ok_iff.mp h
  exact ⟨offers, hoffers, (Taken.empty.claimAll_of_claimAllOffered h).symm⟩

theorem length_resolveGroup {ops : List Operation} {bases names : List String}
    (h : n.resolveGroup ops bases = .ok names) (hlen : bases.length = ops.length) :
    names.length = ops.length := by
  obtain ⟨offers, hoffers, rfl⟩ := n.resolveGroup_eq_ok h
  rw [Taken.length_claimAll, List.length_map, Except.length_mapM hoffers, List.length_zip, hlen,
    Nat.min_self]

/-- The names of a group are slugs, if its base names are. -/
theorem isName_of_mem_resolveGroup {ops : List Operation} {bases names : List String}
    {name : String} (hbases : ∀ base ∈ bases, Slug.IsName base)
    (h : n.resolveGroup ops bases = .ok names) (hname : name ∈ names) : Slug.IsName name := by
  obtain ⟨offers, hoffers, rfl⟩ := n.resolveGroup_eq_ok h
  obtain ⟨c, hc, hhas⟩ := Taken.empty.exists_has_of_mem_claimAll hname
  obtain ⟨o, ho, rfl⟩ := List.mem_map.mp hc
  obtain ⟨⟨op, base⟩, hpair, hoffer⟩ := Except.exists_of_mem_mapM hoffers ho
  exact n.isName_of_has_groupOffers (hbases base (List.of_mem_zip hpair).2) hoffer hhas

/-- The names of a group are all different. -/
theorem nodup_resolveGroup {ops : List Operation} {bases names : List String}
    (h : n.resolveGroup ops bases = .ok names) : names.Nodup := by
  obtain ⟨offers, -, rfl⟩ := n.resolveGroup_eq_ok h
  exact (Taken.empty.nodup_claimAll _).of_map

-- ====================================================== all groups

/-- The groups by tag are the groups in another order. -/
theorem tagGroups_perm (ops : List Operation) :
    (tagGroups ops).Perm (grouped (fun op : Operation => op.tag) ops) :=
  List.mergeSort_perm _ _

/-- The operations of a group have its tag. -/
theorem tag_eq_of_mem {ops : List Operation} {group : String × List Operation}
    (hgroup : group ∈ tagGroups ops) {op : Operation} (hop : op ∈ group.2) : op.tag = group.1 :=
  key_eq_of_mem ((tagGroups_perm ops).mem_iff.mp hgroup) hop

/-- A group whose operations have base names gets names, each operation its own. -/
theorem namedGroup_eq_ok {collections : List String} {group : List Operation}
    {named : List (Operation × String)} (h : n.namedGroup collections group = .ok named) :
    ∃ bases names, group.mapM (n.baseName collections) = .ok bases
      ∧ n.resolveGroup group bases = .ok names ∧ names.length = group.length
      ∧ named = group.zip names := by
  obtain ⟨bases, hbases, h⟩ := Except.bind_eq_ok_iff.mp h
  obtain ⟨names, hnames, h⟩ := Except.bind_eq_ok_iff.mp h
  exact ⟨bases, names, hbases, hnames, n.length_resolveGroup hnames (Except.length_mapM hbases),
    (Except.ok.inj h).symm⟩

/-- Naming a group leaves its operations as they are. -/
theorem map_fst_namedGroup {collections : List String} {group : List Operation}
    {named : List (Operation × String)} (h : n.namedGroup collections group = .ok named) :
    named.map Prod.fst = group := by
  obtain ⟨bases, names, -, -, hlen, rfl⟩ := n.namedGroup_eq_ok h
  exact List.map_fst_zip (Nat.le_of_eq hlen.symm)

/-- Its names are slugs. -/
theorem isName_of_mem_namedGroup {collections : List String} {group : List Operation}
    {named : List (Operation × String)} (h : n.namedGroup collections group = .ok named) :
    ∀ pair ∈ named, Slug.IsName pair.2 := by
  obtain ⟨bases, names, hbases, hnames, -, rfl⟩ := n.namedGroup_eq_ok h
  intro pair hpair
  refine n.isName_of_mem_resolveGroup (fun base hbase => ?_) hnames (List.of_mem_zip hpair).2
  obtain ⟨op, -, hop⟩ := Except.exists_of_mem_mapM hbases hbase
  exact n.isName_baseName hop

/-- And they are all different. -/
theorem nodup_map_snd_namedGroup {collections : List String} {group : List Operation}
    {named : List (Operation × String)} (h : n.namedGroup collections group = .ok named) :
    (named.map Prod.snd).Nodup := by
  obtain ⟨bases, names, -, hnames, hlen, rfl⟩ := n.namedGroup_eq_ok h
  rw [List.map_snd_zip (Nat.le_of_eq hlen)]
  exact n.nodup_resolveGroup hnames

variable {ops : List Operation} {named : List (Operation × String)}

/-- The groups are named one after the other. -/
theorem namedGroups_eq_ok (h : n.namedGroups ops = .ok named) :
    ∃ namedOf : String × List Operation → List (Operation × String),
      named = (tagGroups ops).flatMap namedOf
        ∧ ∀ group ∈ tagGroups ops,
          n.namedGroup (collectionPaths ops) group.2 = .ok (namedOf group) := by
  obtain ⟨groups, hgroups, rfl⟩ := Except.map_eq_ok_iff.mp h
  obtain ⟨namedOf, rfl, hnamed⟩ := Except.exists_eq_map_of_mapM hgroups
  exact ⟨namedOf, List.flatMap_def.symm, hnamed⟩

/-- The named operations are those of the groups, in order. -/
theorem map_fst_namedGroups (h : n.namedGroups ops = .ok named) :
    named.map Prod.fst = (tagGroups ops).flatMap Prod.snd := by
  obtain ⟨namedOf, rfl, hnamed⟩ := n.namedGroups_eq_ok h
  rw [List.map_flatMap]
  exact List.flatMap_congr fun group hgroup => n.map_fst_namedGroup (hnamed group hgroup)

/-- The names are slugs. -/
theorem isName_of_mem_namedGroups (h : n.namedGroups ops = .ok named)
    {pair : Operation × String} (hpair : pair ∈ named) : Slug.IsName pair.2 := by
  obtain ⟨namedOf, rfl, hnamed⟩ := n.namedGroups_eq_ok h
  obtain ⟨group, hgroup, hmem⟩ := List.mem_flatMap.mp hpair
  exact n.isName_of_mem_namedGroup (hnamed group hgroup) pair hmem

/-- Operations of one tag have different names. -/
theorem pairwise_namedGroups (h : n.namedGroups ops = .ok named) :
    named.Pairwise fun a b => a.1.tag = b.1.tag → a.2 ≠ b.2 := by
  obtain ⟨namedOf, rfl, hnamed⟩ := n.namedGroups_eq_ok h
  have htag : ∀ group ∈ tagGroups ops, ∀ pair ∈ namedOf group, pair.1.tag = group.1 := by
    intro group hgroup pair hpair
    refine tag_eq_of_mem hgroup ?_
    rw [← n.map_fst_namedGroup (hnamed group hgroup)]
    exact List.mem_map.mpr ⟨pair, hpair, rfl⟩
  rw [List.pairwise_flatMap]
  constructor
  · -- inside a group all names differ
    intro group hgroup
    have hnames := n.nodup_map_snd_namedGroup (hnamed group hgroup)
    refine (List.pairwise_map.mp hnames).imp ?_
    intro a b hne _
    exact hne
  · -- and no two groups have one tag
    refine (pairwise_key_ne (tagGroups_perm ops)).imp_of_mem fun hg hg' hne a ha b hb hsame => ?_
    exact absurd ((htag _ hg a ha).symm.trans (hsame.trans (htag _ hg' b hb))) hne

-- ====================================================== commands

variable {reserved : List String} {commands : List Command}

/-- The commands are named groups with a handler for each operation, and the handlers are claimed
in one run. -/
theorem commands_eq_ok (h : n.commands ops reserved = .ok commands) :
    ∃ named, n.namedGroups ops = .ok named
      ∧ commands.map (fun c => (c.operation, c.name)) = named
      ∧ commands.map (·.handler)
        = (Taken.ofList reserved).claimAll ((named.map Prod.fst).map n.handlerCandidates) := by
  obtain ⟨named, hnamed, h⟩ := Except.bind_eq_ok_iff.mp h
  obtain rfl := Except.ok.inj h
  refine ⟨named, hnamed, ?_, ?_⟩
  · unfold withHandlers
    rw [List.map_map]
    exact List.map_fst_zip (Nat.le_of_eq (by rw [Taken.length_claimAll, List.length_map]))
  · unfold withHandlers
    rw [List.map_map, List.map_map]
    exact List.map_snd_zip (Nat.le_of_eq (by rw [Taken.length_claimAll, List.length_map]))

/-- The commands have the operations of the groups, in order. -/
theorem map_operation_commands (h : n.commands ops reserved = .ok commands) :
    commands.map (·.operation) = (tagGroups ops).flatMap Prod.snd := by
  obtain ⟨named, hnamed, hpairs, -⟩ := n.commands_eq_ok h
  rw [← n.map_fst_namedGroups hnamed, ← hpairs, List.map_map]
  rfl

/-- The commands are the operations, up to the order. -/
theorem map_operation_commands_perm (h : n.commands ops reserved = .ok commands) :
    (commands.map (·.operation)).Perm ops := by
  rw [n.map_operation_commands h]
  exact flatMap_perm_of_perm_grouped (tagGroups_perm ops)

/-- The commands of a tag have its operations, in their order. -/
theorem map_operation_filter_commands (h : n.commands ops reserved = .ok commands)
    (tag : String) :
    (commands.filter fun c => c.tag == tag).map (·.operation)
      = ops.filter fun op => op.tag == tag := by
  rw [← filter_flatMap_of_perm_grouped (tagGroups_perm ops), ← n.map_operation_commands h,
    List.filter_map]
  rfl

/-- The names of commands are slugs. -/
theorem isName_name (h : n.commands ops reserved = .ok commands) {c : Command}
    (hc : c ∈ commands) : Slug.IsName c.name := by
  obtain ⟨named, hnamed, rfl, -⟩ := n.commands_eq_ok h
  exact n.isName_of_mem_namedGroups hnamed (List.mem_map.mpr ⟨c, hc, rfl⟩)

/-- Commands of one tag have different names. -/
theorem pairwise_commands (h : n.commands ops reserved = .ok commands) :
    commands.Pairwise fun c d => c.tag = d.tag → c.name ≠ d.name := by
  obtain ⟨named, hnamed, rfl, -⟩ := n.commands_eq_ok h
  exact List.pairwise_map.mp (n.pairwise_namedGroups hnamed)

-- ====================================================== handlers

/-- No two commands have the same handler, whatever the case and whatever their tags. -/
theorem nodup_handler (h : n.commands ops reserved = .ok commands) :
    (commands.map fun c => Text.lowered c.handler).Nodup := by
  obtain ⟨named, -, -, hhandlers⟩ := n.commands_eq_ok h
  have hnodup := (Taken.ofList reserved).nodup_claimAll
    ((named.map Prod.fst).map n.handlerCandidates)
  rwa [← hhandlers, List.map_map] at hnodup

variable {c : Command}

/-- No handler has a reserved name, whatever the case. -/
theorem handler_free (h : n.commands ops reserved = .ok commands) (hc : c ∈ commands) :
    ∀ name ∈ reserved, Text.lowered c.handler ≠ Text.lowered name := by
  obtain ⟨named, -, -, hhandlers⟩ := n.commands_eq_ok h
  have hmem : c.handler ∈ commands.map (·.handler) := List.mem_map.mpr ⟨c, hc, rfl⟩
  rw [hhandlers] at hmem
  exact Taken.contains_ofList_eq_false_iff.mp ((Taken.ofList reserved).claimAll_free hmem)

/-- Every handler can be used in the emitted source. -/
theorem isName_handler (h : n.commands ops reserved = .ok commands) (hc : c ∈ commands) :
    Identifier.IsName c.handler := by
  obtain ⟨named, -, -, hhandlers⟩ := n.commands_eq_ok h
  have hmem : c.handler ∈ commands.map (·.handler) := List.mem_map.mpr ⟨c, hc, rfl⟩
  rw [hhandlers] at hmem
  exact n.tables.isName_of_mem_claimAll hmem

-- ====================================================== when there are names

section

variable {n} (hfragments : "" ∉ n.tables.wordFragments)
include hfragments

/-- If no fragment is empty, every operation has a base name. -/
theorem exists_baseName_eq_ok (collections : List String) (op : Operation) :
    ∃ name, n.baseName collections op = .ok name := by
  refine Except.exists_bind_eq_ok (x := n.ruleName? collections op) ?_ fun found? => ?_
  · obtain ⟨shape, hshape⟩ := Tables.exists_shape_eq_ok hfragments collections op
    exact ⟨_, Except.map_eq_ok_iff.mpr ⟨shape, hshape, rfl⟩⟩
  · cases found? with
    | some found => exact ⟨found.1, rfl⟩
    | none =>
        refine Except.exists_bind_eq_ok (x := n.tables.idName op) ?_ fun _ => ⟨_, rfl⟩
        unfold Tables.idName
        dsimp only
        split
        · exact Tables.exists_kebab_eq_ok hfragments _
        · exact Tables.exists_kebab_eq_ok hfragments _

/-- It can be put behind its parent. -/
theorem exists_parentPrefixed?_eq_ok (name : String) (op : Operation) :
    ∃ prefixed?, n.parentPrefixed? name op = .ok prefixed? := by
  unfold parentPrefixed?
  split
  · exact ⟨none, rfl⟩
  · exact Except.exists_bind_eq_ok (Tables.exists_kebab_eq_ok hfragments _) fun _ => ⟨_, rfl⟩

/-- Everything else that is offered for a command name can be made as well. -/
theorem exists_of_mem_commandOffers (name : String) (op : Operation) (isPrefixed : Bool) :
    ∀ offer ∈ (n.commandOffers name op isPrefixed).offers, ∃ name?, offer = .ok name? := by
  have hparent : ∃ prefixed?,
      (if isPrefixed then .ok none else n.parentPrefixed? name op) = .ok prefixed? := by
    split
    · exact ⟨none, rfl⟩
    · exact exists_parentPrefixed?_eq_ok hfragments name op
  have hid : ∃ suffixed?, n.idSuffixed? name op = .ok suffixed? :=
    Except.exists_bind_eq_ok (Tables.exists_kebab_eq_ok hfragments _) fun _ => ⟨_, rfl⟩
  unfold commandOffers
  intro offer hoffer
  simp only [List.mem_cons, List.not_mem_nil, or_false] at hoffer
  rcases hoffer with rfl | rfl | rfl | rfl
  · exact ⟨_, rfl⟩
  · exact hparent
  · exact ⟨_, rfl⟩
  · exact hid

/-- So the names of a group can be told apart. -/
theorem exists_resolveGroup_eq_ok (ops : List Operation) (bases : List String) :
    ∃ names, n.resolveGroup ops bases = .ok names := by
  have hoffers : ∀ (shared : String → Bool) op base, ∃ o, n.groupOffers shared op base = .ok o := by
    intro shared op base
    refine Except.exists_bind_eq_ok ?_ fun prefixed? => ?_
    · split
      · exact exists_parentPrefixed?_eq_ok hfragments base op
      · exact ⟨none, rfl⟩
    · cases prefixed? with
      | some prefixed => exact ⟨_, rfl⟩
      | none => exact ⟨_, rfl⟩
  obtain ⟨offers, hmap⟩ := Except.exists_mapM_eq_ok_iff.mpr
    fun (pair : Operation × String) (_ : pair ∈ ops.zip bases) =>
      hoffers (fun base => decide (1 < bases.count base)) pair.1 pair.2
  have hmade : ∀ o ∈ offers, ∀ offer ∈ o.offers, ∃ name?, offer = .ok name? := by
    intro o ho
    obtain ⟨pair, -, ho⟩ := Except.exists_of_mem_mapM hmap ho
    rcases n.groupOffers_eq_ok_iff.mp ho with ⟨prefixed, -, -, rfl⟩ | ⟨-, rfl⟩
    · exact exists_of_mem_commandOffers hfragments _ _ _
    · exact exists_of_mem_commandOffers hfragments _ _ _
  obtain ⟨names, hnames⟩ := Taken.empty.exists_claimAllOffered_eq_ok hmade
  exact ⟨names, Except.bind_eq_ok_iff.mpr ⟨offers, hmap, hnames⟩⟩

/-- There are commands for any operations, if no fragment is empty. -/
theorem exists_commands_eq_ok (ops : List Operation) (reserved : List String) :
    ∃ commands, n.commands ops reserved = .ok commands := by
  refine Except.exists_bind_eq_ok (x := n.namedGroups ops) ?_ fun _ => ⟨_, rfl⟩
  obtain ⟨groups, hgroups⟩ := Except.exists_mapM_eq_ok_iff.mpr
    fun (group : String × List Operation) (_ : group ∈ tagGroups ops) =>
      Except.exists_bind_eq_ok
        (Except.exists_mapM_eq_ok_iff.mpr fun op (_ : op ∈ group.2) =>
          exists_baseName_eq_ok hfragments (collectionPaths ops) op)
        fun bases => Except.exists_bind_eq_ok
          (exists_resolveGroup_eq_ok hfragments group.2 bases) fun names =>
            ⟨group.2.zip names, rfl⟩
  exact ⟨_, Except.map_eq_ok_iff.mpr ⟨groups, hgroups, rfl⟩⟩

end

-- ====================================================== the names of commands

/-- Whatever the operations, the vocabulary and the rules: if no fragment of the vocabulary is
empty, there are commands. And whenever there are, there is one for each operation, its name is made
of words of lower-case letters and digits with single hyphens between them, and no two commands of
one tag have the same name. -/
theorem commandNames_wellFormed_unique (ops : List Operation) (reserved : List String) :
    ("" ∉ n.tables.wordFragments → ∃ commands, n.commands ops reserved = .ok commands)
      ∧ ∀ commands, n.commands ops reserved = .ok commands →
        (commands.map (·.operation)).Perm ops
          ∧ (∀ c ∈ commands, Slug.IsName c.name)
          ∧ commands.Pairwise fun c d => c.tag = d.tag → c.name ≠ d.name :=
  ⟨fun hfragments => exists_commands_eq_ok hfragments ops reserved, fun _ h =>
    ⟨n.map_operation_commands_perm h, fun _ hc => n.isName_name h hc, n.pairwise_commands h⟩⟩

end Namer

end ApiCommands
