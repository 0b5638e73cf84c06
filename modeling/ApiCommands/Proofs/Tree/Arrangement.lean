/-
The command tree as the one arrangement of its commands.

# What an arrangement is

`Arranges` says what a tree of commands has to be like, and nothing of how it is
made: every command stands in it once, every tag is one branch, in the place
the tables give the tag, and domains, branches and the commands of a branch
stand in their orders, the domain of authentication apart from the others.
Grouping and sorting make such a tree (`AreBranches.arranges`), if the place of every
tag can be told.

# Why there is only one

At each level the order tells all elements apart. Domains are told apart by
their names and branches by their tags, so both increase strictly; commands of
one branch have one tag, so they are told apart by their names if no tag has a
name twice. A list in order is known by its elements. So branches are known by
their tags (`BothArrange.branch_eq`), nodes by their domains
(`BothArrange.node_eq`), and the tree by the commands (`BothArrange.tree_eq`):
in which order these come does not show in it.
-/
import ApiCommands.Naming.Tables.Standard
import ApiCommands.Proofs.Tree.CommandTree

namespace ApiCommands

/-- The first branch has the smaller key, or the same key and the smaller tag. -/
def Branch.Before (b b' : Branch) : Prop :=
  toLex (b.placement.sortKey, b.placement.tag) < toLex (b'.placement.sortKey, b'.placement.tag)

/-- The tables have the first domain before the second. -/
def Tables.Before (t : Tables) (d d' : Domain) : Prop := toLex (t.sortKey d) < toLex (t.sortKey d')

/-- No domain stands before itself. -/
theorem Tables.Before.ne {t : Tables} {d d' : Domain} (h : t.Before d d') : d ≠ d' := by
  rintro rfl
  exact lt_irrefl _ h

namespace CommandTree

/-- The tree has the commands in their places and in order. -/
structure Arranges (t : Tables) (cs : List Command) (tree : CommandTree) : Prop where
  /-- Going through the tree gives each command exactly once. -/
  rows : (tree.rows.map fun row => row.2.2).Perm cs
  domains : tree.domains.Pairwise fun m n => t.Before m.domain n.domain
  apart : ∀ n ∈ tree.domains, n.domain ≠ t.authDomain
  auth : ∀ n, tree.auth = some n → n.domain = t.authDomain
  auth_isSome_iff : tree.auth.isSome = true ↔ ∃ c ∈ cs, t.domainOf c.tag = t.authDomain
  described : ∀ n ∈ tree.nodes, n.description = t.describe n.domain
  inhabited : ∀ n ∈ tree.nodes, n.branches ≠ []
  /-- Each tag that occurs is one branch. -/
  tags : ((tree.nodes.flatMap (·.branches)).map (·.placement.tag)).Perm (keysOf Command.tag cs)
  placed : ∀ n ∈ tree.nodes, ∀ b ∈ n.branches,
    t.place b.placement.tag = .ok b.placement ∧ b.placement.domain = n.domain
  branches : ∀ n ∈ tree.nodes, n.branches.Pairwise Branch.Before
  /-- A branch has all commands of its tag and no others. -/
  commands : ∀ n ∈ tree.nodes, ∀ b ∈ n.branches,
    b.commands.Perm (cs.filter fun c => c.tag == b.placement.tag)
  names : ∀ n ∈ tree.nodes, ∀ b ∈ n.branches, b.commands.Pairwise fun c d => c.name ≤ d.name

variable {t : Tables} {cs ds : List Command} {bs bs' : List Branch} {tree tree' : CommandTree}

-- ====================================================== the orders

/-- The order of domains is that of their keys. -/
theorem domainLe_iff {d d' : Domain} :
    domainLe t d d' = true ↔ toLex (t.sortKey d) ≤ toLex (t.sortKey d') := by
  unfold domainLe
  rw [Prod.Lex.toLex_le_toLex]
  simp

/-- The key of a domain holds its name, so no two domains have the same. -/
theorem sortKey_injective : Function.Injective fun d => toLex (t.sortKey d) := by
  intro d d' h
  exact Domain.name_injective (congrArg (fun key => (ofLex key).2) h)

/-- The nodes stand in the order of their domains. -/
theorem pairwise_sortedNodes :
    (sortedNodes t bs).Pairwise fun m n => t.Before m.domain n.domain := by
  have hkeys : (((grouped (·.placement.domain) bs).map Prod.fst).map
      fun d => toLex (t.sortKey d)).Nodup :=
    (nodup_key (List.Perm.refl _)).map sortKey_injective
  rw [List.map_map] at hkeys
  unfold sortedNodes
  rw [List.pairwise_map]
  exact pairwise_lt_mergeSort (fun _ _ => domainLe_iff) hkeys

/-- The branches of a node stand in their order. -/
theorem AreBranches.pairwise_nodeOf (h : AreBranches t cs bs) (domain : Domain) :
    (nodeOf t domain (bs.filter fun b => b.placement.domain == domain)).branches.Pairwise
      Branch.Before := by
  have htags : ((bs.filter fun b => b.placement.domain == domain).map
      (·.placement.tag)).Nodup := by
    have hall : (bs.map (·.placement.tag)).Nodup := by
      rw [h.tags]
      exact nodup_eraseDups _
    exact hall.sublist (List.filter_sublist.map _)
  -- keys that end in different tags are different
  have hkeys : ((bs.filter fun b => b.placement.domain == domain).map
      fun b => toLex (b.placement.sortKey, b.placement.tag)).Nodup := by
    refine List.Nodup.of_map (fun key => (ofLex key).2) ?_
    rwa [List.map_map]
  exact pairwise_lt_mergeSort (fun _ _ => pairLe_iff) hkeys

-- ====================================================== there is an arrangement

/-- Going through a tree gives the commands of its nodes. -/
theorem map_rows (tree : CommandTree) :
    (tree.rows.map fun row => row.2.2) = tree.commands := by
  unfold rows commands DomainNode.commands
  simp only [List.map_flatMap, List.map_map]
  refine List.flatMap_congr fun n _ => List.flatMap_congr fun b _ => ?_
  exact List.map_id _

/-- The domain of authentication is there exactly if some command is placed in it. -/
theorem AreBranches.isSome_auth_arrange_iff (h : AreBranches t cs bs) :
    (arrange t bs).auth.isSome = true ↔ ∃ c ∈ cs, t.domainOf c.tag = t.authDomain := by
  unfold arrange
  dsimp only
  rw [List.find?_isSome]
  constructor
  · rintro ⟨n, hn, hauth⟩
    obtain ⟨c, hc, hdomain⟩ :=
      h.exists_command_of_mem_nodes ((nodes_arrange_perm t bs).mem_iff.mpr hn)
    exact ⟨c, hc, hdomain.trans (beq_iff_eq.mp hauth)⟩
  · rintro ⟨c, hc, hauth⟩
    obtain ⟨n, hn, hdomain⟩ := h.exists_node hc
    refine ⟨n, (nodes_arrange_perm t bs).mem_iff.mp hn, ?_⟩
    exact beq_iff_eq.mpr (hdomain.trans hauth)

/-- A node is that of its domain, with all branches placed there. -/
theorem exists_nodeOf_of_mem_nodes {n : DomainNode} (hn : n ∈ (arrange t bs).nodes) :
    ∃ domain, (∃ b ∈ bs, b.placement.domain = domain)
      ∧ n = nodeOf t domain (bs.filter fun b => b.placement.domain == domain) :=
  (mem_sortedNodes_iff t bs).mp ((nodes_arrange_perm t bs).mem_iff.mp hn)

/-- Sorting the branches of commands arranges the commands. -/
theorem AreBranches.arranges (h : AreBranches t cs bs) : Arranges t cs (arrange t bs) where
  rows := by
    rw [map_rows]
    exact (commands_arrange_perm t bs).trans h.flatMap_perm
  domains := pairwise_sortedNodes.filter _
  apart := fun n hn => (mem_domains_iff.mp hn).2
  auth := fun n hn => by
    have hfound : (sortedNodes t bs).find? (·.domain == t.authDomain) = some n := hn
    have hauth := List.find?_some hfound
    exact beq_iff_eq.mp hauth
  auth_isSome_iff := h.isSome_auth_arrange_iff
  described := fun n hn => by
    obtain ⟨domain, -, rfl⟩ := exists_nodeOf_of_mem_nodes hn
    rfl
  inhabited := fun n hn => by
    obtain ⟨domain, ⟨b, hb, hdomain⟩, rfl⟩ := exists_nodeOf_of_mem_nodes hn
    have hmem : b ∈ bs.filter fun b => b.placement.domain == domain :=
      List.mem_filter.mpr ⟨hb, beq_iff_eq.mpr hdomain⟩
    exact List.ne_nil_of_mem ((List.mergeSort_perm _ branchLe).mem_iff.mpr hmem)
  tags := by
    rw [← h.tags]
    exact (((nodes_arrange_perm t bs).flatMap_right _).trans
      (flatMap_branches_sortedNodes_perm t bs)).map _
  placed := fun n hn b hb => by
    obtain ⟨hbranch, hdomain⟩ := mem_branches_of_mem_nodes hn hb
    exact ⟨h.placed b hbranch, hdomain⟩
  branches := fun n hn => by
    obtain ⟨domain, -, rfl⟩ := exists_nodeOf_of_mem_nodes hn
    exact h.pairwise_nodeOf domain
  commands := fun n hn b hb => h.commands_perm (mem_branches_of_mem_nodes hn hb).1
  names := fun n hn b hb => by
    rw [h.commands b (mem_branches_of_mem_nodes hn hb).1]
    exact pairwise_le_mergeSort (fun _ _ => decide_eq_true_iff) _

-- ====================================================== there is no other

namespace Arranges

/-- No two nodes have one domain. -/
theorem eq_of_domain_eq (h : Arranges t cs tree) {m n : DomainNode} (hm : m ∈ tree.nodes)
    (hn : n ∈ tree.nodes) (hdomain : m.domain = n.domain) : m = n := by
  unfold nodes at hm hn
  rcases List.mem_append.mp hm with hm | hm <;> rcases List.mem_append.mp hn with hn | hn
  · have hnodup : (tree.domains.map (·.domain)).Nodup :=
      List.pairwise_map.mpr (h.domains.imp Tables.Before.ne)
    exact List.inj_on_of_nodup_map hnodup hm hn hdomain
  · exact absurd (hdomain.trans (h.auth n (Option.mem_toList.mp hn))) (h.apart m hm)
  · exact absurd (hdomain.symm.trans (h.auth m (Option.mem_toList.mp hm))) (h.apart n hn)
  · exact Option.some.inj ((Option.mem_toList.mp hm).symm.trans (Option.mem_toList.mp hn))

/-- The tag of a branch is that of a command. -/
theorem exists_command_of_mem (h : Arranges t cs tree) {n : DomainNode} (hn : n ∈ tree.nodes)
    {b : Branch} (hb : b ∈ n.branches) : ∃ c ∈ cs, c.tag = b.placement.tag := by
  refine mem_keysOf.mp (h.tags.mem_iff.mp (List.mem_map.mpr ⟨b, ?_, rfl⟩))
  exact List.mem_flatMap.mpr ⟨n, hn, hb⟩

/-- The tag of a command has a branch. -/
theorem exists_branch_of_mem (h : Arranges t cs tree) {c : Command} (hc : c ∈ cs) :
    ∃ n ∈ tree.nodes, ∃ b ∈ n.branches, b.placement.tag = c.tag := by
  obtain ⟨b, hb, htag⟩ := List.mem_map.mp (h.tags.mem_iff.mpr (mem_keysOf.mpr ⟨c, hc, rfl⟩))
  obtain ⟨n, hn, hbranch⟩ := List.mem_flatMap.mp hb
  exact ⟨n, hn, b, hbranch, htag⟩

end Arranges

/-- Two trees arrange the same commands, no two of which have tag and name in common. -/
structure BothArrange (t : Tables) (cs ds : List Command) (tree tree' : CommandTree) : Prop where
  left : Arranges t cs tree
  right : Arranges t ds tree'
  perm : cs.Perm ds
  distinct : (cs.map fun c => (c.tag, c.name)).Nodup

namespace BothArrange

/-- Neither tree comes first. -/
theorem symm (h : BothArrange t cs ds tree tree') : BothArrange t ds cs tree' tree :=
  ⟨h.right, h.left, h.perm.symm, (h.perm.map _).nodup_iff.mp h.distinct⟩

variable (h : BothArrange t cs ds tree tree') {n n' : DomainNode}

include h

/-- A branch is known by its tag. -/
theorem branch_eq (hn : n ∈ tree.nodes) (hn' : n' ∈ tree'.nodes) {b b' : Branch}
    (hb : b ∈ n.branches) (hb' : b' ∈ n'.branches) (htag : b.placement.tag = b'.placement.tag) :
    b = b' := by
  have hplacement : b.placement = b'.placement := by
    have hown := (h.left.placed n hn b hb).1
    rw [htag, (h.right.placed n' hn' b' hb').1] at hown
    exact (Except.ok.inj hown).symm
  have hown := h.left.commands n hn b hb
  have hperm : b.commands.Perm b'.commands := by
    rw [htag] at hown
    exact hown.trans ((h.perm.filter _).trans (h.right.commands n' hn' b' hb').symm)
  have hcommands : b.commands = b'.commands := by
    refine hperm.eq_of_pairwise ?_ (h.left.names n hn b hb) (h.right.names n' hn' b' hb')
    intro c d hc hd hle hge
    obtain ⟨hc, hc_tag⟩ := List.mem_filter.mp (hown.mem_iff.mp hc)
    obtain ⟨hd, hd_tag⟩ := List.mem_filter.mp (hown.mem_iff.mp (hperm.mem_iff.mpr hd))
    refine List.inj_on_of_nodup_map h.distinct hc hd (Prod.ext ?_ (le_antisymm hle hge))
    exact (beq_iff_eq.mp hc_tag).trans (beq_iff_eq.mp hd_tag).symm
  calc b = ⟨b.placement, b.commands⟩ := rfl
    _ = ⟨b'.placement, b'.commands⟩ := by rw [hplacement, hcommands]
    _ = b' := rfl

/-- A branch of the one tree stands in the other, in a node of the same domain. -/
theorem exists_node_of_mem_branches (hn : n ∈ tree.nodes) {b : Branch} (hb : b ∈ n.branches) :
    ∃ n' ∈ tree'.nodes, n'.domain = n.domain ∧ b ∈ n'.branches := by
  obtain ⟨c, hc, hc_tag⟩ := h.left.exists_command_of_mem hn hb
  obtain ⟨n', hn', b', hb', hb'_tag⟩ := h.right.exists_branch_of_mem (h.perm.mem_iff.mp hc)
  obtain rfl := h.branch_eq hn hn' hb hb' (hc_tag.symm.trans hb'_tag.symm)
  have hdomain := (h.right.placed n' hn' b hb').2.symm.trans (h.left.placed n hn b hb).2
  exact ⟨n', hn', hdomain, hb'⟩

/-- A node has no branches but those that the node of its domain has in the other tree. -/
theorem mem_branches (hn : n ∈ tree.nodes) (hn' : n' ∈ tree'.nodes)
    (hdomain : n.domain = n'.domain) {b : Branch} (hb : b ∈ n.branches) : b ∈ n'.branches := by
  obtain ⟨m, hm, hm_domain, hb'⟩ := h.exists_node_of_mem_branches hn hb
  obtain rfl := h.right.eq_of_domain_eq hm hn' (hm_domain.trans hdomain)
  exact hb'

/-- A node is known by its domain. -/
theorem node_eq (hn : n ∈ tree.nodes) (hn' : n' ∈ tree'.nodes) (hdomain : n.domain = n'.domain) :
    n = n' := by
  have hbranches : n.branches = n'.branches :=
    eq_of_pairwise_lt (h.left.branches n hn) (h.right.branches n' hn') fun _ =>
      ⟨h.mem_branches hn hn' hdomain, h.symm.mem_branches hn' hn hdomain.symm⟩
  have hdescription : n.description = n'.description := by
    rw [h.left.described n hn, h.right.described n' hn', hdomain]
  calc n = ⟨n.domain, n.description, n.branches⟩ := rfl
    _ = ⟨n'.domain, n'.description, n'.branches⟩ := by rw [hdomain, hdescription, hbranches]
    _ = n' := rfl

/-- A node of the one tree is a node of the other. -/
theorem mem_nodes (hn : n ∈ tree.nodes) : n ∈ tree'.nodes := by
  obtain ⟨b, hb⟩ := List.exists_mem_of_ne_nil _ (h.left.inhabited n hn)
  obtain ⟨n', hn', hdomain, -⟩ := h.exists_node_of_mem_branches hn hb
  obtain rfl := h.node_eq hn hn' hdomain.symm
  exact hn'

/-- A domain of the one main tree is a domain of the other. -/
theorem mem_domains (hn : n ∈ tree.domains) : n ∈ tree'.domains := by
  rcases List.mem_append.mp (h.mem_nodes (List.mem_append_left _ hn)) with hdomain | hauth
  · exact hdomain
  · exact absurd (h.right.auth n (Option.mem_toList.mp hauth)) (h.left.apart n hn)

/-- What stands apart in the one tree stands apart in the other. -/
theorem auth_eq_some (hn : tree.auth = some n) : tree'.auth = some n := by
  have hmem : n ∈ tree.nodes := List.mem_append_right _ (Option.mem_toList.mpr hn)
  rcases List.mem_append.mp (h.mem_nodes hmem) with hdomain | hauth
  · exact absurd (h.left.auth n hn) (h.right.apart n hdomain)
  · exact Option.mem_toList.mp hauth

/-- The two trees are one. -/
theorem tree_eq : tree = tree' := by
  have hdomains : tree.domains = tree'.domains :=
    eq_of_pairwise_lt h.left.domains h.right.domains fun _ => ⟨h.mem_domains, h.symm.mem_domains⟩
  have hauth : tree.auth = tree'.auth :=
    Option.ext fun _ => ⟨h.auth_eq_some, h.symm.auth_eq_some⟩
  calc tree = ⟨tree.domains, tree.auth⟩ := rfl
    _ = ⟨tree'.domains, tree'.auth⟩ := by rw [hdomains, hauth]
    _ = tree' := rfl

end BothArrange

-- ====================================================== the tree of commands

/-- Commands whose tags all have a domain get a tree exactly if the place of every tag can be told,
which is so if no fragment is empty; if some place cannot, a search for fragments goes on for ever.
The tree arranges the commands. If no tag has a name twice, it is the same tree for the commands in
any order. -/
theorem ofCommands_canonical (hmapped : ∀ c ∈ cs, t.domainOf c.tag ≠ .unmapped) :
    ((∃ tree, (ofCommands t cs).outcome = .ok tree) ↔ ∀ c ∈ cs, t.PlaceEnds c.tag)
      ∧ (∀ e, (ofCommands t cs).outcome = .error e → e = .fault .endlessSearch)
      ∧ ("" ∉ t.wordFragments → ∀ c ∈ cs, t.PlaceEnds c.tag)
      ∧ ∀ tree, (ofCommands t cs).outcome = .ok tree →
        Arranges t cs tree
          ∧ ((cs.map fun c => (c.tag, c.name)).Nodup →
              ∀ ds, ds.Perm cs → (ofCommands t ds).outcome = .ok tree) := by
  refine ⟨?_, fun e h => ?_, fun hfragments c _ => placeEnds t hfragments c.tag,
    fun tree htree => ?_⟩
  · rw [← exists_branches_iff]
    constructor
    · rintro ⟨tree, htree⟩
      obtain ⟨-, bs, hbs, -⟩ := outcome_ofCommands_eq_ok_iff.mp htree
      exact ⟨bs, hbs⟩
    · rintro ⟨bs, hbs⟩
      exact ⟨_, outcome_ofCommands_eq_ok_iff.mpr ⟨hmapped, bs, hbs, rfl⟩⟩
  · exact outcome_ofCommands_eq_error hmapped h
  · obtain ⟨-, bs, hbs, rfl⟩ := outcome_ofCommands_eq_ok_iff.mp htree
    have hare := areBranches t cs hbs
    refine ⟨hare.arranges, fun hdistinct ds hperm => ?_⟩
    -- the other order has branches as well, since it has the same tags
    obtain ⟨bs', hbs'⟩ := (exists_branches_iff t ds).mpr fun c hc =>
      (exists_branches_iff t cs).mp ⟨bs, hbs⟩ c (hperm.mem_iff.mp hc)
    have hboth : BothArrange t cs ds (arrange t bs) (arrange t bs') :=
      ⟨hare.arranges, (areBranches t ds hbs').arranges, hperm.symm, hdistinct⟩
    exact outcome_ofCommands_eq_ok_iff.mpr
      ⟨fun c hc => hmapped c (hperm.mem_iff.mp hc), bs', hbs', hboth.tree_eq⟩

end CommandTree

namespace MixedCommands

/-- A command that says no more than its tag and its name. -/
def command (tag name : String) : Command :=
  ⟨{ tag := tag, method := .get, path := "/", id := name, methodName := name }, name, name⟩

/-- Commands of three domains, among them that of authentication; one has a root and a branch. -/
def commands : List Command :=
  [command "Tasks" "list", command "Users" "update", command "Accounts" "list",
    command "UserTags" "list", command "Users" "list"]

end MixedCommands

namespace CommandTree

/-- So it is with these commands as they stand and the other way round. With the empty fragment
there is no tree of a command whose tag is split. -/
theorem mixedCommands_canonical :
    (∀ c ∈ MixedCommands.commands, Tables.standard.domainOf c.tag ≠ .unmapped)
      ∧ (MixedCommands.commands.map fun c => (c.tag, c.name)).Nodup
      ∧ (∃ tree, (ofCommands Tables.standard MixedCommands.commands).outcome = .ok tree
        ∧ Arranges Tables.standard MixedCommands.commands tree
        ∧ (ofCommands Tables.standard MixedCommands.commands.reverse).outcome = .ok tree)
      ∧ (∀ c ∈ [MixedCommands.command "tasktags" "list"],
          Tables.emptyFragment.domainOf c.tag ≠ .unmapped)
      ∧ (ofCommands Tables.emptyFragment
          [MixedCommands.command "tasktags" "list"]).outcome = .error (.fault .endlessSearch) := by
  have hmapped : ∀ c ∈ MixedCommands.commands,
      Tables.standard.domainOf c.tag ≠ .unmapped := by
    decide
  have hdistinct : (MixedCommands.commands.map fun c => (c.tag, c.name)).Nodup := by
    decide
  have hmapped' : ∀ c ∈ [MixedCommands.command "tasktags" "list"],
      Tables.emptyFragment.domainOf c.tag ≠ .unmapped := by
    decide
  obtain ⟨hanswers, -, hends, hall⟩ := ofCommands_canonical hmapped
  obtain ⟨tree, htree⟩ := hanswers.mpr (hends (by decide))
  obtain ⟨harranges, hsame⟩ := hall tree htree
  refine ⟨hmapped, hdistinct, ⟨tree, htree, harranges, hsame hdistinct _ (List.reverse_perm _)⟩,
    hmapped', ?_⟩
  obtain ⟨hanswers', hendless, -⟩ := ofCommands_canonical hmapped'
  have hplace : Tables.emptyFragment.place "tasktags" = .error .endlessSearch := by
    decide +kernel
  cases houtcome : (ofCommands Tables.emptyFragment
      [MixedCommands.command "tasktags" "list"]).outcome with
  | error e => rw [hendless e houtcome]
  | ok tree =>
      have hends := hanswers'.mp ⟨tree, houtcome⟩ _ List.mem_cons_self
      obtain ⟨p, hp⟩ := (exists_place_eq_ok_iff _).mpr hends
      exact absurd (hplace.symm.trans hp) (by simp)

end CommandTree

end ApiCommands
