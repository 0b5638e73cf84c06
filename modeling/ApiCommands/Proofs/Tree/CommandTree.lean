/-
The command tree holds every command once, in the place its tag has.

# Nothing is lost

Commands are grouped by tag and the branches that come of this by domain, then
branches fall into root and others and domains into those of the main tree and
that of authentication. Each of the four steps rearranges its list:
`AreBranches.flatMap_perm`, `flatMap_branches_sortedNodes_perm`,
`root_append_sub_perm` and `nodes_arrange_perm`. The last one is not a plain partition, since the domain
of authentication is looked up and not filtered out; it needs that no two nodes
have one domain (`nodup_domain_sortedNodes`).

# Where commands stand

What stands at a node is told by the tags alone. A branch holds the commands of
one tag (`AreBranches.commands_perm`). The root commands of a node are all
commands whose tag is a root of its domain (`AreBranches.rootCommands_perm`), and
there can be several such tags. Names are unique by tag only, so this is where
they can meet (`AreBranches.nodup_name_rootCommands_iff`).

# When there is a tree

The name of a branch is written in lower case with hyphens, so the search for
fragments has to end in it. Which tags have a place is told by
`exists_place_eq_ok_iff`; there are branches exactly if the tags of all commands
have one (`exists_branches_iff`).
-/
import ApiCommands.Proofs.Naming.Grouping
import ApiCommands.Proofs.Naming.Words
import ApiCommands.Proofs.Outcome.Note
import ApiCommands.Proofs.Outcome.Result
import ApiCommands.Tree.CommandTree
import Mathlib.Data.List.Perm.Basic

namespace ApiCommands

/-- Different domains have different names. -/
theorem Domain.name_injective : Function.Injective Domain.name := by
  intro d d' h
  have hread := Domain.ofName?_name d
  rw [h, Domain.ofName?_name] at hread
  exact (Option.some.inj hread).symm

/-- The place of the tag can be told: it is a root, the tables name its branch, or the search for
fragments ends in each word of what is left of it without the nouns of its domain. -/
def Tables.PlaceEnds (t : Tables) (tag : String) : Prop :=
  t.isRootTag tag = true ∨ (t.branchOf? tag).isSome = true
    ∨ Text.isBlank (t.ownPart tag (t.domainOf tag)) = true
    ∨ ∀ word ∈ Words.splitWords t (t.ownPart tag (t.domainOf tag)),
      (Words.fragments? t word).isSome = true

namespace DomainNode

/-- All commands of a node, branch by branch. -/
def commands (n : DomainNode) : List Command := n.branches.flatMap (·.commands)

/-- The commands of a node are those of its root and those of its other branches. -/
theorem root_append_sub_perm (n : DomainNode) :
    (n.rootCommands ++ n.subBranches.flatMap (·.commands)).Perm n.commands := by
  unfold rootCommands subBranches commands
  rw [← List.flatMap_append]
  exact (List.filter_append_perm (·.placement.isRoot) n.branches).flatMap_right _

end DomainNode

/-- The commands of a tree. -/
def CommandTree.commands (t : CommandTree) : List Command := t.nodes.flatMap (·.commands)

namespace CommandTree

variable (t : Tables) (cs : List Command)

-- ====================================================== tags without a place

/-- The tags that are left over are those of commands without a domain, each once. -/
theorem map_fst_unmapped_perm :
    ((unmapped t cs).map Prod.fst).Perm
      (keysOf Command.tag (cs.filter fun c => t.domainOf c.tag == .unmapped)) := by
  unfold unmapped
  dsimp only
  refine ((List.mergeSort_perm _ _).map Prod.fst).trans (List.Perm.of_eq ?_)
  unfold grouped
  rw [List.map_map, List.map_map]
  exact List.map_id _

/-- A tag is left over exactly if a command has it and no table places it. -/
theorem mem_map_fst_unmapped {tag : String} :
    tag ∈ (unmapped t cs).map Prod.fst ↔ t.domainOf tag = .unmapped ∧ ∃ c ∈ cs, c.tag = tag := by
  rw [(map_fst_unmapped_perm t cs).mem_iff, mem_keysOf]
  constructor
  · rintro ⟨c, hc, rfl⟩
    obtain ⟨hc, hlost⟩ := List.mem_filter.mp hc
    exact ⟨beq_iff_eq.mp hlost, c, hc, rfl⟩
  · rintro ⟨hlost, c, hc, rfl⟩
    exact ⟨c, List.mem_filter.mpr ⟨hc, beq_iff_eq.mpr hlost⟩, rfl⟩

/-- The tags that are left over stand in order. -/
theorem pairwise_unmapped : ((unmapped t cs).map Prod.fst).Pairwise (· < ·) := by
  unfold unmapped
  dsimp only
  rw [List.pairwise_map]
  refine pairwise_lt_mergeSort (fun _ _ => decide_eq_true_iff) ?_
  -- the tags of the groups are all different
  rw [List.map_map]
  exact nodup_key (List.Perm.refl _)

/-- A tag that is left over comes with the operations of all its commands. -/
theorem snd_eq_of_mem_unmapped {entry : String × List String} (h : entry ∈ unmapped t cs) :
    entry.2 = (cs.filter fun c => c.tag == entry.1).map (·.operation.id) := by
  have hlost : t.domainOf entry.1 = .unmapped :=
    ((mem_map_fst_unmapped t cs).mp (List.mem_map.mpr ⟨entry, h, rfl⟩)).1
  unfold unmapped at h
  obtain ⟨⟨tag, commands⟩, hgroup, rfl⟩ :=
    List.mem_map.mp ((List.mergeSort_perm _ _).mem_iff.mp h)
  have hitems : commands = _ := (mem_grouped.mp hgroup).2
  dsimp only at hlost hitems ⊢
  rw [hitems, List.filter_filter]
  refine congrArg _ (List.filter_congr fun c _ => ?_)
  by_cases htag : c.tag = tag
  · simp [htag, hlost]
  · simp [htag]

/-- No tag is left over exactly if every command's tag has a domain. -/
theorem unmapped_eq_nil_iff :
    unmapped t cs = [] ↔ ∀ c ∈ cs, t.domainOf c.tag ≠ .unmapped := by
  rw [← List.map_eq_nil_iff (f := Prod.fst), List.eq_nil_iff_forall_not_mem]
  constructor
  · intro h c hc hlost
    exact h c.tag ((mem_map_fst_unmapped t cs).mpr ⟨hlost, c, hc, rfl⟩)
  · intro h tag htag
    obtain ⟨hlost, c, hc, rfl⟩ := (mem_map_fst_unmapped t cs).mp htag
    exact h c hc hlost

-- ====================================================== places

/-- A place is that of its tag, in the domain of the tag. -/
theorem place_spec {tag : String} {p : Placement} (h : t.place tag = .ok p) :
    p.tag = tag ∧ p.domain = t.domainOf tag := by
  obtain ⟨branch, -, h⟩ := Except.bind_eq_ok_iff.mp h
  obtain rfl := Except.ok.inj h
  exact ⟨rfl, rfl⟩

/-- A tag has a place if it is a root, if the tables name its branch, or if the name of its branch
can be written: every search for fragments in its own part ends. -/
theorem exists_place_eq_ok_iff {tag : String} :
    (∃ p, t.place tag = .ok p) ↔ t.PlaceEnds tag := by
  have hplace : (∃ p, t.place tag = .ok p) ↔ ∃ b, t.branchIn tag (t.domainOf tag) = .ok b := by
    unfold Tables.place
    constructor
    · rintro ⟨p, h⟩
      obtain ⟨b, hb, -⟩ := Except.bind_eq_ok_iff.mp h
      exact ⟨b, hb⟩
    · exact fun h => Except.exists_bind_eq_ok h fun _ => ⟨_, rfl⟩
  rw [hplace]
  unfold Tables.branchIn Tables.PlaceEnds
  cases hroot : t.isRootTag tag with
  | true => simp
  | false =>
      rw [if_neg Bool.false_ne_true, or_iff_right Bool.false_ne_true]
      cases hbranch : t.branchOf? tag with
      | some b => simp
      | none =>
          rw [Option.isSome_none, or_iff_right Bool.false_ne_true, ← Words.exists_kebab_eq_ok_iff]
          dsimp only
          split
          · next hnil =>
            rw [hnil]
            exact iff_of_true ⟨_, rfl⟩ ⟨_, Words.kebab_of_isBlank rfl⟩
          · constructor
            · rintro ⟨b, h⟩
              obtain ⟨written, hwritten, -⟩ := Except.bind_eq_ok_iff.mp h
              exact ⟨written, hwritten⟩
            · exact fun h => Except.exists_bind_eq_ok h fun _ => ⟨_, rfl⟩

/-- Else a search for fragments goes on for ever. -/
theorem eq_endlessSearch_of_place {tag : String} {e : Fault} (h : t.place tag = .error e) :
    e = .endlessSearch := by
  rcases Except.bind_eq_error h with h | ⟨_, h⟩
  · unfold Tables.branchIn at h
    split at h
    · cases h
    · split at h
      · cases h
      · split at h
        · cases h
        · rcases Except.bind_eq_error h with h | ⟨_, h⟩
          · exact Words.eq_endlessSearch_of_kebab h
          · cases h
  · cases h

/-- If no fragment is empty, every tag has a place. -/
theorem placeEnds (hfragments : "" ∉ t.wordFragments) (tag : String) : t.PlaceEnds tag :=
  Or.inr (Or.inr (Words.exists_kebab_eq_ok_iff.mp (Words.exists_kebab_eq_ok hfragments _)))

-- ====================================================== branches

/-- There is one branch for every tag of the commands, in the place of the tag and with its commands
in the order of their names. -/
structure AreBranches (t : Tables) (cs : List Command) (bs : List Branch) : Prop where
  tags : bs.map (·.placement.tag) = keysOf Command.tag cs
  placed : ∀ b ∈ bs, t.place b.placement.tag = .ok b.placement
  commands : ∀ b ∈ bs, b.commands =
    (cs.filter fun c => c.tag == b.placement.tag).mergeSort fun c d => decide (c.name ≤ d.name)

/-- The branch of a tag is placed where the tag is. -/
theorem branchOf_eq_ok_iff {tag : String} {b : Branch} :
    branchOf t tag cs = .ok b
      ↔ ∃ p, t.place tag = .ok p
        ∧ b = ⟨p, cs.mergeSort fun c d => decide (c.name ≤ d.name)⟩ := by
  unfold branchOf
  rw [Except.bind_eq_ok_iff]
  refine exists_congr fun p => and_congr_right fun _ => ?_
  constructor
  · intro h
    exact (Except.ok.inj h).symm
  · rintro rfl
    rfl

/-- Grouping makes these branches. -/
theorem areBranches {bs : List Branch} (h : branches t cs = .ok bs) : AreBranches t cs bs where
  tags := by
    have htags : bs.map (·.placement.tag) = (grouped Command.tag cs).map Prod.fst := by
      refine Except.map_eq_of_mapM (fun group b hb => ?_) h
      obtain ⟨p, hp, rfl⟩ := (branchOf_eq_ok_iff t group.2).mp hb
      exact (place_spec t hp).1
    rw [htags]
    unfold grouped
    rw [List.map_map]
    exact List.map_id _
  placed := fun b hb => by
    obtain ⟨group, -, hb⟩ := Except.exists_of_mem_mapM h hb
    obtain ⟨p, hp, rfl⟩ := (branchOf_eq_ok_iff t group.2).mp hb
    rwa [(place_spec t hp).1]
  commands := fun b hb => by
    obtain ⟨group, hgroup, hb⟩ := Except.exists_of_mem_mapM h hb
    obtain ⟨p, hp, rfl⟩ := (branchOf_eq_ok_iff t group.2).mp hb
    rw [(place_spec t hp).1, ← (mem_grouped.mp hgroup).2]

/-- There are such branches exactly if every tag that occurs has a place. -/
theorem exists_branches_iff :
    (∃ bs, branches t cs = .ok bs) ↔ ∀ c ∈ cs, t.PlaceEnds c.tag := by
  unfold branches
  rw [Except.exists_mapM_eq_ok_iff]
  have hgroup : ∀ group : String × List Command,
      (∃ b, branchOf t group.1 group.2 = .ok b) ↔ t.PlaceEnds group.1 := by
    intro group
    rw [← exists_place_eq_ok_iff]
    constructor
    · rintro ⟨b, hb⟩
      obtain ⟨p, hp, -⟩ := (branchOf_eq_ok_iff t group.2).mp hb
      exact ⟨p, hp⟩
    · rintro ⟨p, hp⟩
      exact ⟨_, (branchOf_eq_ok_iff t group.2).mpr ⟨p, hp, rfl⟩⟩
  constructor
  · intro h c hc
    exact (hgroup (c.tag, cs.filter fun d => d.tag == c.tag)).mp
      (h _ (mem_grouped.mpr ⟨⟨c, hc, rfl⟩, rfl⟩))
  · intro h group hmem
    obtain ⟨⟨c, hc, htag⟩, -⟩ := mem_grouped.mp hmem
    refine (hgroup group).mpr ?_
    rw [← htag]
    exact h c hc

/-- If there are none, a search for fragments goes on for ever. -/
theorem eq_endlessSearch_of_branches {e : Fault} (h : branches t cs = .error e) :
    e = .endlessSearch := by
  obtain ⟨group, -, h⟩ := Except.exists_of_mapM_eq_error h
  rcases Except.bind_eq_error h with h | ⟨_, h⟩
  · exact eq_endlessSearch_of_place t h
  · cases h

/-- Choosing among branches is choosing among their commands, where a branch and its commands
agree. -/
private theorem flatMap_filter_of_agree {p : Branch → Bool} {q : Command → Bool} {bs : List Branch}
    (h : ∀ b ∈ bs, ∀ c ∈ b.commands, q c = p b) :
    (bs.filter p).flatMap (·.commands) = (bs.flatMap (·.commands)).filter q := by
  induction bs with
  | nil => rfl
  | cons b rest ih =>
      have hrest := ih fun b' hb' => h b' (List.mem_cons_of_mem _ hb')
      have hfirst := List.filter_congr (h b List.mem_cons_self)
      rw [List.flatMap_cons, List.filter_append, ← hrest, hfirst]
      cases hp : p b with
      | true => simp [hp]
      | false => simp [hp]

section

variable {t cs} {bs : List Branch} (h : AreBranches t cs bs)
include h

namespace AreBranches

/-- The commands of a branch are those with its tag. -/
theorem commands_perm {b : Branch} (hb : b ∈ bs) :
    b.commands.Perm (cs.filter fun c => c.tag == b.placement.tag) := by
  rw [h.commands b hb]
  exact List.mergeSort_perm _ _

/-- The tag of a branch is that of a command. -/
theorem exists_command {b : Branch} (hb : b ∈ bs) : ∃ c ∈ cs, c.tag = b.placement.tag := by
  rw [← mem_keysOf, ← h.tags]
  exact List.mem_map.mpr ⟨b, hb, rfl⟩

/-- The tag of a command has a branch. -/
theorem exists_branch {c : Command} (hc : c ∈ cs) : ∃ b ∈ bs, b.placement.tag = c.tag := by
  rw [← List.mem_map, h.tags, mem_keysOf]
  exact ⟨c, hc, rfl⟩

/-- Every command of a branch has the tag that the branch is placed by. -/
theorem place_eq {b : Branch} (hb : b ∈ bs) {c : Command} (hc : c ∈ b.commands) :
    t.place c.tag = .ok b.placement := by
  have hmem := (h.commands_perm hb).mem_iff.mp hc
  rw [beq_iff_eq.mp (List.mem_filter.mp hmem).2]
  exact h.placed b hb

/-- All branches together hold the commands. -/
theorem flatMap_perm : (bs.flatMap (·.commands)).Perm cs := by
  have hsorted : (bs.flatMap (·.commands)).Perm
      (bs.flatMap fun b => cs.filter fun c => c.tag == b.placement.tag) :=
    List.Perm.flatMap_left _ fun b hb => h.commands_perm hb
  have hgroups : (bs.flatMap fun b => cs.filter fun c => c.tag == b.placement.tag)
      = (grouped Command.tag cs).flatMap Prod.snd := by
    unfold grouped
    rw [List.flatMap_map, ← h.tags, List.flatMap_map]
  rw [hgroups] at hsorted
  exact hsorted.trans (flatMap_perm_of_perm_grouped (List.Perm.refl _))

/-- The commands of some branches, chosen by their placement, are the commands whose tags are
placed so. -/
theorem flatMap_filter_perm (p : Placement → Bool) :
    ((bs.filter fun b => p b.placement).flatMap (·.commands)).Perm
      (cs.filter fun c => (t.place c.tag).toOption.any p) := by
  have hfilter : (bs.filter fun b => p b.placement).flatMap (·.commands)
      = (bs.flatMap (·.commands)).filter fun c => (t.place c.tag).toOption.any p := by
    refine flatMap_filter_of_agree fun b hb c hc => ?_
    rw [h.place_eq hb hc]
    rfl
  rw [hfilter]
  exact h.flatMap_perm.filter _

end AreBranches

end

-- ====================================================== nodes

variable (bs : List Branch)

/-- The branches by domain, domains in order. -/
private theorem sortedGroups_perm :
    ((grouped (·.placement.domain) bs).mergeSort fun a b => domainLe t a.1 b.1).Perm
      (grouped (fun b : Branch => b.placement.domain) bs) :=
  List.mergeSort_perm _ _

/-- A node is that of a domain which occurs, with all branches of the domain. -/
theorem mem_sortedNodes_iff {n : DomainNode} :
    n ∈ sortedNodes t bs
      ↔ ∃ domain, (∃ b ∈ bs, b.placement.domain = domain)
          ∧ n = nodeOf t domain (bs.filter fun b => b.placement.domain == domain) := by
  unfold sortedNodes
  exact mem_map_iff_of_perm_grouped (sortedGroups_perm t bs)

/-- No two nodes have one domain. -/
theorem nodup_domain_sortedNodes : ((sortedNodes t bs).map (·.domain)).Nodup := by
  unfold sortedNodes
  rw [List.map_map]
  exact nodup_key (sortedGroups_perm t bs)

/-- All nodes together hold the branches. -/
theorem flatMap_branches_sortedNodes_perm :
    ((sortedNodes t bs).flatMap (·.branches)).Perm bs := by
  unfold sortedNodes
  rw [List.flatMap_map]
  -- sorting the branches of a node keeps them
  have hsorted := List.Perm.flatMap_left
    ((grouped (·.placement.domain) bs).mergeSort fun a b => domainLe t a.1 b.1)
    fun g _ => List.mergeSort_perm g.2 branchLe
  exact hsorted.trans (flatMap_perm_of_perm_grouped (sortedGroups_perm t bs))

-- ====================================================== the arranged tree

/-- Where domains differ, looking one up finds all that there is of it. -/
private theorem toList_find?_domain (domain : Domain) {nodes : List DomainNode}
    (h : (nodes.map (·.domain)).Nodup) :
    (nodes.find? (·.domain == domain)).toList = nodes.filter (·.domain == domain) := by
  induction nodes with
  | nil => rfl
  | cons n rest ih =>
      obtain ⟨hn, hrest⟩ := List.nodup_cons.mp h
      by_cases hdomain : n.domain = domain
      · have hnone : rest.filter (·.domain == domain) = [] := by
          refine List.filter_eq_nil_iff.mpr fun m hm heq => hn ?_
          have hm_domain : m.domain = domain := beq_iff_eq.mp heq
          exact List.mem_map.mpr ⟨m, hm, hm_domain.trans hdomain.symm⟩
        rw [List.find?_cons_of_pos (by simpa using hdomain),
          List.filter_cons_of_pos (by simpa using hdomain), hnone]
        rfl
      · rw [List.find?_cons_of_neg (by simpa using hdomain),
          List.filter_cons_of_neg (by simpa using hdomain)]
        exact ih hrest

/-- Setting the domain of authentication apart loses no node. -/
theorem nodes_arrange_perm : (arrange t bs).nodes.Perm (sortedNodes t bs) := by
  unfold nodes arrange
  dsimp only
  rw [toList_find?_domain t.authDomain (nodup_domain_sortedNodes t bs)]
  have hsplit := List.filter_append_perm (fun n : DomainNode => n.domain == t.authDomain)
    (sortedNodes t bs)
  exact List.perm_append_comm.trans hsplit

/-- The domains of the main tree differ. -/
theorem nodup_domain_domains : ((arrange t bs).domains.map (·.domain)).Nodup := by
  unfold arrange
  dsimp only
  exact (nodup_domain_sortedNodes t bs).sublist (List.filter_sublist.map _)

/-- The tree holds the commands of its branches. -/
theorem commands_arrange_perm :
    (arrange t bs).commands.Perm (bs.flatMap (·.commands)) := by
  have hflat : (sortedNodes t bs).flatMap (·.commands)
      = ((sortedNodes t bs).flatMap (·.branches)).flatMap (·.commands) := List.flatMap_assoc.symm
  refine ((nodes_arrange_perm t bs).flatMap_right _).trans ?_
  rw [hflat]
  exact (flatMap_branches_sortedNodes_perm t bs).flatMap_right _

variable {t cs bs} {n : DomainNode}

/-- The branches at a node are those of its domain. -/
theorem mem_branches_of_mem_nodes (hn : n ∈ (arrange t bs).nodes) {b : Branch}
    (hb : b ∈ n.branches) : b ∈ bs ∧ b.placement.domain = n.domain := by
  obtain ⟨domain, -, rfl⟩ :=
    (mem_sortedNodes_iff t bs).mp ((nodes_arrange_perm t bs).mem_iff.mp hn)
  have hmem := (List.mergeSort_perm _ branchLe).mem_iff.mp hb
  obtain ⟨hbranch, hdomain⟩ := List.mem_filter.mp hmem
  exact ⟨hbranch, beq_iff_eq.mp hdomain⟩

/-- A domain of the main tree is one that stands apart from that of authentication. -/
theorem mem_domains_iff : n ∈ (arrange t bs).domains
    ↔ n ∈ (arrange t bs).nodes ∧ n.domain ≠ t.authDomain := by
  rw [(nodes_arrange_perm t bs).mem_iff]
  unfold arrange
  dsimp only
  rw [List.mem_filter, bne_iff_ne]

namespace AreBranches

/-- The root commands of a node are the commands whose tag is a root of its domain. -/
theorem rootCommands_perm (h : AreBranches t cs bs) (hn : n ∈ (arrange t bs).nodes) :
    n.rootCommands.Perm (cs.filter fun c =>
      (t.place c.tag).toOption.any fun p => p.isRoot && p.domain == n.domain) := by
  obtain ⟨domain, -, rfl⟩ :=
    (mem_sortedNodes_iff t bs).mp ((nodes_arrange_perm t bs).mem_iff.mp hn)
  have hsorted := ((List.mergeSort_perm (bs.filter
    fun b => b.placement.domain == domain) branchLe).filter (·.placement.isRoot)).flatMap_right
      (·.commands)
  rw [List.filter_filter] at hsorted
  exact hsorted.trans (h.flatMap_filter_perm fun p => p.isRoot && p.domain == domain)

/-- The domain of every command has a node. -/
theorem exists_node (h : AreBranches t cs bs) {c : Command} (hc : c ∈ cs) :
    ∃ n ∈ (arrange t bs).nodes, n.domain = t.domainOf c.tag := by
  obtain ⟨b, hb, htag⟩ := h.exists_branch hc
  have hnode := (mem_sortedNodes_iff t bs).mpr ⟨b.placement.domain, ⟨b, hb, rfl⟩, rfl⟩
  refine ⟨_, (nodes_arrange_perm t bs).mem_iff.mpr hnode, ?_⟩
  rw [← htag]
  exact (place_spec t (h.placed b hb)).2

/-- Only domains of commands have a node. -/
theorem exists_command_of_mem_nodes (h : AreBranches t cs bs) (hn : n ∈ (arrange t bs).nodes) :
    ∃ c ∈ cs, t.domainOf c.tag = n.domain := by
  obtain ⟨domain, ⟨b, hb, hdomain⟩, rfl⟩ :=
    (mem_sortedNodes_iff t bs).mp ((nodes_arrange_perm t bs).mem_iff.mp hn)
  obtain ⟨c, hc, htag⟩ := h.exists_command hb
  refine ⟨c, hc, ?_⟩
  rw [htag, ← (place_spec t (h.placed b hb)).2]
  exact hdomain

end AreBranches

/-- A list of commands has a tree exactly if all their tags are mapped and there are branches for
them, and then it is that of the branches. -/
theorem outcome_ofCommands_eq_ok_iff {tree : CommandTree} :
    (ofCommands t cs).outcome = .ok tree
      ↔ (∀ c ∈ cs, t.domainOf c.tag ≠ .unmapped)
        ∧ ∃ bs, branches t cs = .ok bs ∧ tree = arrange t bs := by
  rw [← unmapped_eq_nil_iff]
  unfold ofCommands
  cases h : unmapped t cs with
  | nil =>
      rw [and_iff_right rfl]
      dsimp only
      rw [Noted.outcome_bind_eq_ok_iff]
      refine exists_congr fun bs => ?_
      rw [Noted.outcome_ofFault, Except.mapError_eq_ok_iff]
      refine and_congr_right fun _ => ?_
      rw [Noted.outcome_bind_eq_ok_iff]
      constructor
      · rintro ⟨_, -, htree⟩
        exact (Except.ok.inj htree).symm
      · rintro rfl
        exact ⟨(), rfl, rfl⟩
  | cons lost rest => simp

/-- If all tags are mapped, nothing but a search that goes on for ever keeps it from having one. -/
theorem outcome_ofCommands_eq_error (hmapped : ∀ c ∈ cs, t.domainOf c.tag ≠ .unmapped) {e : Error}
    (h : (ofCommands t cs).outcome = .error e) : e = .fault .endlessSearch := by
  unfold ofCommands at h
  rw [(unmapped_eq_nil_iff t cs).mpr hmapped] at h
  dsimp only at h
  rcases Noted.outcome_bind_eq_error_iff.mp h with h | ⟨bs, -, h⟩
  · rw [Noted.outcome_ofFault] at h
    cases hbranches : branches t cs with
    | error fault =>
        rw [hbranches] at h
        rw [← Except.error.inj h, eq_endlessSearch_of_branches t cs hbranches]
    | ok bs =>
        rw [hbranches] at h
        cases h
  · rcases Noted.outcome_bind_eq_error_iff.mp h with h | ⟨_, -, h⟩
    · cases h
    · cases h

/-- It is refused exactly for the tags that are left over, if there are any. -/
theorem outcome_ofCommands_eq_unmapped_iff {lost : List (String × List String)} :
    (ofCommands t cs).outcome = .error (.unmappedTags lost)
      ↔ lost ≠ [] ∧ unmapped t cs = lost := by
  unfold ofCommands
  cases h : unmapped t cs with
  | nil =>
      dsimp only
      rw [Noted.outcome_bind]
      constructor
      · intro htree
        cases hbranches : branches t cs <;> rw [Noted.outcome_ofFault, hbranches] at htree <;>
          cases htree
      · rintro ⟨hne, rfl⟩
        exact absurd rfl hne
  | cons first rest =>
      dsimp only
      rw [Noted.outcome_fail, Except.error.injEq, Error.unmappedTags.injEq]
      constructor
      · rintro rfl
        exact ⟨List.cons_ne_nil _ _, rfl⟩
      · exact And.right

-- ====================================================== names at a root

/-- Both tags attach their commands to one domain itself. -/
def ShareRoot (t : Tables) (tag other : String) : Prop :=
  ∃ p q, t.place tag = .ok p ∧ t.place other = .ok q
    ∧ p.isRoot = true ∧ q.isRoot = true ∧ p.domain = q.domain

/-- Where names are unique by tag, they are unique exactly if no two tags share one. -/
theorem nodup_name_iff (h : cs.Pairwise fun c d => c.tag = d.tag → c.name ≠ d.name) :
    (cs.map (·.name)).Nodup ↔ ∀ c ∈ cs, ∀ d ∈ cs, c.tag ≠ d.tag → c.name ≠ d.name := by
  constructor
  · intro hnodup c hc d hd htag hname
    have heq := List.inj_on_of_nodup_map hnodup hc hd hname
    exact htag (congrArg Command.tag heq)
  · intro hall
    refine List.pairwise_map.mpr (h.imp_of_mem fun {c d} hc hd hsame => ?_)
    by_cases htag : c.tag = d.tag
    · exact hsame htag
    · exact hall c hc d hd htag

/-- The root commands of every node have different names exactly if no two tags at one root
share a name. -/
theorem AreBranches.nodup_name_rootCommands_iff (h : AreBranches t cs bs)
    (hnames : cs.Pairwise fun c d => c.tag = d.tag → c.name ≠ d.name) :
    (∀ n ∈ (arrange t bs).nodes, (n.rootCommands.map (·.name)).Nodup)
      ↔ ∀ c ∈ cs, ∀ d ∈ cs, ShareRoot t c.tag d.tag → c.tag ≠ d.tag → c.name ≠ d.name := by
  have hnode : ∀ n ∈ (arrange t bs).nodes, (n.rootCommands.map (·.name)).Nodup
      ↔ ∀ c ∈ n.rootCommands, ∀ d ∈ n.rootCommands, c.tag ≠ d.tag → c.name ≠ d.name := by
    intro n hn
    have hperm := h.rootCommands_perm hn
    rw [(hperm.map _).nodup_iff, nodup_name_iff (hnames.filter _)]
    simp only [hperm.mem_iff]
  have hmem : ∀ n ∈ (arrange t bs).nodes, ∀ c, c ∈ n.rootCommands
      ↔ c ∈ cs ∧ ∃ p, t.place c.tag = .ok p ∧ p.isRoot = true ∧ p.domain = n.domain := by
    intro n hn c
    rw [(h.rootCommands_perm hn).mem_iff, List.mem_filter]
    refine and_congr_right fun _ => ?_
    cases t.place c.tag with
    | error e => simp [Except.toOption]
    | ok p => simp [Except.toOption]
  constructor
  · rintro hnodup c hc d hd ⟨p, q, hp, hq, hroot, hroot', hdomain⟩
    obtain ⟨n, hn, hn_domain⟩ := h.exists_node hc
    have hp_domain : p.domain = n.domain := (place_spec t hp).2.trans hn_domain.symm
    exact (hnode n hn).mp (hnodup n hn) c ((hmem n hn c).mpr ⟨hc, p, hp, hroot, hp_domain⟩) d
      ((hmem n hn d).mpr ⟨hd, q, hq, hroot', hdomain.symm.trans hp_domain⟩)
  · intro hall n hn
    refine (hnode n hn).mpr fun c hc d hd => ?_
    obtain ⟨hc, p, hp, hroot, hp_domain⟩ := (hmem n hn c).mp hc
    obtain ⟨hd, q, hq, hroot', hq_domain⟩ := (hmem n hn d).mp hd
    exact hall c hc d hd ⟨p, q, hp, hq, hroot, hroot', hp_domain.trans hq_domain.symm⟩

end CommandTree

end ApiCommands
