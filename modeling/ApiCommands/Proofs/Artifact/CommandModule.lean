/-
The emitted command line: which handlers it has and which names they stand under.

# Every method once

Blocks are made of nodes one by one, and a block has a handler for every
command of its node (`DomainBlock.allHandlers_ofNode`), so all handlers are those
of the tree (`CommandBlocks.handlers_perm`). The tree holds every command once
(`Generator.Analyzes.handlers_perm`), and there is a command for every
operation. Put together, each method of the client is called by exactly one
handler.

# Which names can meet

A path of the command line is the name of a block, of a branch of it and of a
command, the branch being left out for commands at the root. Two kinds of names
never meet: those of branches, which are claimed beside the root commands, and
those of commands in one branch, which have one tag
(`DomainBlock.branchesApart_ofNode`). What a branch is called is the first free one
of its own name and this with numbers, and taken is what root commands and branches
before it are called (`DomainBlock.exists_branch_isFirstFree`,
`DomainBlock.contains_iff_nameTaken`).

The names of root commands are not claimed again. They come from all tags that
are roots of the domain, and names are unique by tag only; so they are
all different exactly if no two such tags share a name
(`nodup_name_rootCommands_iff`). At the top, the name of the authentication
commands is fixed while their domain is not. It is the name of a second block
exactly if some tag is placed in that domain although another one is set apart
(`nodup_topNames_iff`).
-/
import ApiCommands.Proofs.Artifact.Generation

namespace ApiCommands

/-- Elements at their places, made into something that the place does not show in. -/
private theorem map_mapIdx_of_forall {α β γ : Type _} {f : Nat → α → β} {g : β → γ} {h : α → γ}
    (hsame : ∀ i x, g (f i x) = h x) (xs : List α) : (xs.mapIdx f).map g = xs.map h := by
  refine List.ext_getElem (by simp) fun i _ _ => ?_
  rw [List.getElem_map, List.getElem_mapIdx, List.getElem_map]
  exact hsame i _

namespace DomainBlock

variable (t : Tables) (variableName : String) (n : DomainNode)

-- ====================================================== branches of a block

theorem length_branchNames (commandNames : List String) (branches : List Branch) :
    (branchNames commandNames branches).length = branches.length := by
  unfold branchNames
  rw [Taken.length_claimAll, List.length_map]

/-- The branches of a block have the names claimed for them, in order. -/
theorem map_name_branches_ofNode :
    (ofNode t variableName n).branches.map (·.name)
      = branchNames (n.rootCommands.map (·.name)) n.subBranches := by
  unfold ofNode branchBlocks
  dsimp only
  refine Eq.trans (map_mapIdx_of_forall (h := Prod.snd) ?_ _) ?_
  · intro _ _
    rfl
  · exact List.map_snd_zip (Nat.le_of_eq (length_branchNames _ _))

/-- The branches of a block have the handlers of the node's branches, in order. -/
theorem map_handlers_branches_ofNode :
    (ofNode t variableName n).branches.map (·.handlers)
      = n.subBranches.map fun b => b.commands.map (Handler.ofCommand t) := by
  unfold ofNode branchBlocks
  dsimp only
  refine Eq.trans (map_mapIdx_of_forall (h := fun x : Branch × String =>
    x.1.commands.map (Handler.ofCommand t)) ?_ _) ?_
  · intro _ _
    rfl
  · have hbranches := List.map_fst_zip (Nat.le_of_eq
      (length_branchNames (n.rootCommands.map (·.name)) n.subBranches).symm)
    conv_rhs => rw [← hbranches, List.map_map]
    rfl

-- ====================================================== handlers of a block

/-- A block has a handler for every command of its node. -/
theorem allHandlers_ofNode :
    (ofNode t variableName n).allHandlers
      = (n.rootCommands ++ n.subBranches.flatMap (·.commands)).map (Handler.ofCommand t) := by
  unfold allHandlers
  rw [List.flatMap_def, map_handlers_branches_ofNode, ← List.flatMap_def, List.map_append,
    List.map_flatMap]
  rfl

/-- They are those of the commands of the node, up to the order. -/
theorem allHandlers_ofNode_perm :
    (ofNode t variableName n).allHandlers.Perm (n.commands.map (Handler.ofCommand t)) := by
  rw [allHandlers_ofNode]
  exact n.root_append_sub_perm.map _

/-- The names that the root commands of a block go by. -/
theorem map_command_handlers_ofNode :
    (ofNode t variableName n).handlers.map (·.command) = n.rootCommands.map (·.name) := by
  unfold ofNode
  dsimp only
  rw [List.map_map]
  rfl

-- ====================================================== names in a block

/-- What holds of the branches of a block: their names differ from each other and from those of the
root commands, and so do the names of the commands in each. -/
structure BranchesApart (b : DomainBlock) : Prop where
  names : (b.branches.map (·.name)).Nodup
  besideRoot : ∀ h ∈ b.handlers, ∀ branch ∈ b.branches, h.command ≠ branch.name
  inside : ∀ branch ∈ b.branches, (branch.handlers.map (·.command)).Nodup

variable {t variableName n} {cs : List Command} {bs : List Branch}

/-- The names of branches are claimed with those of the root commands taken, so they differ from
them, whatever case counts. -/
theorem lowered_name_ne_of_mem {c : Command} (hc : c ∈ n.rootCommands) {branch : BranchBlock}
    (hbranch : branch ∈ (ofNode t variableName n).branches) :
    Text.lowered c.name ≠ Text.lowered branch.name := by
  have hname : branch.name ∈ branchNames (n.rootCommands.map (·.name)) n.subBranches := by
    rw [← map_name_branches_ofNode t variableName n]
    exact List.mem_map.mpr ⟨branch, hbranch, rfl⟩
  have hfree := Taken.contains_ofList_eq_false_iff.mp (Taken.claimAll_free _ hname)
  exact (hfree c.name (List.mem_map.mpr ⟨c, hc, rfl⟩)).symm

/-- So no command at the root is called like a branch. -/
theorem command_ne_name_of_mem {h : Handler} (hh : h ∈ (ofNode t variableName n).handlers)
    {branch : BranchBlock} (hbranch : branch ∈ (ofNode t variableName n).branches) :
    h.command ≠ branch.name := by
  obtain ⟨c, hc, rfl⟩ := List.mem_map.mp hh
  exact fun heq => lowered_name_ne_of_mem hc hbranch (congrArg Text.lowered heq)

/-- The commands of one branch have one tag, so their names differ. -/
theorem nodup_command_of_mem_branches (hbs : CommandTree.AreBranches t cs bs)
    (hcs : cs.Pairwise fun c d => c.tag = d.tag → c.name ≠ d.name)
    (hn : n ∈ (CommandTree.arrange t bs).nodes) {branch : BranchBlock}
    (hbranch : branch ∈ (ofNode t variableName n).branches) :
    (branch.handlers.map (·.command)).Nodup := by
  have hhandlers : branch.handlers ∈ (ofNode t variableName n).branches.map (·.handlers) :=
    List.mem_map.mpr ⟨branch, hbranch, rfl⟩
  rw [map_handlers_branches_ofNode] at hhandlers
  obtain ⟨b, hb, heq⟩ := List.mem_map.mp hhandlers
  have hnames : branch.handlers.map (·.command) = b.commands.map (·.name) := by
    rw [← heq, List.map_map]
    rfl
  have hmem := (CommandTree.mem_branches_of_mem_nodes hn (List.mem_filter.mp hb).1).1
  rw [hnames, ((hbs.commands_perm hmem).map _).nodup_iff,
    CommandTree.nodup_name_iff (hcs.filter _)]
  intro c hc d hd htag
  have hc_tag : c.tag = b.placement.tag := by simpa using (List.mem_filter.mp hc).2
  have hd_tag : d.tag = b.placement.tag := by simpa using (List.mem_filter.mp hd).2
  exact absurd (hc_tag.trans hd_tag.symm) htag

/-- So no name of a branch meets another, and no two commands of a branch meet. -/
theorem branchesApart_ofNode (hbs : CommandTree.AreBranches t cs bs)
    (hcs : cs.Pairwise fun c d => c.tag = d.tag → c.name ≠ d.name)
    (hn : n ∈ (CommandTree.arrange t bs).nodes) :
    (ofNode t variableName n).BranchesApart where
  names := by
    rw [map_name_branches_ofNode]
    exact (Taken.nodup_claimAll _ _).of_map
  besideRoot := fun _ hh _ hbranch => command_ne_name_of_mem hh hbranch
  inside := fun _ hbranch => nodup_command_of_mem_branches hbs hcs hn hbranch

-- ====================================================== who gets a name in a block

/-- A root command of the node or a branch before has the name, in this case or another. -/
def NameTaken (n : DomainNode) (before : List BranchBlock) (name : String) : Prop :=
  (∃ c ∈ n.rootCommands, Text.lowered c.name = Text.lowered name)
    ∨ ∃ branch ∈ before, Text.lowered branch.name = Text.lowered name

instance (n : DomainNode) (before : List BranchBlock) (name : String) :
    Decidable (NameTaken n before name) :=
  inferInstanceAs (Decidable (_ ∨ _))

variable (t variableName n)

theorem length_branches_ofNode :
    (ofNode t variableName n).branches.length = n.subBranches.length := by
  rw [← length_branchNames (n.rootCommands.map (·.name)) n.subBranches,
    ← map_name_branches_ofNode t variableName n, List.length_map]

/-- The name of a branch is the first free one of its base name and this with numbers. -/
theorem exists_branch_isFirstFree {k : Nat} {branch : Branch}
    (h : n.subBranches[k]? = some branch) :
    ∃ block, (ofNode t variableName n).branches[k]? = some block
      ∧ (Candidates.numbered branch.baseName "-").IsFirstFree
          ((((ofNode t variableName n).branches.take k).map (·.name)).foldl Taken.insert
            (Taken.ofList (n.rootCommands.map (·.name)))) block.name := by
  have hchain : (n.subBranches.map fun b => Candidates.numbered b.baseName "-")[k]?
      = some (.numbered branch.baseName "-") := by
    rw [List.getElem?_map, h]
    rfl
  obtain ⟨name, hname, hfirst⟩ :=
    (Taken.ofList (n.rootCommands.map (·.name))).claimAll_getElem? hchain
  have hnames := map_name_branches_ofNode t variableName n
  unfold branchNames at hnames
  rw [← hnames, List.getElem?_map] at hname
  obtain ⟨block, hblock, rfl⟩ := Option.map_eq_some_iff.mp hname
  rw [← hnames, ← List.map_take] at hfirst
  exact ⟨block, hblock, hfirst⟩

variable {n}

/-- Taken before a branch is what a root command or a branch before it is called. -/
theorem contains_iff_nameTaken (before : List BranchBlock) (name : String) :
    ((before.map (·.name)).foldl Taken.insert
        (Taken.ofList (n.rootCommands.map (·.name)))).contains name = true
      ↔ NameTaken n before name := by
  rw [Taken.contains_foldl_insert_iff, ← Bool.not_eq_false, Taken.contains_ofList_eq_false_iff]
  unfold NameTaken
  simp [eq_comm]

variable (n)

theorem map_variableName_branches_ofNode :
    (ofNode t variableName n).branches.map (·.variableName)
      = (List.range n.subBranches.length).map (branchVariable variableName) := by
  unfold ofNode branchBlocks
  dsimp only
  refine List.ext_getElem (by simp [length_branchNames]) fun i _ _ => ?_
  rw [List.getElem_map, List.getElem_mapIdx, List.getElem_map, List.getElem_range]

/-- The variables of the branches differ, also from that of the block. -/
theorem nodup_variableName_branches :
    (variableName :: (ofNode t variableName n).branches.map (·.variableName)).Nodup := by
  rw [map_variableName_branches_ofNode, List.nodup_cons]
  constructor
  · intro hmem
    obtain ⟨i, -, heq⟩ := List.mem_map.mp hmem
    have hlength := congrArg String.length heq
    have hunderscore : "_".length = 1 := rfl
    unfold branchVariable at hlength
    rw [String.length_append, String.length_append] at hlength
    omega
  · refine List.Nodup.map (fun i j heq => ?_) List.nodup_range
    exact Text.append_toString_injective (variableName ++ "_") heq

/-- The names of the branches of a block can be told apart from each other and from those of the
root commands, whatever case counts. A branch keeps its own name exactly if neither a root command
nor a branch before it has taken that, and otherwise gets it with the smallest number from 2 on that
makes it free. The variables of the branches differ as well. -/
theorem branches_named_first_free (t : Tables) (variableName : String) (n : DomainNode) :
    ((ofNode t variableName n).branches.map fun b => Text.lowered b.name).Nodup
      ∧ (∀ c ∈ n.rootCommands, ∀ b ∈ (ofNode t variableName n).branches,
          Text.lowered c.name ≠ Text.lowered b.name)
      ∧ (ofNode t variableName n).branches.length = n.subBranches.length
      ∧ (∀ k branch, n.subBranches[k]? = some branch →
          ∃ b, (ofNode t variableName n).branches[k]? = some b
            ∧ (b.name = branch.baseName
                ↔ ¬NameTaken n ((ofNode t variableName n).branches.take k) branch.baseName)
            ∧ (NameTaken n ((ofNode t variableName n).branches.take k) branch.baseName →
                ∃ m ≥ 2, b.name = branch.baseName ++ "-" ++ toString m
                  ∧ ¬NameTaken n ((ofNode t variableName n).branches.take k) b.name
                  ∧ ∀ j, 2 ≤ j → j < m → NameTaken n ((ofNode t variableName n).branches.take k)
                      (branch.baseName ++ "-" ++ toString j)))
      ∧ (variableName :: (ofNode t variableName n).branches.map (·.variableName)).Nodup := by
  refine ⟨?_, fun _ hc _ hb => lowered_name_ne_of_mem hc hb,
    length_branches_ofNode t variableName n, fun k branch hbranch => ?_,
    nodup_variableName_branches t variableName n⟩
  · have hnodup : ((branchNames (n.rootCommands.map (·.name)) n.subBranches).map
        Text.lowered).Nodup := Taken.nodup_claimAll _ _
    rwa [← map_name_branches_ofNode t variableName n, List.map_map] at hnodup
  · obtain ⟨b, hb, hfirst⟩ := exists_branch_isFirstFree t variableName n hbranch
    have hkept := hfirst.eq_base_iff
    rw [← Bool.not_eq_true, contains_iff_nameTaken] at hkept
    have hfree := hfirst.free
    rw [← Bool.not_eq_true, contains_iff_nameTaken] at hfree
    refine ⟨b, hb, hkept, fun htaken => ?_⟩
    obtain ⟨m, hm, hname, hsmaller⟩ :=
      hfirst.exists_smallest ((contains_iff_nameTaken _ _).mpr htaken)
    exact ⟨m, hm, hname, hfree, fun j hj hlt => (contains_iff_nameTaken _ _).mp (hsmaller j hj hlt)⟩

/-- Users with a root command that is called like a branch, and branches that are called like each
other, like each other with a number, and by their tag. -/
def sharedTagsNode : DomainNode :=
  let operation : Operation :=
    { tag := "Users", method := .get, path := "/tags", id := "getTags", methodName := "getTags" }
  let branchOf (tag name : String) : Branch := ⟨⟨tag, .users, some name⟩, []⟩
  { domain := .users
    description := "Users."
    branches :=
      [⟨⟨"Users", .users, none⟩, [⟨operation, "tags", "getTags"⟩]⟩, branchOf "UserTags" "tags",
        branchOf "Tags2" "tags-2", branchOf "TAGS" "Tags", branchOf "Time Bookings" ""] }

/-- The second branch has the number that the first one got, the third one gets the next. -/
theorem sharedTagsNode_branches_named :
    (ofNode Tables.standard "_d0" sharedTagsNode).branches.map (·.name)
        = ["tags-2", "tags-2-2", "Tags-3", "time-bookings"]
      ∧ ∃ b, (ofNode Tables.standard "_d0" sharedTagsNode).branches[2]? = some b
          ∧ b.name ≠ "Tags"
          ∧ ∃ m ≥ 2, b.name = "Tags" ++ "-" ++ toString m := by
  obtain ⟨-, -, -, hbranches, -⟩ := branches_named_first_free Tables.standard "_d0" sharedTagsNode
  obtain ⟨b, hb, hkept, hsmallest⟩ := hbranches 2 ⟨⟨"TAGS", .users, some "Tags"⟩, []⟩
    (by decide)
  have htaken : NameTaken sharedTagsNode
      ((ofNode Tables.standard "_d0" sharedTagsNode).branches.take 2) "Tags" := by decide
  obtain ⟨m, hm, hname, -⟩ := hsmallest htaken
  exact ⟨by decide, b, hb, fun hname => hkept.mp hname htaken, m, hm, hname⟩

end DomainBlock

namespace CommandBlocks

variable (t : Tables) (tree : CommandTree)

-- ====================================================== all blocks

/-- What the variable of a block does not show in is told by the nodes, one after the other. -/
theorem map_all_ofTree {β : Type _} {f : DomainBlock → β} {g : DomainNode → β}
    (h : ∀ variableName n, f (DomainBlock.ofNode t variableName n) = g n) :
    (ofTree t tree).all.map f = tree.nodes.map g := by
  unfold all ofTree CommandTree.nodes
  dsimp only
  rw [List.map_append, List.map_append,
    map_mapIdx_of_forall fun i n => h (domainVariable i) n]
  cases tree.auth with
  | none => rfl
  | some n =>
      have hauth := h authVariable n
      simp [hauth]

/-- Every block is made of a node. -/
theorem exists_node_of_mem_all {block : DomainBlock} (h : block ∈ (ofTree t tree).all) :
    ∃ variableName, ∃ n ∈ tree.nodes, block = DomainBlock.ofNode t variableName n := by
  unfold all ofTree at h
  dsimp only at h
  unfold CommandTree.nodes
  rcases List.mem_append.mp h with hdomain | hauth
  · obtain ⟨i, hi, rfl⟩ := List.mem_mapIdx.mp hdomain
    exact ⟨_, _, List.mem_append_left _ (List.getElem_mem hi), rfl⟩
  · obtain ⟨n, hn, rfl⟩ := Option.map_eq_some_iff.mp (Option.mem_toList.mp hauth)
    exact ⟨_, n, List.mem_append_right _ (Option.mem_toList.mpr hn), rfl⟩

/-- All handlers are those of the commands of the tree, up to the order. -/
theorem handlers_perm :
    (ofTree t tree).handlers.Perm (tree.commands.map (Handler.ofCommand t)) := by
  unfold handlers CommandTree.commands
  rw [List.flatMap_def, map_all_ofTree t tree (DomainBlock.allHandlers_ofNode t),
    ← List.flatMap_def, List.map_flatMap]
  refine List.Perm.flatMap_left _ fun n _ => ?_
  rw [← DomainBlock.allHandlers_ofNode t authVariable n]
  exact DomainBlock.allHandlers_ofNode_perm t authVariable n

/-- The root commands of every block have different names exactly if those of every node have. -/
theorem nodup_command_iff :
    (∀ block ∈ (ofTree t tree).all, (block.handlers.map (·.command)).Nodup)
      ↔ ∀ n ∈ tree.nodes, (n.rootCommands.map (·.name)).Nodup := by
  have hnames : (ofTree t tree).all.map (fun block => block.handlers.map (·.command))
      = tree.nodes.map fun n => n.rootCommands.map (·.name) :=
    map_all_ofTree t tree (DomainBlock.map_command_handlers_ofNode t)
  constructor
  · intro hblocks n hn
    have hmem : n.rootCommands.map (·.name) ∈ tree.nodes.map fun n => n.rootCommands.map (·.name) :=
      List.mem_map.mpr ⟨n, hn, rfl⟩
    rw [← hnames] at hmem
    obtain ⟨block, hblock, heq⟩ := List.mem_map.mp hmem
    rw [← heq]
    exact hblocks block hblock
  · intro hnodes block hblock
    obtain ⟨variableName, n, hn, rfl⟩ := exists_node_of_mem_all t tree hblock
    rw [DomainBlock.map_command_handlers_ofNode]
    exact hnodes n hn

-- ====================================================== the names at the top

/-- The names of the main tree are those of its domains. -/
theorem map_name_domains_ofTree :
    (ofTree t tree).domains.map (·.name) = tree.domains.map fun n => n.domain.name := by
  unfold ofTree
  dsimp only
  refine map_mapIdx_of_forall ?_ _
  intro _ _
  rfl

/-- The names at the top are all different exactly if the domain that is called like the
authentication commands is the one set apart, or has no commands. -/
theorem nodup_topNames_iff {cs : List Command} {bs : List Branch}
    (hbs : CommandTree.AreBranches t cs bs) :
    (ofTree t (CommandTree.arrange t bs)).topNames.Nodup
      ↔ t.authDomain = .auth ∨ ∀ c ∈ cs, t.domainOf c.tag ≠ .auth := by
  have hdomains : ((CommandTree.arrange t bs).domains.map fun n => n.domain.name).Nodup := by
    have hnames := (CommandTree.nodup_domain_domains t bs).map Domain.name_injective
    rwa [List.map_map] at hnames
  have hname : Domain.auth.name = authName := rfl
  unfold topNames
  rw [map_name_domains_ofTree, List.nodup_append_comm, List.singleton_append, List.nodup_cons,
    and_iff_left hdomains]
  constructor
  · intro hfree
    by_cases hauth : t.authDomain = .auth
    · exact Or.inl hauth
    · refine Or.inr fun c hc hdomain => hfree ?_
      obtain ⟨n, hn, hnode⟩ := hbs.exists_node hc
      have hn_auth : n.domain = .auth := hnode.trans hdomain
      refine List.mem_map.mpr ⟨n, CommandTree.mem_domains_iff.mpr ⟨hn, ?_⟩, ?_⟩
      · rw [hn_auth]
        exact fun heq => hauth heq.symm
      · rw [hn_auth, hname]
  · intro hcond hmem
    obtain ⟨n, hn, heq⟩ := List.mem_map.mp hmem
    obtain ⟨hnode, hapart⟩ := CommandTree.mem_domains_iff.mp hn
    have hn_auth : n.domain = .auth := Domain.name_injective (heq.trans hname.symm)
    rcases hcond with hauth | hnone
    · exact hapart (hn_auth.trans hauth.symm)
    · obtain ⟨c, hc, hdomain⟩ := hbs.exists_command_of_mem_nodes hnode
      exact hnone c hc (hdomain.trans hn_auth)

end CommandBlocks

namespace Generator

variable {g : Generator} {document : Value} {a : Analysis}

/-- The handlers of the blocks are those of the commands, up to the order. -/
theorem Analyzes.handlers_perm (h : g.Analyzes document a) :
    (CommandBlocks.ofTree g.tables a.tree).handlers.Perm
      (a.commands.map (Handler.ofCommand g.tables)) := by
  obtain ⟨bs, hbs, htree⟩ := h.tree
  have hcommands : a.tree.commands.Perm a.commands := by
    rw [htree]
    exact (CommandTree.commands_arrange_perm g.tables bs).trans
      (CommandTree.areBranches g.tables a.commands hbs).flatMap_perm
  exact (CommandBlocks.handlers_perm g.tables a.tree).trans (hcommands.map _)

-- ====================================================== calls

/-- The handlers of an emitted command line call the methods of the client, each exactly once: no
operation gets lost between its collection and the blocks, and none comes twice. -/
theorem handlers_call_each_method_once (h : (g.analyze document).outcome = .ok (some a)) :
    ((CommandBlocks.ofTree g.tables a.tree).handlers.map (·.method)).Perm
        (a.operations.map (·.methodName))
      ∧ ∀ op ∈ a.operations,
          ((CommandBlocks.ofTree g.tables a.tree).handlers.map (·.method)).count op.methodName
            = 1 := by
  have hanalyzes := outcome_analyze_eq_ok_some_iff.mp h
  have hperm : ((CommandBlocks.ofTree g.tables a.tree).handlers.map (·.method)).Perm
      (a.operations.map (·.methodName)) := by
    have hcommands := hanalyzes.map_operation_commands_perm.map (·.methodName)
    rw [List.map_map] at hcommands
    have hhandlers := hanalyzes.handlers_perm.map (·.method)
    rw [List.map_map] at hhandlers
    exact hhandlers.trans hcommands
  have hnodup : (a.operations.map (·.methodName)).Nodup := by
    have hlowered : ((a.operations.map (·.methodName)).map Text.lowered).Nodup := by
      rw [List.map_map]
      exact Api.nodup_methodName hanalyzes.operations
    exact hlowered.of_map
  refine ⟨hperm, fun op hop => ?_⟩
  rw [hperm.count_eq]
  exact List.count_eq_one_of_mem hnodup (List.mem_map.mpr ⟨op, hop, rfl⟩)

/-- So it is with two tags that are one word. -/
theorem twinTags_handlers_call_each_method_once :
    (TwinTags.generator.analyze TwinTags.document).outcome = .ok (some TwinTags.analysis)
      ∧ ((CommandBlocks.ofTree Tables.standard TwinTags.analysis.tree).handlers.map
          (·.method)).Perm ["getUsers", "getAllUsers"] := by
  have h := outcome_analyze_eq_ok_some_iff.mpr TwinTags.analyzes
  exact ⟨h, (handlers_call_each_method_once h).1⟩

-- ====================================================== paths

/-- Which commands of an emitted command line can be told apart by their paths. Below a branch and
beside one all can. At the root of a block they can exactly if no two tags which attach their
commands to one domain share a name; that is not checked, since names are unique by tag. At the
top they can exactly if the domain called `auth` is the one set apart, or has no commands. -/
theorem command_paths_apart_iff (h : (g.analyze document).outcome = .ok (some a)) :
    (∀ block ∈ (CommandBlocks.ofTree g.tables a.tree).all, block.BranchesApart)
      ∧ ((∀ block ∈ (CommandBlocks.ofTree g.tables a.tree).all,
            (block.handlers.map (·.command)).Nodup)
          ↔ ∀ c ∈ a.commands, ∀ d ∈ a.commands,
              CommandTree.ShareRoot g.tables c.tag d.tag → c.tag ≠ d.tag → c.name ≠ d.name)
      ∧ ((CommandBlocks.ofTree g.tables a.tree).topNames.Nodup
          ↔ g.tables.authDomain = .auth ∨ ∀ c ∈ a.commands, g.tables.domainOf c.tag ≠ .auth) := by
  have hanalyzes := outcome_analyze_eq_ok_some_iff.mp h
  have hnames := hanalyzes.pairwise_commands
  obtain ⟨bs, hbranches, htree⟩ := hanalyzes.tree
  have hbs := CommandTree.areBranches g.tables a.commands hbranches
  rw [htree]
  refine ⟨fun block hblock => ?_, ?_, ?_⟩
  · obtain ⟨variableName, n, hn, rfl⟩ := CommandBlocks.exists_node_of_mem_all _ _ hblock
    exact DomainBlock.branchesApart_ofNode hbs hnames hn
  · rw [CommandBlocks.nodup_command_iff]
    exact hbs.nodup_name_rootCommands_iff hnames
  · exact CommandBlocks.nodup_topNames_iff g.tables hbs

/-- Two tags that are one word are both roots of the users, and both call their listing `list`. -/
theorem twinTags_share_path :
    (TwinTags.generator.analyze TwinTags.document).outcome = .ok (some TwinTags.analysis)
      ∧ (∀ block ∈ (CommandBlocks.ofTree Tables.standard TwinTags.analysis.tree).all,
          block.BranchesApart)
      ∧ (∃ block ∈ (CommandBlocks.ofTree Tables.standard TwinTags.analysis.tree).all,
          ¬(block.handlers.map (·.command)).Nodup)
      ∧ (CommandBlocks.ofTree Tables.standard TwinTags.analysis.tree).topNames.Nodup := by
  have h := outcome_analyze_eq_ok_some_iff.mpr TwinTags.analyzes
  obtain ⟨hapart, hroots, htop⟩ := command_paths_apart_iff h
  refine ⟨h, hapart, ?_, htop.mpr (Or.inl rfl)⟩
  by_contra hall
  push Not at hall
  obtain ⟨c, hc, hc_op, hc_name⟩ := TwinTags.exists_command_list
    (TwinTags.operation "/Users" "getUsers" "Users") (by decide)
  obtain ⟨d, hd, hd_op, hd_name⟩ := TwinTags.exists_command_list
    (TwinTags.operation "/USERS" "getAllUsers" "USERS") (by decide)
  have hc_tag : c.tag = "Users" := congrArg Operation.tag hc_op
  have hd_tag : d.tag = "USERS" := congrArg Operation.tag hd_op
  have hshare : CommandTree.ShareRoot Tables.standard "Users" "USERS" :=
    ⟨⟨"Users", .users, none⟩, ⟨"USERS", .users, none⟩, by decide, by decide,
      rfl, rfl, rfl⟩
  refine hroots.mp hall c hc d hd ?_ ?_ (hc_name.trans hd_name.symm)
  · rw [hc_tag, hd_tag]
    exact hshare
  · rw [hc_tag, hd_tag]
    decide

end Generator

end ApiCommands
