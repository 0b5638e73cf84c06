/-
Names that handlers share with the functions that attach them.

# Bound names

Where handlers are attached, a command line stands in a variable: `app`, one for
each domain and one for each branch (`CommandBlocks.boundNames`). A handler of
such a name is hidden there, and what is attached is the command line itself.
Handlers keep away from the names of the module only; nothing keeps them away
from these.

# Which of them a handler can have

Variables do not end in a method, as every name does that is not the first choice
of an operation (`IsVariable.not_endsInMethod`): they end in a `p`, or in a number
behind a `d` or an underscore. So only a first choice can be a variable, and it is
the handler of the first command that has this choice, in this case or another
(`handler_bound_iff`).
-/
import ApiCommands.Proofs.Artifact.CommandModule
import ApiCommands.Proofs.Naming.MethodName

namespace ApiCommands

-- ====================================================== variables

/-- The variables of command lines. -/
inductive IsVariable : String → Prop
  | app : IsVariable CommandBlocks.authVariable
  | domain (i : Nat) : IsVariable (CommandBlocks.domainVariable i)
  | branch {variableName : String} (h : IsVariable variableName) (j : Nat) :
      IsVariable (DomainBlock.branchVariable variableName j)

namespace IsVariable

variable {name : String}

/-- No variable ends in a method. -/
theorem not_endsInMethod (h : IsVariable name) : ¬EndsInMethod name := by
  cases h with
  | app =>
      refine not_endsInMethod_of_no_digit (by decide) fun m => ?_
      cases m <;> decide
  | domain i =>
      refine not_endsInMethod_append_toString (by decide) (fun m => ?_) i
      cases m <;> decide
  | @branch variableName _ j =>
      have hlast : (variableName ++ "_").toList.getLast? = some '_' := by
        rw [String.toList_append]
        exact List.getLast?_concat
      refine not_endsInMethod_append_toString (by rw [hlast]; decide) (fun m hsuffix => ?_) j
      have hmem := m.getLast?_name
      rw [← Method.getLast?_of_isSuffix hsuffix, hlast] at hmem
      revert hmem
      decide

/-- Variables are ASCII and have no capitals. -/
theorem forall_mem_toList (h : IsVariable name) :
    ∀ c ∈ name.toList, c.toNat < 128 ∧ c.toLower = c := by
  have hfixed : ∀ s : String,
      (s.toList.all fun c => decide (c.toNat < 128) && c.toLower == c) = true →
      ∀ c ∈ s.toList, c.toNat < 128 ∧ c.toLower = c := by
    intro s hs c hc
    simpa using List.all_eq_true.mp hs c hc
  have hnumber : ∀ n : Nat, ∀ c ∈ (toString n).toList, c.toNat < 128 ∧ c.toLower = c :=
    fun n c hc => Text.toLower_of_isDigit (Text.isDigit_of_mem_toString hc)
  induction h with
  | app => exact hfixed _ (by decide)
  | domain i =>
      intro c hc
      unfold CommandBlocks.domainVariable at hc
      rw [String.toList_append] at hc
      exact (List.mem_append.mp hc).elim (hfixed "_d" (by decide) c) (hnumber i c)
  | @branch variableName _ j ih =>
      intro c hc
      unfold DomainBlock.branchVariable at hc
      rw [String.toList_append, String.toList_append, List.append_assoc] at hc
      rcases List.mem_append.mp hc with hvariable | hrest
      · exact ih c hvariable
      · exact (List.mem_append.mp hrest).elim (hfixed "_" (by decide) c) (hnumber j c)

/-- A variable is its own lower case. -/
theorem lowered_eq (h : IsVariable name) : Text.lowered name = name :=
  Text.lowered_eq_self h.forall_mem_toList

/-- No variable is a name of the module, in whatever case. -/
theorem ne_lowered_of_mem (h : IsVariable name) :
    ∀ other ∈ commandModuleNames, name ≠ Text.lowered other := by
  have hdigits : ∀ other ∈ commandModuleNames,
      (Text.lowered other).toList.getLast?.any Char.isDigit = false := by decide
  have hnumbered : ∀ (stem : String) (n : Nat), name = stem ++ toString n →
      ∀ other ∈ commandModuleNames, name ≠ Text.lowered other := by
    rintro stem n rfl other hother heq
    have hend := hdigits other hother
    rw [← heq, Text.any_isDigit_append_toString] at hend
    cases hend
  cases h with
  | app => decide
  | domain i => exact hnumbered _ i rfl
  | branch _ j => exact hnumbered _ j rfl

end IsVariable

-- ====================================================== what the command module binds

namespace CommandBlocks

/-- The names that are bound where handlers are attached: the command line that is filled, and the
variables of domains and branches. -/
def boundNames (b : CommandBlocks) : List String :=
  authVariable :: b.domains.map (·.variableName)
    ++ b.all.flatMap fun block => block.branches.map (·.variableName)

/-- The branches of a block stand in variables made of that of the block. -/
theorem isVariable_of_mem_branches {t : Tables} {variableName : String} {n : DomainNode}
    (h : IsVariable variableName) {branch : BranchBlock}
    (hbranch : branch ∈ (DomainBlock.ofNode t variableName n).branches) :
    IsVariable branch.variableName := by
  unfold DomainBlock.ofNode DomainBlock.branchBlocks at hbranch
  obtain ⟨j, _, rfl⟩ := List.mem_mapIdx.mp hbranch
  exact .branch h j

/-- All bound names are variables of command lines. -/
theorem isVariable_of_mem_boundNames {t : Tables} {tree : CommandTree} {name : String}
    (h : name ∈ (ofTree t tree).boundNames) : IsVariable name := by
  have hdomains : ∀ block ∈ (ofTree t tree).domains, ∃ i n,
      block = DomainBlock.ofNode t (domainVariable i) n := by
    intro block hblock
    obtain ⟨i, _, rfl⟩ := List.mem_mapIdx.mp hblock
    exact ⟨i, _, rfl⟩
  unfold boundNames at h
  rcases List.mem_append.mp h with htop | hbelow
  · rcases List.mem_cons.mp htop with rfl | hdomain
    · exact .app
    · obtain ⟨block, hblock, rfl⟩ := List.mem_map.mp hdomain
      obtain ⟨i, n, rfl⟩ := hdomains block hblock
      exact .domain i
  · obtain ⟨block, hblock, hvariable⟩ := List.mem_flatMap.mp hbelow
    obtain ⟨branch, hbranch, rfl⟩ := List.mem_map.mp hvariable
    rcases List.mem_append.mp hblock with hdomain | hauth
    · obtain ⟨i, n, rfl⟩ := hdomains block hdomain
      exact isVariable_of_mem_branches (.domain i) hbranch
    · obtain ⟨n, -, rfl⟩ := Option.map_eq_some_iff.mp (Option.mem_toList.mp hauth)
      exact isVariable_of_mem_branches .app hbranch

end CommandBlocks

-- ====================================================== which handlers are bound

namespace Generator

variable {g : Generator} {document : Value} {a : Analysis}

/-- The functions of the handlers are those of the commands. -/
theorem Analyzes.exists_handler_iff (h : g.Analyzes document a) {name : String} :
    (∃ handler ∈ (CommandBlocks.ofTree g.tables a.tree).handlers, handler.function = name)
      ↔ name ∈ a.commands.map (·.handler) := by
  have hfunctions := h.handlers_perm.map (·.function)
  rw [List.map_map] at hfunctions
  rw [← List.mem_map, hfunctions.mem_iff]
  rfl

/-- The handlers are claimed by the operations in the order of the commands. -/
theorem Analyzes.map_handler_commands (h : g.Analyzes document a) :
    a.commands.map (·.handler)
      = (Taken.ofList (reservedHandlers g.clientClass)).claimAll ((a.commands.map
          (·.operation)).map fun op => g.tables.methodCandidates op.id op.path op.method) := by
  obtain ⟨named, -, hpairs, hhandlers⟩ := g.namer.commands_eq_ok h.commands
  have hoperations : named.map Prod.fst = a.commands.map (·.operation) := by
    rw [← hpairs, List.map_map]
    rfl
  rw [hhandlers, hoperations]
  rfl

/-- A variable is reserved only as the name of the client class. -/
theorem contains_reservedHandlers_eq_false_iff {clientClass name : String}
    (hname : IsVariable name) :
    (Taken.ofList (reservedHandlers clientClass)).contains name = false
      ↔ Text.lowered clientClass ≠ name := by
  rw [Taken.contains_ofList_eq_false_iff, hname.lowered_eq]
  unfold reservedHandlers
  constructor
  · exact fun hall => (hall _ (List.mem_append_right _ List.mem_cons_self)).symm
  · intro hclass other hother
    rcases List.mem_append.mp hother with hmodule | hlast
    · exact hname.ne_lowered_of_mem other hmodule
    · rw [List.mem_singleton.mp hlast]
      exact hclass.symm

/-- Which handlers are hidden where they are attached. A name that is bound there is the name of a
handler exactly if it is the first choice of a command, earlier commands with that choice in
another case apart, and the client class is not called so. Nothing else keeps handlers away from
bound names. -/
theorem handler_bound_iff (h : (g.analyze document).outcome = .ok (some a)) :
    ∀ name ∈ (CommandBlocks.ofTree g.tables a.tree).boundNames,
      (∃ handler ∈ (CommandBlocks.ofTree g.tables a.tree).handlers, handler.function = name)
        ↔ Text.lowered g.clientClass ≠ name
          ∧ (a.commands.map fun c => g.tables.methodBase c.operation.id c.operation.path).find?
              (fun base => Text.lowered base == name) = some name := by
  have hanalyzes := outcome_analyze_eq_ok_some_iff.mp h
  intro name hbound
  have hname := CommandBlocks.isVariable_of_mem_boundNames hbound
  have hbases : (a.commands.map fun c => g.tables.methodBase c.operation.id c.operation.path)
      = (a.commands.map (·.operation)).map fun op => g.tables.methodBase op.id op.path := by
    rw [List.map_map]
    rfl
  have honly : ∀ (op : Operation) (other : String),
      (g.tables.methodCandidates op.id op.path op.method).Has other →
        Text.lowered other = Text.lowered name → other = g.tables.methodBase op.id op.path := by
    intro op other hhas heq
    refine g.tables.eq_methodBase_of_has hhas ?_
    rw [heq, hname.lowered_eq]
    exact hname.not_endsInMethod
  rw [hanalyzes.exists_handler_iff, hanalyzes.map_handler_commands, hbases,
    Taken.mem_claimAll_map_iff _ (fun _ => rfl) honly, hname.lowered_eq,
    contains_reservedHandlers_eq_false_iff hname]

end Generator

-- ====================================================== an operation called `app`

namespace AppOperation

/-- A document whose one operation is called like the command line it is attached below. -/
def document : Value :=
  .map
    [(.text "paths", .map [(.text "/users", TwinTags.item "app" "Users")]),
     (.text "components", .map [(.text "schemas", .map [])])]

/-- The operations of the document. -/
def operations : List Operation := [TwinTags.operation "/users" "app" "Users"]

/-- The analysis of the document. -/
def analysis : Analysis := TwinTags.generator.analysisOf operations

/-- The document has this analysis. -/
theorem analyzes : TwinTags.generator.Analyzes document analysis := by
  refine Generator.analyzes_analysisOf (by decide) ?_ (by decide) (by decide)
  rw [Api.outcome_operations_eq_ok_iff]
  refine ⟨[("/users", TwinTags.item "app" "Users")], operations, rfl, ?_, by decide⟩
  exact congrArg Noted.outcome
    (TwinTags.readOperations_items [("/users", "app", "Users")] (by decide))

end AppOperation

/-- The handler of an operation `app` has the name of the command line that handlers are attached
to. -/
theorem Generator.appOperation_handler_bound :
    (TwinTags.generator.analyze AppOperation.document).outcome = .ok (some AppOperation.analysis)
      ∧ "app" ∈ (CommandBlocks.ofTree Tables.standard AppOperation.analysis.tree).boundNames
      ∧ ∃ handler ∈ (CommandBlocks.ofTree Tables.standard AppOperation.analysis.tree).handlers,
          handler.function = "app" := by
  have h := outcome_analyze_eq_ok_some_iff.mpr AppOperation.analyzes
  have hbound : "app" ∈ (CommandBlocks.ofTree Tables.standard
    AppOperation.analysis.tree).boundNames := List.mem_cons_self
  -- there is one command, that of the operation
  have hchoices : (AppOperation.analysis.commands.map fun c =>
      Tables.standard.methodBase c.operation.id c.operation.path) = ["app"] := by
    have hops : AppOperation.analysis.commands.map (·.operation) = AppOperation.operations :=
      List.perm_singleton.mp AppOperation.analyzes.map_operation_commands_perm
    have hbases := congrArg (List.map fun op : Operation =>
      Tables.standard.methodBase op.id op.path) hops
    rw [List.map_map] at hbases
    exact hbases.trans (by decide)
  refine ⟨h, hbound, (handler_bound_iff h "app" hbound).mpr ⟨by decide, ?_⟩⟩
  rw [show TwinTags.generator.tables = Tables.standard from rfl, hchoices]
  decide

end ApiCommands
