/-
What an analysis is, and what its names are.

An analysis is made in steps: the operations are read and named, the commands
are named, and the tree is arranged, unless a tag has no place.
`Generator.Analyzes` lists what these steps agree on, and
`outcome_analyze_eq_ok_some_iff` says that the generator gives exactly such
analyses. So a statement about what comes of a document has two halves: the
equivalence, used once, and facts about lists of operations, commands and nodes
that say nothing of notes and errors.

The names of methods and handlers are each claimed in one run over the whole
document, which tells them apart whatever their tags. Names of commands are
told apart by tag only (`Analyzes.pairwise_commands`).
-/
import ApiCommands.Artifact.Generation
import ApiCommands.Naming.Tables.Standard
import ApiCommands.Proofs.Naming.CommandName
import ApiCommands.Proofs.Naming.Identifier
import ApiCommands.Proofs.Spec.Collection
import ApiCommands.Proofs.Tree.CommandTree

namespace ApiCommands

/-- Operations that have commands have been asked for the rules that name them. -/
theorem Namer.exists_notes_eq_ok {n : Namer} {ops : List Operation} {reserved : List String}
    {commands : List Command} (h : n.commands ops reserved = .ok commands) :
    ∃ notes, n.notes ops = .ok notes := by
  obtain ⟨named, hnamed, -, -⟩ := n.commands_eq_ok h
  obtain ⟨namedOf, -, hgroups⟩ := n.namedGroups_eq_ok hnamed
  have hrule : ∀ op ∈ (tagGroups ops).flatMap (·.2),
      ∃ found?, n.ruleName? (collectionPaths ops) op = .ok found? := by
    intro op hop
    obtain ⟨group, hgroup, hop⟩ := List.mem_flatMap.mp hop
    obtain ⟨bases, _, hbases, -⟩ := n.namedGroup_eq_ok (hgroups group hgroup)
    obtain ⟨base, hbase⟩ := Except.exists_mapM_eq_ok_iff.mp ⟨bases, hbases⟩ op hop
    obtain ⟨found?, hfound, -⟩ := Except.bind_eq_ok_iff.mp hbase
    exact ⟨found?, hfound⟩
  refine Except.exists_bind_eq_ok (Except.exists_mapM_eq_ok_iff.mpr fun op hop => ?_)
    fun _ => ⟨_, rfl⟩
  exact Except.exists_bind_eq_ok (hrule op hop) fun _ => ⟨_, rfl⟩

namespace Generator

/-- What the steps of an analysis agree on. -/
structure Analyzes (g : Generator) (document : Value) (a : Analysis) : Prop where
  ready : document.isReady = true
  operations :
    ((Api.ofDocument document).operations g.tables reservedMethods).outcome = .ok a.operations
  commands : g.commands a.operations = .ok a.commands
  mapped : ∀ c ∈ a.commands, g.tables.domainOf c.tag ≠ .unmapped
  tree : ∃ bs, CommandTree.branches g.tables a.commands = .ok bs
    ∧ a.tree = CommandTree.arrange g.tables bs

variable {g : Generator} {document : Value} {a : Analysis}

/-- The analysis of a ready document is exactly what the steps agree on. -/
theorem outcome_analyze_eq_ok_some_iff :
    (g.analyze document).outcome = .ok (some a) ↔ g.Analyzes document a := by
  unfold analyze
  by_cases hready : document.isReady = true
  · rw [if_pos hready, Noted.outcome_map_eq_ok_iff]
    unfold analyzeReady
    simp only [Noted.outcome_bind_eq_ok_iff, Noted.outcome_pure, Noted.outcome_noteAll,
      Noted.outcome_note, Noted.outcome_ofFault, Except.mapError_eq_ok_iff,
      CommandTree.outcome_ofCommands_eq_ok_iff]
    constructor
    · rintro ⟨found, ⟨ops, hops, commands, hcommands, _, -, _, -, tree, ⟨hmapped, htree⟩, _, -,
        hfound⟩, hsome⟩
      obtain rfl := Option.some.inj hsome
      obtain rfl := Except.ok.inj hfound
      exact ⟨hready, hops, hcommands, hmapped, htree⟩
    · intro h
      obtain ⟨notes, hnotes⟩ := Namer.exists_notes_eq_ok h.commands
      exact ⟨a, ⟨a.operations, h.operations, a.commands, h.commands, notes, hnotes, (), trivial,
        a.tree, ⟨h.mapped, h.tree⟩, (), trivial, rfl⟩, rfl⟩
  · rw [if_neg hready]
    constructor
    · intro h
      obtain ⟨_, -, hnone⟩ := Noted.outcome_bind_eq_ok_iff.mp h
      cases hnone
    · intro h
      exact absurd h.ready hready

/-- The commands of an analysis have its operations, up to the order. -/
theorem Analyzes.map_operation_commands_perm (h : g.Analyzes document a) :
    (a.commands.map (·.operation)).Perm a.operations :=
  g.namer.map_operation_commands_perm h.commands

/-- Commands of one tag have different names. -/
theorem Analyzes.pairwise_commands (h : g.Analyzes document a) :
    a.commands.Pairwise fun c d => c.tag = d.tag → c.name ≠ d.name :=
  g.namer.pairwise_commands h.commands

/-- The analysis with these operations, if they have commands and these a tree. -/
def analysisOf (g : Generator) (ops : List Operation) : Analysis :=
  let commands := (g.commands ops).toOption.getD []
  ⟨ops, commands, CommandTree.arrange g.tables
    ((CommandTree.branches g.tables commands).toOption.getD [])⟩

/-- A ready document whose operations are mapped has this analysis, if no fragment is empty. -/
theorem analyzes_analysisOf {ops : List Operation} (hready : document.isReady = true)
    (hops : ((Api.ofDocument document).operations g.tables reservedMethods).outcome = .ok ops)
    (hfragments : "" ∉ g.tables.wordFragments)
    (hmapped : ∀ op ∈ ops, g.tables.domainOf op.tag ≠ .unmapped) :
    g.Analyzes document (g.analysisOf ops) := by
  obtain ⟨commands, hcommands⟩ : ∃ commands, g.commands ops = .ok commands :=
    Namer.exists_commands_eq_ok hfragments ops _
  obtain ⟨bs, hbs⟩ := (CommandTree.exists_branches_iff g.tables commands).mpr
    fun c _ => CommandTree.placeEnds g.tables hfragments c.tag
  have heq : g.analysisOf ops = ⟨ops, commands, CommandTree.arrange g.tables bs⟩ := by
    unfold analysisOf
    simp only [hcommands, Except.toOption, Option.getD_some, hbs]
  rw [heq]
  refine ⟨hready, hops, hcommands, fun c hc => hmapped c.operation ?_, bs, hbs, rfl⟩
  have hperm := g.namer.map_operation_commands_perm hcommands
  exact hperm.mem_iff.mp (List.mem_map.mpr ⟨c, hc, rfl⟩)

end Generator

-- ====================================================== two tags, one word

namespace TwinTags

/-- An operation that says no more than its id and its tag. -/
def node (id tag : String) : Value :=
  .map [(.text "operationId", .text id), (.text "tags", .list [.text tag])]

/-- The path item with such an operation under `get`. -/
def item (id tag : String) : Value := .map [(.text "get", node id tag)]

/-- A document with two operations whose paths and tags differ in case only. -/
def document : Value :=
  .map
    [(.text "paths", .map
      [(.text "/Users", item "getUsers" "Users"), (.text "/USERS", item "getAllUsers" "USERS")]),
     (.text "components", .map [(.text "schemas", .map [])])]

/-- The generator for it. -/
def generator : Generator := ⟨Tables.standard, "ApiClient", ModelNames.standardAttributes⟩

/-- The operation that is read from a node. -/
def operation (path id tag : String) : Operation :=
  { tag := tag, method := .get, path := path, id := id, methodName := id }

/-- The operations of the document. -/
def operations : List Operation :=
  [operation "/Users" "getUsers" "Users", operation "/USERS" "getAllUsers" "USERS"]

/-- The analysis of the document. -/
def analysis : Analysis := generator.analysisOf operations

/-- A node is read as it stands, with the parameters its path asks for. -/
theorem pathOperations_item {a : Api} {t : Tables} {known : List String} {path id tag : String}
    {parameters : List Parameter} (hshadowed : t.isShadowed known path = false)
    (hid : Text.isBlank id.toList = false) (htag : Text.isBlank tag.toList = false)
    (hpath : Parameter.complete path [] = parameters) :
    a.pathOperations t known path (item id tag)
      = pure [{ operation path id tag with parameters := parameters }] := by
  have hmethod : Method.ofName? (Text.lowered "get") = some .get := by decide
  have hfilled : (node id tag).filledText? "operationId" = some id := by
    show (some id).filter (fun s => !Text.isBlank s.toList) = some id
    simp [Option.filter, hid]
  have htagOf : t.tagOf (node id tag) = tag := by
    have hitems : (node id tag).itemsAt "tags" = [.text tag] := rfl
    unfold Tables.tagOf
    rw [hitems]
    simp [List.findSome?, htag]
  unfold item
  rw [Api.pathOperations_of_single hshadowed hmethod hfilled rfl rfl rfl, htagOf, hpath]
  rfl

/-- Nodes under several paths, which ask for no parameters, are read one after the other. -/
theorem readOperations_items {a : Api} {t : Tables} {known : List String}
    (rows : List (String × String × String))
    (h : ∀ row ∈ rows, t.isShadowed known row.1 = false
      ∧ Text.isBlank row.2.1.toList = false ∧ Text.isBlank row.2.2.toList = false
      ∧ Parameter.complete row.1 [] = []) :
    a.readOperations t known (rows.map fun (path, id, tag) => (path, item id tag))
      = pure (rows.map fun (path, id, tag) => operation path id tag) := by
  induction rows with
  | nil => rfl
  | cons row rest ih =>
      obtain ⟨path, id, tag⟩ := row
      obtain ⟨hshadowed, hid, htag, hpath⟩ := h _ List.mem_cons_self
      have hrest := ih fun row hrow => h row (List.mem_cons_of_mem _ hrow)
      rw [List.map_cons, Api.readOperations, pathOperations_item hshadowed hid htag hpath, hrest]
      rfl

/-- The document has these operations. -/
theorem outcome_operations :
    ((Api.ofDocument document).operations Tables.standard reservedMethods).outcome
      = .ok operations := by
  rw [Api.outcome_operations_eq_ok_iff]
  refine ⟨[("/Users", item "getUsers" "Users"), ("/USERS", item "getAllUsers" "USERS")],
    operations, rfl, ?_, by decide⟩
  exact congrArg Noted.outcome (readOperations_items
    [("/Users", "getUsers", "Users"), ("/USERS", "getAllUsers", "USERS")] (by decide))

/-- So it has this analysis. -/
theorem analyzes : generator.Analyzes document analysis :=
  Generator.analyzes_analysisOf (by decide) outcome_operations (by decide)
    (by decide)

/-- The rules call it a listing to read a path of one plural word that is its tag. -/
theorem nameOf?_eq_list {shape : PathShape} (hmethod : shape.method = .get)
    (hcount : shape.segmentCount = 1) (hcaller : shape.isCurrentEntity = false)
    (hparam : shape.lastIsParam = false) (hname : shape.isNameParam = false)
    (hplural : shape.resourceIsPlural = true) (htag : shape.tagMatches = true) :
    Rule.nameOf? Rule.standard shape = some ("list", "list") := by
  have hfirst : Rule.first? Rule.standard shape = some Rule.forGet[4] := by
    simp [Rule.first?, Rule.standard, Rule.forAny, Rule.forGet, Rule.applies, Rule.itemUntagged,
      Rule.nestedItem, Rule.topCollection, PathShape.isSingleSegment, hmethod, hcount, hcaller,
      hparam, hname, hplural, htag]
  unfold Rule.nameOf?
  rw [hfirst]
  have hslug : slug (Rule.forGet[4].render shape) = "list" := by
    show slug "list" = "list"
    decide
  simp [hslug]
  rfl

/-- So each operation gets the name of a listing. -/
theorem baseName_eq_list :
    ∀ op ∈ operations, generator.namer.baseName (collectionPaths operations) op = .ok "list" := by
  intro op hop
  obtain ⟨shape, hshape⟩ := Tables.exists_shape_eq_ok (t := Tables.standard) (by decide)
    (collectionPaths operations) op
  have hspec := Tables.shape_spec hshape
  have hread : ∀ op ∈ operations, op.method = .get ∧ op.segments.length = 1
      ∧ PathTemplate.isParam (op.segments.getLast?.getD "") = false
      ∧ Tables.standard.isCurrentEntity (op.segments.getLast?.getD "") = false
      ∧ Tables.standard.resourceName (op.literals.getLast?.getD "") = .ok "users"
      ∧ Tables.standard.kebab (Tables.standard.expandSegment op.tag) = .ok "users"
      ∧ Tables.standard.isPlural "users" = true := by
    decide +kernel
  obtain ⟨hget, hone, hliteral, hentity, hresource, htag, hs⟩ := hread op hop
  obtain ⟨tagName, htagName, hmatches⟩ := hspec.tagMatches
  have hresource' : shape.resource = "users" :=
    Except.ok.inj (hspec.resource.symm.trans hresource)
  have htagName' : tagName = "users" := Except.ok.inj (htagName.symm.trans htag)
  have hparam : shape.lastIsParam = false := hspec.lastIsParam.trans hliteral
  have hname : Rule.nameOf? Rule.standard shape = some ("list", "list") := by
    refine nameOf?_eq_list (hspec.method.trans hget) (hspec.segmentCount.trans hone) ?_ hparam
      (hspec.isNameParam hparam) ?_ ?_
    · rw [hspec.isCurrentEntity, hentity, Bool.and_false]
    · rw [hspec.resourceIsPlural, hresource', hs]
    · rw [hmatches, hresource', htagName', beq_self_eq_true]
  have hrule : generator.namer.ruleName? (collectionPaths operations) op
      = .ok (some ("list", "list")) := Except.map_eq_ok_iff.mpr ⟨shape, hshape, hname⟩
  exact Except.bind_eq_ok_iff.mpr ⟨_, hrule, rfl⟩

/-- Both operations stand alone with their tag, so each gets the name of a listing. -/
theorem exists_command_list :
    ∀ op ∈ operations, ∃ c ∈ analysis.commands, c.operation = op ∧ c.name = "list" := by
  intro op hop
  have hcommands : generator.namer.commands operations (reservedHandlers generator.clientClass)
      = .ok analysis.commands := analyzes.commands
  obtain ⟨named, hnamed, hpairs, -⟩ := generator.namer.commands_eq_ok hcommands
  obtain ⟨namedOf, rfl, hgroups⟩ := generator.namer.namedGroups_eq_ok hnamed
  have hgrouped : ∀ op ∈ operations,
      (op.tag, [op]) ∈ grouped (fun op : Operation => op.tag) operations := by
    decide
  have hresolve : ∀ op ∈ operations,
      generator.namer.resolveGroup [op] ["list"] = .ok ["list"] := by
    decide
  have hgroup := (Namer.tagGroups_perm operations).mem_iff.mpr (hgrouped op hop)
  obtain ⟨bases, names, hbases, hnames, -, heq⟩ :=
    generator.namer.namedGroup_eq_ok (hgroups _ hgroup)
  have hlist : [op].mapM (generator.namer.baseName (collectionPaths operations)) = .ok ["list"] :=
    Except.mapM_eq_ok_iff.mpr (.cons (baseName_eq_list op hop) .nil)
  obtain rfl := Except.ok.inj (hlist.symm.trans hbases)
  obtain rfl := Except.ok.inj ((hresolve op hop).symm.trans hnames)
  have hmem : (op, "list") ∈ (Namer.tagGroups operations).flatMap namedOf := by
    refine List.mem_flatMap.mpr ⟨_, hgroup, ?_⟩
    rw [heq]
    exact List.mem_singleton_self _
  rw [← hpairs] at hmem
  obtain ⟨c, hc, heq⟩ := List.mem_map.mp hmem
  exact ⟨c, hc, (Prod.mk.inj heq).1, (Prod.mk.inj heq).2⟩

end TwinTags

-- ====================================================== names

namespace Generator

variable {g : Generator} {document : Value} {a : Analysis}

/-- Whatever the document, the vocabulary and the client class: the methods of the operations are
all different, the handlers of the commands are all different, neither takes a name that is
reserved for the module it stands in, and all of them can be used in the emitted source. Names
that differ in case only count as the same. -/
theorem analysis_names_distinct (h : (g.analyze document).outcome = .ok (some a)) :
    ((a.operations.map fun op => Text.lowered op.methodName).Nodup
        ∧ ∀ op ∈ a.operations, ∀ name ∈ reservedMethods,
            Text.lowered op.methodName ≠ Text.lowered name)
      ∧ ((a.commands.map fun c => Text.lowered c.handler).Nodup
        ∧ ∀ c ∈ a.commands, ∀ name ∈ commandModuleNames ++ [g.clientClass],
            Text.lowered c.handler ≠ Text.lowered name)
      ∧ (∀ op ∈ a.operations, Identifier.IsName op.methodName)
      ∧ ∀ c ∈ a.commands, Identifier.IsName c.handler := by
  have hanalyzes := outcome_analyze_eq_ok_some_iff.mp h
  have hops := hanalyzes.operations
  have hcommands : g.namer.commands a.operations (reservedHandlers g.clientClass)
      = .ok a.commands := hanalyzes.commands
  refine ⟨⟨Api.nodup_methodName hops, ?_⟩, ⟨g.namer.nodup_handler hcommands, ?_⟩, ?_, ?_⟩
  · intro op hop
    exact Api.methodName_free hops hop
  · intro c hc
    exact g.namer.handler_free hcommands hc
  · intro op hop
    exact Api.isName_methodName hops hop
  · intro c hc
    exact g.namer.isName_handler hcommands hc

/-- So it is with two tags that are one word. -/
theorem twinTags_names_distinct :
    (TwinTags.generator.analyze TwinTags.document).outcome = .ok (some TwinTags.analysis)
      ∧ (TwinTags.analysis.operations.map fun op => Text.lowered op.methodName).Nodup
      ∧ (TwinTags.analysis.commands.map fun c => Text.lowered c.handler).Nodup := by
  have h := outcome_analyze_eq_ok_some_iff.mpr TwinTags.analyzes
  have hnames := analysis_names_distinct h
  exact ⟨h, hnames.1.1, hnames.2.1.1⟩

end Generator

end ApiCommands
