/-
Tags without a place: the analysis refuses them, and the placements show them.

There are two ways to learn that a description has tags the tables do not know.
The analysis collects the operations with method names of their own, groups them
by tag, names and sorts them, and only then looks for tags without a domain. The
placements are those of the tags as collected, with no method name reserved.

Neither has to come to an answer. A placement is told by the name of a branch, and
the analysis names all operations before it looks at the tags; both split words
into fragments, of different texts (`exists_tagPlacements_iff`,
`outcome_analyze_of_commands_eq_error`).

Both see the same operations but for their method names, since what is reserved
has a part in nothing else (`Api.exists_operations_of_reserved`). What the
analysis lists is told by its commands, tag by tag
(`CommandTree.snd_eq_of_mem_unmapped`), and inside a tag the commands have kept
the order of the operations (`Namer.map_operation_filter_commands`).
-/
import ApiCommands.Proofs.Artifact.Generation

namespace ApiCommands

namespace Generator

variable {g : Generator} {document : Value} {reserved : List String} {ops : List Operation}

-- ====================================================== the two answers

/-- Once the operations are collected, the analysis fails exactly for the tags that are left
over, if there are any and if the operations have commands. -/
theorem outcome_analyze_eq_unmapped_iff (hready : document.isReady = true)
    (hops : ((Api.ofDocument document).operations g.tables reservedMethods).outcome = .ok ops)
    {lost : List (String × List String)} :
    (g.analyze document).outcome = .error (.unmappedTags lost)
      ↔ lost ≠ [] ∧ ∃ commands, g.commands ops = .ok commands
        ∧ CommandTree.unmapped g.tables commands = lost := by
  have hfaults : ∀ {α : Type} {x : Except Fault α},
      (Noted.ofFault x).outcome ≠ .error (.unmappedTags lost) := by
    intro α x h
    rw [Noted.outcome_ofFault] at h
    cases x <;> cases h
  unfold analyze analyzeReady
  rw [if_pos hready, Noted.outcome_map_eq_error_iff]
  simp only [Noted.outcome_bind_eq_error_iff, Noted.outcome_noteAll, Noted.outcome_note,
    Noted.outcome_pure, hops, hfaults, CommandTree.outcome_ofCommands_eq_unmapped_iff,
    reduceCtorEq, Except.ok.injEq, false_or, exists_eq_left', exists_const, exists_false, true_and,
    and_false, or_false]
  constructor
  · rintro ⟨commands, hcommands, _, -, hne, hlost⟩
    rw [Noted.outcome_ofFault, Except.mapError_eq_ok_iff] at hcommands
    exact ⟨hne, commands, hcommands, hlost⟩
  · rintro ⟨hne, commands, hcommands, hlost⟩
    obtain ⟨notes, hnotes⟩ := Namer.exists_notes_eq_ok hcommands
    refine ⟨commands, ?_, notes, ?_, hne, hlost⟩
    · rwa [Noted.outcome_ofFault, Except.mapError_eq_ok_iff]
    · rwa [Noted.outcome_ofFault, Except.mapError_eq_ok_iff]

/-- Where naming the operations goes on for ever, so does the analysis. -/
theorem outcome_analyze_of_commands_eq_error (hready : document.isReady = true)
    (hops : ((Api.ofDocument document).operations g.tables reservedMethods).outcome = .ok ops)
    {e : Fault} (h : g.commands ops = .error e) :
    (g.analyze document).outcome = .error (.fault e) := by
  unfold analyze analyzeReady
  rw [if_pos hready, Noted.outcome_map_eq_error_iff, Noted.outcome_bind_eq_error_iff, hops]
  refine Or.inr ⟨ops, rfl, ?_⟩
  rw [Noted.outcome_bind_eq_error_iff, Noted.outcome_ofFault, h]
  exact Or.inl rfl

/-- The placements are those of the tags that the collected operations have. -/
theorem outcome_tagPlacements
    (hops : ((Api.ofDocument document).operations g.tables reserved).outcome = .ok ops) :
    (g.tagPlacements document).outcome
      = ((keysOf (·.tag) ops).mapM g.tables.place).mapError .fault := by
  obtain ⟨ops', hops', hsame⟩ := Api.exists_operations_of_reserved hops []
  have htags : keysOf (·.tag) ops' = keysOf (·.tag) ops :=
    congrArg List.eraseDups (hsame fun _ _ => rfl)
  unfold tagPlacements
  rw [Noted.outcome_bind, hops', ← htags]
  rfl

/-- There are placements exactly if the place of every tag can be told. -/
theorem exists_tagPlacements_iff
    (hops : ((Api.ofDocument document).operations g.tables reserved).outcome = .ok ops) :
    (∃ placements, (g.tagPlacements document).outcome = .ok placements)
      ↔ ∀ op ∈ ops, g.tables.PlaceEnds op.tag := by
  rw [outcome_tagPlacements hops]
  simp only [Except.mapError_eq_ok_iff, Except.exists_mapM_eq_ok_iff,
    CommandTree.exists_place_eq_ok_iff]
  constructor
  · exact fun h op hop => h op.tag (mem_keysOf.mpr ⟨op, hop, rfl⟩)
  · intro h tag htag
    obtain ⟨op, hop, rfl⟩ := mem_keysOf.mp htag
    exact h op hop

/-- A tag has a placement without a domain exactly if an operation has it and no table places
it. -/
theorem exists_placement_iff
    (hops : ((Api.ofDocument document).operations g.tables reserved).outcome = .ok ops)
    {placements : List Placement}
    (hplacements : (g.tagPlacements document).outcome = .ok placements) {tag : String} :
    (∃ p ∈ placements, p.tag = tag ∧ p.domain = .unmapped)
      ↔ g.tables.domainOf tag = .unmapped ∧ ∃ op ∈ ops, op.tag = tag := by
  rw [outcome_tagPlacements hops, Except.mapError_eq_ok_iff] at hplacements
  constructor
  · rintro ⟨p, hp, rfl, hlost⟩
    obtain ⟨tag, hkey, hplace⟩ := Except.exists_of_mem_mapM hplacements hp
    obtain ⟨rfl, hdomain⟩ := CommandTree.place_spec _ hplace
    exact ⟨hdomain.symm.trans hlost, mem_keysOf.mp hkey⟩
  · rintro ⟨hlost, hop⟩
    obtain ⟨k, hk, hkey⟩ := List.getElem_of_mem (mem_keysOf.mpr hop)
    obtain ⟨p, hplace, hp⟩ := Except.mapM_getElem? hplacements
      (List.getElem?_eq_some_iff.mpr ⟨hk, hkey⟩)
    obtain ⟨htag, hdomain⟩ := CommandTree.place_spec _ hplace
    exact ⟨p, List.mem_of_getElem? hp, htag, hdomain.trans hlost⟩

-- ====================================================== what is listed

variable {commands : List Command}

/-- The tags that are left over are those of the operations that no table places. -/
theorem mem_map_fst_unmapped_commands (hcommands : g.commands ops = .ok commands) {tag : String} :
    tag ∈ (CommandTree.unmapped g.tables commands).map Prod.fst
      ↔ g.tables.domainOf tag = .unmapped ∧ ∃ op ∈ ops, op.tag = tag := by
  have hops : (commands.map (·.operation)).Perm ops :=
    g.namer.map_operation_commands_perm hcommands
  rw [CommandTree.mem_map_fst_unmapped]
  refine and_congr_right fun _ => ?_
  constructor
  · rintro ⟨c, hc, rfl⟩
    exact ⟨c.operation, hops.mem_iff.mp (List.mem_map.mpr ⟨c, hc, rfl⟩), rfl⟩
  · rintro ⟨op, hop, rfl⟩
    obtain ⟨c, hc, rfl⟩ := List.mem_map.mp (hops.mem_iff.mpr hop)
    exact ⟨c, hc, rfl⟩

/-- A tag that is left over comes with the ids of its operations, in their order. -/
theorem snd_eq_of_mem_unmapped_commands (hcommands : g.commands ops = .ok commands)
    {entry : String × List String} (h : entry ∈ CommandTree.unmapped g.tables commands) :
    entry.2 = (ops.filter fun op => op.tag == entry.1).map (·.id) := by
  have hoperations : (commands.filter fun c => c.tag == entry.1).map (·.operation)
      = ops.filter fun op => op.tag == entry.1 :=
    g.namer.map_operation_filter_commands hcommands entry.1
  rw [CommandTree.snd_eq_of_mem_unmapped g.tables _ h, ← hoperations, List.map_map]
  rfl

-- ====================================================== they agree

/-- A ready description whose operations are collected has placements exactly if the place of every
tag can be told, and its analysis comes to look for tags without a domain exactly if the operations
have commands; otherwise a search for fragments goes on for ever, which it does not if no fragment
is empty. Where both come to an answer they agree: the analysis refuses the tags exactly if one of
the placements has no domain. The tags it names are those of these placements, in order, each with
the ids of the collected operations that have it, as they were collected. The operations may have
been collected with any method names reserved. -/
theorem unmapped_tags_detected_alike (hready : document.isReady = true)
    (hops : ((Api.ofDocument document).operations g.tables reserved).outcome = .ok ops) :
    ∃ named, ((Api.ofDocument document).operations g.tables reservedMethods).outcome = .ok named
      ∧ ((∃ placements, (g.tagPlacements document).outcome = .ok placements)
          ↔ ∀ op ∈ ops, g.tables.PlaceEnds op.tag)
      ∧ (∀ e, g.commands named = .error e → (g.analyze document).outcome = .error (.fault e))
      ∧ ("" ∉ g.tables.wordFragments →
          (∀ op ∈ ops, g.tables.PlaceEnds op.tag) ∧ ∃ commands, g.commands named = .ok commands)
      ∧ (∀ placements, (g.tagPlacements document).outcome = .ok placements →
          ((∃ lost, (g.analyze document).outcome = .error (.unmappedTags lost))
            ↔ (∃ p ∈ placements, p.domain = .unmapped)
              ∧ ∃ commands, g.commands named = .ok commands)
          ∧ ∀ lost, (g.analyze document).outcome = .error (.unmappedTags lost) →
              ∀ tag, tag ∈ lost.map Prod.fst ↔ ∃ p ∈ placements, p.tag = tag ∧ p.domain = .unmapped)
      ∧ ∀ lost, (g.analyze document).outcome = .error (.unmappedTags lost) →
          (lost.map Prod.fst).Pairwise (· < ·)
          ∧ ∀ entry ∈ lost, entry.2 = (ops.filter fun op => op.tag == entry.1).map (·.id) := by
  -- the analysis has the same operations with other method names
  obtain ⟨named, hnamed, hsame⟩ := Api.exists_operations_of_reserved hops reservedMethods
  have hids : ∀ tag, (named.filter fun op => op.tag == tag).map (·.id)
      = (ops.filter fun op => op.tag == tag).map (·.id) := by
    intro tag
    have hpairs : named.map (fun op => (op.tag, op.id)) = ops.map fun op => (op.tag, op.id) :=
      hsame fun _ _ => rfl
    have hfilter := congrArg (fun pairs => (pairs.filter fun p => p.1 == tag).map Prod.snd) hpairs
    rw [List.filter_map, List.filter_map, List.map_map, List.map_map] at hfilter
    exact hfilter
  have hrefused : ∀ lost, (g.analyze document).outcome = .error (.unmappedTags lost)
      ↔ lost ≠ [] ∧ ∃ commands, g.commands named = .ok commands
        ∧ CommandTree.unmapped g.tables commands = lost :=
    fun _ => outcome_analyze_eq_unmapped_iff hready hnamed
  refine ⟨named, hnamed, exists_tagPlacements_iff hops,
    fun e he => outcome_analyze_of_commands_eq_error hready hnamed he,
    fun hfragments => ⟨fun op _ => CommandTree.placeEnds _ hfragments op.tag,
      Namer.exists_commands_eq_ok hfragments named _⟩,
    fun placements hplacements => ⟨?_, fun lost hlost tag => ?_⟩, fun lost hlost => ?_⟩
  · constructor
    · rintro ⟨lost, hlost⟩
      obtain ⟨hne, commands, hcommands, rfl⟩ := (hrefused lost).mp hlost
      obtain ⟨entry, hentry⟩ := List.exists_mem_of_ne_nil _ hne
      have hmem := (mem_map_fst_unmapped_commands hcommands).mp
        (List.mem_map.mpr ⟨entry, hentry, rfl⟩)
      obtain ⟨p, hp, -, hdomain⟩ := (exists_placement_iff hnamed hplacements).mpr hmem
      exact ⟨⟨p, hp, hdomain⟩, commands, hcommands⟩
    · rintro ⟨⟨p, hp, hdomain⟩, commands, hcommands⟩
      have hmem := (exists_placement_iff hnamed hplacements).mp ⟨p, hp, rfl, hdomain⟩
      obtain ⟨entry, hentry, -⟩ :=
        List.mem_map.mp ((mem_map_fst_unmapped_commands hcommands).mpr hmem)
      exact ⟨_, (hrefused _).mpr ⟨List.ne_nil_of_mem hentry, commands, hcommands, rfl⟩⟩
  · obtain ⟨-, commands, hcommands, rfl⟩ := (hrefused lost).mp hlost
    rw [mem_map_fst_unmapped_commands hcommands, exists_placement_iff hnamed hplacements]
  · obtain ⟨-, commands, hcommands, rfl⟩ := (hrefused lost).mp hlost
    refine ⟨CommandTree.pairwise_unmapped g.tables _, fun entry hentry => ?_⟩
    rw [snd_eq_of_mem_unmapped_commands hcommands hentry, hids]

end Generator

-- ====================================================== a description with unknown tags

namespace UnknownTags

/-- Paths with the id and the tag of the one operation they have. Two of the three tags are not
in the standard tables, and of these the later one by its spelling comes first. -/
def rows : List (String × String × String) :=
  [("/reports", "getReports", "Reports"), ("/users", "getUsers", "Users"),
    ("/audit", "getAudit", "Audit"), ("/reports/new", "getNewReport", "Reports")]

/-- The description with these operations. -/
def document : Value :=
  .object
    [("paths", .object (rows.map fun (path, id, tag) => (path, TwinTags.item id tag))),
     ("components", .object [("schemas", .map [])])]

/-- The operations. -/
def operations : List Operation := rows.map fun (path, id, tag) => TwinTags.operation path id tag

/-- They are collected. -/
theorem outcome_operations :
    ((Api.ofDocument document).operations Tables.standard reservedMethods).outcome
      = .ok operations := by
  rw [Api.outcome_operations_eq_ok_iff]
  refine ⟨rows.map fun (path, id, tag) => (path, TwinTags.item id tag), operations, rfl, ?_,
    by decide⟩
  exact congrArg Noted.outcome (TwinTags.readOperations_items rows (by decide))

/-- The first of them. -/
def report : Operation := TwinTags.operation "/reports" "getReports" "Reports"

/-- The description with it alone. -/
def reportDocument : Value :=
  .object
    [("paths", .object [("/reports", TwinTags.item "getReports" "Reports")]),
     ("components", .object [("schemas", .map [])])]

/-- A generator whose tables have the empty fragment. -/
def endlessGenerator : Generator :=
  ⟨Tables.emptyFragment, "ApiClient", ModelNames.standardAttributes⟩

/-- It is collected with these tables as well. -/
theorem outcome_report :
    ((Api.ofDocument reportDocument).operations Tables.emptyFragment reservedMethods).outcome
      = .ok [report] := by
  rw [Api.outcome_operations_eq_ok_iff]
  refine ⟨[("/reports", TwinTags.item "getReports" "Reports")], [report], rfl, ?_,
    by decide⟩
  exact congrArg Noted.outcome (TwinTags.readOperations_items
    [("/reports", "getReports", "Reports")] (by decide))

end UnknownTags

namespace Generator

/-- So it is with the unknown tags of this description. With the empty fragment the placement of its
first tag has no domain either, and the analysis never comes to say so. -/
theorem unknownTags_detected_alike :
    (UnknownTags.document.isReady = true
      ∧ ((Api.ofDocument UnknownTags.document).operations Tables.standard reservedMethods).outcome
        = .ok UnknownTags.operations
      ∧ ∃ lost, (TwinTags.generator.analyze UnknownTags.document).outcome
          = .error (.unmappedTags lost)
        ∧ (lost.map Prod.fst).Pairwise (· < ·)
        ∧ ("Audit", ["getAudit"]) ∈ lost
        ∧ ("Reports", ["getReports", "getNewReport"]) ∈ lost)
      ∧ UnknownTags.reportDocument.isReady = true
      ∧ (UnknownTags.endlessGenerator.tagPlacements UnknownTags.reportDocument).outcome
        = .ok [⟨"Reports", .unmapped, some "reports"⟩]
      ∧ (UnknownTags.endlessGenerator.analyze UnknownTags.reportDocument).outcome
        = .error (.fault .endlessSearch) := by
  constructor
  · have hready : UnknownTags.document.isReady = true := by decide
    have hops := UnknownTags.outcome_operations
    obtain ⟨named, hnamed, hplaces, -, hends, hagree, hlisted⟩ :=
      unmapped_tags_detected_alike (g := TwinTags.generator) hready hops
    obtain ⟨hplaceEnds, hcommands⟩ := hends (by decide)
    obtain ⟨placements, hplacements⟩ := hplaces.mpr hplaceEnds
    obtain ⟨hrefused, htags⟩ := hagree placements hplacements
    -- both tags are among the placements, and no table places them
    have hmem : ∀ tag ∈ ["Audit", "Reports"],
        ∃ p ∈ placements, p.tag = tag ∧ p.domain = .unmapped := by
      have hplaced : ∀ tag ∈ ["Audit", "Reports"], Tables.standard.domainOf tag = .unmapped
          ∧ ∃ op ∈ UnknownTags.operations, op.tag = tag := by
        decide
      exact fun tag htag => (exists_placement_iff hops hplacements).mpr (hplaced tag htag)
    obtain ⟨p, hp, -, hdomain⟩ := hmem "Audit" (by decide)
    obtain ⟨lost, hlost⟩ := hrefused.mpr ⟨⟨p, hp, hdomain⟩, hcommands⟩
    obtain ⟨hsorted, hids⟩ := hlisted lost hlost
    have hentry : ∀ tag ∈ ["Audit", "Reports"],
        (tag, (UnknownTags.operations.filter fun op => op.tag == tag).map (·.id)) ∈ lost := by
      intro tag htag
      obtain ⟨⟨_, ids⟩, hentry, rfl⟩ :=
        List.mem_map.mp ((htags lost hlost tag).mpr (hmem tag htag))
      have hids : ids = _ := hids _ hentry
      rw [← hids]
      exact hentry
    exact ⟨hready, hops, lost, hlost, hsorted, hentry "Audit" (by decide),
      hentry "Reports" (by decide)⟩
  · have hready : UnknownTags.reportDocument.isReady = true := by decide
    have hops := UnknownTags.outcome_report
    obtain ⟨named, hnamed, -, hfault, -⟩ :=
      unmapped_tags_detected_alike (g := UnknownTags.endlessGenerator) hready hops
    obtain rfl : [UnknownTags.report] = named := Except.ok.inj (hops.symm.trans hnamed)
    have hplacements : (keysOf (·.tag) [UnknownTags.report]).mapM Tables.emptyFragment.place
        = .ok [⟨"Reports", .unmapped, some "reports"⟩] := by
      decide +kernel
    have hcommands : UnknownTags.endlessGenerator.commands [UnknownTags.report]
        = .error .endlessSearch := by
      decide +kernel
    refine ⟨hready, ?_, hfault _ hcommands⟩
    rw [outcome_tagPlacements (g := UnknownTags.endlessGenerator) hops]
    exact congrArg (Except.mapError Error.fault) hplacements

end Generator

end ApiCommands
