/-
The operations of a document, their method names and where they come from.

# Names

Operations are read first and named afterwards, so an answer comes apart into
a reading and one run of claims (`Api.outcome_operations_eq_ok_iff`). What holds
of the names is what holds of every run: they differ in lower case
(`nodup_methodName`), stay away from the reserved ones (`methodName_free`), and
are names of the emitted source (`isName_methodName`), since each is a
candidate of its operation.

# Nodes

A reading is a run over the paths, and for each path that is not shadowed a run
over the entries of its item. What is read is what these entries give, no more
and no less (`outcome_readOperations_spec`), and naming changes nothing but the
names. So every operation has a node of the document from which it was read
(`exists_readFrom_of_mem`).
-/
import ApiCommands.Proofs.Naming.Identifier
import ApiCommands.Proofs.Outcome.Note
import ApiCommands.Proofs.Spec.Parameters
import ApiCommands.Spec.Collection

namespace ApiCommands

namespace Tables

variable (t : Tables) (reserved : List String) (ops : List Operation)

/-- The method names are those of one run of claims. -/
theorem map_methodName_claimMethodNames :
    (t.claimMethodNames reserved ops).map (·.methodName)
      = (Taken.ofList reserved).claimAll
          (ops.map fun op => t.methodCandidates op.id op.path op.method) := by
  unfold claimMethodNames
  rw [List.map_map]
  exact List.map_snd_zip (Nat.le_of_eq (by rw [Taken.length_claimAll, List.length_map]))

variable {t reserved ops}

/-- Naming leaves everything else of the operations as it is. -/
theorem map_claimMethodNames {β : Type _} {f : Operation → β}
    (h : ∀ op name, f { op with methodName := name } = f op) :
    (t.claimMethodNames reserved ops).map f = ops.map f := by
  have hops : (ops.zip ((Taken.ofList reserved).claimAll
      (ops.map fun op => t.methodCandidates op.id op.path op.method))).map Prod.fst = ops :=
    List.map_fst_zip (Nat.le_of_eq (by rw [Taken.length_claimAll, List.length_map]))
  unfold claimMethodNames
  rw [List.map_map]
  conv_rhs => rw [← hops, List.map_map]
  exact List.map_congr_left fun _ _ => h _ _

/-- What does not ask for the method name is found among the named operations exactly if it is found
among the operations. -/
theorem exists_mem_claimMethodNames_iff {Q : Operation → Prop}
    (h : ∀ op name, Q { op with methodName := name } ↔ Q op) :
    (∃ op ∈ t.claimMethodNames reserved ops, Q op) ↔ ∃ op ∈ ops, Q op := by
  have hmap : (t.claimMethodNames reserved ops).map Q = ops.map Q :=
    map_claimMethodNames fun op name => propext (h op name)
  have hholds : ∀ l : List Operation, (∃ op ∈ l, Q op) ↔ ∃ p ∈ l.map Q, p := by
    intro l
    constructor
    · rintro ⟨op, hop, hQ⟩
      exact ⟨Q op, List.mem_map.mpr ⟨op, hop, rfl⟩, hQ⟩
    · rintro ⟨_, hp, hQ⟩
      obtain ⟨op, hop, rfl⟩ := List.mem_map.mp hp
      exact ⟨op, hop, hQ⟩
  rw [hholds, hmap, ← hholds]

/-- The name of an operation is one of the names of the run. -/
private theorem methodName_mem_claimAll {op : Operation}
    (h : op ∈ t.claimMethodNames reserved ops) :
    op.methodName ∈ (Taken.ofList reserved).claimAll
      (ops.map fun op => t.methodCandidates op.id op.path op.method) := by
  rw [← t.map_methodName_claimMethodNames reserved ops]
  exact List.mem_map.mpr ⟨op, h, rfl⟩

/-- Naming an operation changes nothing else of it. -/
theorem exists_of_mem_claimMethodNames {op : Operation} (h : op ∈ t.claimMethodNames reserved ops) :
    ∃ op' ∈ ops, op.path = op'.path ∧ op.method = op'.method ∧ op.id = op'.id
      ∧ op.parameters = op'.parameters := by
  unfold claimMethodNames at h
  obtain ⟨⟨op', name⟩, hmem, rfl⟩ := List.mem_map.mp h
  exact ⟨op', (List.of_mem_zip hmem).1, rfl, rfl, rfl, rfl⟩

/-- Operations that are read later change nothing for the earlier ones. -/
theorem prefix_claimMethodNames_append (more : List Operation) :
    t.claimMethodNames reserved ops <+: t.claimMethodNames reserved (ops ++ more) := by
  unfold claimMethodNames
  rw [List.map_append]
  obtain ⟨others, hothers⟩ := (Taken.ofList reserved).prefix_claimAll_append
    (ops.map fun op => t.methodCandidates op.id op.path op.method)
    (more.map fun op => t.methodCandidates op.id op.path op.method)
  dsimp only
  rw [← hothers, List.zip_append (by rw [Taken.length_claimAll, List.length_map]),
    List.map_append]
  exact List.prefix_append _ _

end Tables

namespace Entries

variable {entries : Entries} {named : List (String × Value)}

/-- A mapping can be read by name exactly if its keys are texts, and then it has these names. -/
theorem named?_eq_some_iff :
    entries.named? = some named ↔ entries = named.map fun (name, v) => (.text name, v) := by
  induction entries generalizing named with
  | nil =>
      rw [named?, List.mapM_nil, eq_comm (a := []), List.map_eq_nil_iff]
      exact ⟨fun h => (Option.some.inj h).symm, fun h => congrArg some h.symm⟩
  | cons entry rest ih =>
      obtain ⟨key, v⟩ := entry
      unfold named? at ih ⊢
      rw [List.mapM_cons]
      simp only [Option.bind_eq_bind, Option.bind_eq_some_iff, Option.pure_def, Option.some.injEq,
        ih]
      constructor
      · rintro ⟨first, hfirst, others, rfl, rfl⟩
        cases key with
        | text name =>
            obtain rfl := Option.some.inj hfirst
            rfl
        | _ => cases hfirst
      · intro h
        obtain ⟨⟨name, v'⟩, others, rfl, hentry, hrest⟩ := List.map_eq_cons_iff.mp h.symm
        obtain ⟨rfl, rfl⟩ := Prod.mk.inj hentry
        exact ⟨_, rfl, others, hrest.symm, rfl⟩

/-- What a mapping has by name are its entries. -/
theorem mem_named?_iff (h : entries.named? = some named) {name : String} {v : Value} :
    (name, v) ∈ named ↔ (.text name, v) ∈ entries := by
  rw [named?_eq_some_iff.mp h, List.mem_map]
  constructor
  · intro hmem
    exact ⟨(name, v), hmem, rfl⟩
  · rintro ⟨⟨name', v'⟩, hmem, hentry⟩
    obtain ⟨hname, rfl⟩ := Prod.mk.inj hentry
    obtain rfl := Scalar.text.inj hname
    exact hmem

/-- Two mappings in a row can be read by name exactly if both can be. -/
theorem named?_append_eq_some_iff {more : Entries} :
    Entries.named? (entries ++ more) = some named
      ↔ ∃ first second, entries.named? = some first ∧ more.named? = some second
          ∧ named = first ++ second := by
  simp only [named?_eq_some_iff, List.append_eq_map_iff]
  constructor
  · rintro ⟨first, second, rfl, hfirst, hsecond⟩
    exact ⟨first, second, hfirst.symm, hsecond.symm, rfl⟩
  · rintro ⟨first, second, hfirst, hsecond, rfl⟩
    exact ⟨first, second, rfl, hfirst.symm, hsecond.symm⟩

end Entries

/-- Only a mapping has texts under keys. -/
theorem Value.isMap_of_filledText? {node : Value} {name s : String}
    (h : node.filledText? name = some s) : node.isMap = true := by
  cases node with
  | map entries => rfl
  | _ => cases h

namespace Api

variable {a : Api} {t : Tables} {reserved : List String} {ops : List Operation}

/-- Nothing has no properties. -/
theorem bodyFieldsWith_null (fresh : List String) : a.bodyFieldsWith fresh .null = pure [] := by
  rw [bodyFieldsWith]
  rfl

/-- Without a request body only the parameters of an operation have to be looked for. -/
theorem operation_of_no_body {path id : String} {item node : Value} {method : Method}
    (h : node.get? "requestBody" = none) :
    a.operation t path item method id node
      = (fun parameters =>
          { tag := t.tagOf node
            method := method
            path := path
            id := id
            methodName := id
            summary := node.text? "summary"
            parameters := parameters }) <$> a.parameters path item node := by
  unfold operation bodyDeclaration
  rw [h]
  dsimp only
  rw [pure_bind]
  simp only [BodyDeclaration.absent, bodyFields, bodyFieldsWith_null, pure_bind]
  rfl

/-- An entry under a method is the operation of its node, if the node has an id. -/
theorem operation?_of_filled {path key id : String} {item node : Value} {method : Method}
    (hmethod : Method.ofName? (Text.lowered key) = some method)
    (hid : node.filledText? "operationId" = some id) :
    a.operation? t path item (.text key, node)
      = some <$> a.operation t path item method id node := by
  have hmap : node.isMap = true := Value.isMap_of_filledText? hid
  unfold operation?
  dsimp only
  rw [hmethod]
  dsimp only
  rw [hmap, hid]
  rfl

/-- An entry under a method is read as it stands, if its node has an id and no request body. -/
theorem operation?_of_no_body {path key id : String} {item node : Value} {method : Method}
    {parameters : List Parameter} (hmethod : Method.ofName? (Text.lowered key) = some method)
    (hid : node.filledText? "operationId" = some id) (hbody : node.get? "requestBody" = none)
    (hparameters : a.parameters path item node = pure parameters) :
    a.operation? t path item (.text key, node)
      = pure (some
          { tag := t.tagOf node
            method := method
            path := path
            id := id
            methodName := id
            summary := node.text? "summary"
            parameters := parameters }) := by
  rw [operation?_of_filled hmethod hid, operation_of_no_body hbody, hparameters]
  rfl

/-- Collected operations are those that were read, with names claimed for them. -/
theorem outcome_collect_eq_ok_iff {paths : Entries} :
    (a.collect t reserved paths).outcome = .ok ops
      ↔ ∃ named read, paths.named? = some named
          ∧ (a.readOperations t (named.map fun (path, _) => Text.lowered path) named).outcome
              = .ok read
          ∧ ops = t.claimMethodNames reserved read := by
  unfold collect
  cases h : paths.named? with
  | none => simp
  | some named =>
      dsimp only
      rw [Noted.outcome_bind_eq_ok_iff]
      constructor
      · rintro ⟨read, hread, hops⟩
        refine ⟨named, read, rfl, hread, ?_⟩
        rw [Noted.outcome_pure] at hops
        exact (Except.ok.inj hops).symm
      · rintro ⟨_, read, hnamed, hread, rfl⟩
        obtain rfl := Option.some.inj hnamed
        exact ⟨read, hread, rfl⟩

/-- The operations of a document are those that were read, with names claimed for them. -/
theorem outcome_operations_eq_ok_iff :
    (a.operations t reserved).outcome = .ok ops
      ↔ ∃ named read, a.paths.named? = some named
          ∧ (a.readOperations t (named.map fun (path, _) => Text.lowered path) named).outcome
              = .ok read
          ∧ ops = t.claimMethodNames reserved read :=
  outcome_collect_eq_ok_iff

/-- What is reserved has a part in the method names only. -/
theorem exists_operations_of_reserved (h : (a.operations t reserved).outcome = .ok ops)
    (other : List String) :
    ∃ ops', (a.operations t other).outcome = .ok ops'
      ∧ ∀ {β : Type} {f : Operation → β}, (∀ op name, f { op with methodName := name } = f op) →
          ops'.map f = ops.map f := by
  obtain ⟨named, read, hnamed, hread, rfl⟩ := outcome_operations_eq_ok_iff.mp h
  refine ⟨t.claimMethodNames other read,
    outcome_operations_eq_ok_iff.mpr ⟨named, read, hnamed, hread, rfl⟩, fun hf => ?_⟩
  rw [Tables.map_claimMethodNames hf, Tables.map_claimMethodNames hf]

/-- No two operations have the same method name, whatever the case. -/
theorem nodup_methodName (h : (a.operations t reserved).outcome = .ok ops) :
    (ops.map fun op => Text.lowered op.methodName).Nodup := by
  obtain ⟨named, read, -, -, rfl⟩ := outcome_operations_eq_ok_iff.mp h
  have hnodup := (Taken.ofList reserved).nodup_claimAll
    (read.map fun op => t.methodCandidates op.id op.path op.method)
  rwa [← t.map_methodName_claimMethodNames reserved read, List.map_map] at hnodup

/-- No operation has a reserved method name, whatever the case. -/
theorem methodName_free (h : (a.operations t reserved).outcome = .ok ops) {op : Operation}
    (hop : op ∈ ops) : ∀ name ∈ reserved, Text.lowered op.methodName ≠ Text.lowered name := by
  obtain ⟨named, read, -, -, rfl⟩ := outcome_operations_eq_ok_iff.mp h
  have hfree := (Taken.ofList reserved).claimAll_free (Tables.methodName_mem_claimAll hop)
  exact Taken.contains_ofList_eq_false_iff.mp hfree

/-- Every method name can be used in the emitted source. -/
theorem isName_methodName (h : (a.operations t reserved).outcome = .ok ops) {op : Operation}
    (hop : op ∈ ops) : Identifier.IsName op.methodName := by
  obtain ⟨named, read, -, -, rfl⟩ := outcome_operations_eq_ok_iff.mp h
  exact t.isName_of_mem_claimAll (Tables.methodName_mem_claimAll hop)

-- ====================================================== where operations come from

/-- The operation is read from a node under a method of a path item. `shared` and `own` are the
parameters declared on the path item and on the node. -/
structure ReadFrom (a : Api) (paths : Entries) (shared own : List Parameter) (op : Operation)
    (entries : Entries) (node : Value) : Prop where
  path : (.text op.path, .map entries) ∈ paths
  method : ∃ key, (.text key, node) ∈ entries ∧ Method.ofName? (Text.lowered key) = some op.method
  id : node.filledText? "operationId" = some op.id
  sharedRead : (a.readParameters ((Value.map entries).itemsAt "parameters")).outcome = .ok shared
  ownRead : (a.readParameters (node.itemsAt "parameters")).outcome = .ok own
  parameters : op.parameters = Parameter.complete op.path (Parameter.overrideAll (shared ++ own))

/-- What an operation read from a node has of it. -/
theorem outcome_operation_eq_ok {path id : String} {item node : Value} {method : Method}
    {op : Operation} (h : (a.operation t path item method id node).outcome = .ok op) :
    op.path = path ∧ op.method = method ∧ op.id = id
      ∧ (a.parameters path item node).outcome = .ok op.parameters := by
  unfold operation at h
  simp only [Noted.outcome_bind_eq_ok_iff] at h
  obtain ⟨body, -, parameters, hparameters, fields, -, hop⟩ := h
  split at hop
  · rw [Noted.outcome_pure] at hop
    obtain rfl := Except.ok.inj hop
    exact ⟨rfl, rfl, rfl, hparameters⟩
  · cases hop

/-- An entry of a path item gives an operation under a method only, and if it has an id. -/
theorem exists_of_outcome_operation?_eq_some {path : String} {item : Value} {entry : Scalar × Value}
    {op : Operation} (h : (a.operation? t path item entry).outcome = .ok (some op)) :
    ∃ key method id, entry.1 = .text key ∧ Method.ofName? (Text.lowered key) = some method
      ∧ entry.2.filledText? "operationId" = some id
      ∧ (a.operation t path item method id entry.2).outcome = .ok op := by
  obtain ⟨key, node⟩ := entry
  cases key with
  | text key =>
      unfold operation? at h
      dsimp only at h
      split at h
      · cases h
      · next method hmethod =>
        split at h
        · cases h
        · split at h
          · next id hid =>
            obtain ⟨op', hop', heq⟩ := Noted.outcome_map_eq_ok_iff.mp h
            obtain rfl := Option.some.inj heq
            exact ⟨key, method, id, rfl, hmethod, hid, hop'⟩
          · obtain ⟨_, -, hnone⟩ := Noted.outcome_bind_eq_ok_iff.mp h
            cases hnone
  | _ => cases h

/-- A path item is read entry by entry. -/
theorem itemOperations_eq_run {path : String} {item : Value} (entries : Entries) :
    a.itemOperations t path item entries
      = List.flatten <$> entries.mapM fun entry => Option.toList <$> a.operation? t path item entry := by
  induction entries with
  | nil => rfl
  | cons entry rest ih =>
      rw [itemOperations, ih, Noted.run_cons, bind_map_left]

/-- Paths are read one after the other. -/
theorem readOperations_eq_run {known : List String} (named : List (String × Value)) :
    a.readOperations t known named
      = List.flatten <$> named.mapM fun entry => a.pathOperations t known entry.1 entry.2 := by
  induction named with
  | nil => rfl
  | cons entry rest ih => rw [readOperations, ih, Noted.run_cons]

/-- The known paths have a part in what is read only by the paths they shadow. -/
theorem readOperations_congr {known known' : List String}
    (h : ∀ path, t.isShadowed known path = t.isShadowed known' path)
    (named : List (String × Value)) :
    a.readOperations t known named = a.readOperations t known' named := by
  have hpaths : a.pathOperations t known = a.pathOperations t known' := by
    funext path item
    unfold pathOperations
    rw [h path]
  rw [readOperations_eq_run, readOperations_eq_run, hpaths]

/-- Of the entries of a path item those that are operations give one each. -/
theorem outcome_itemOperations_spec {path : String} {item : Value} {entries : Entries}
    (h : (a.itemOperations t path item entries).outcome = .ok ops) :
    (∀ entry ∈ entries, ∃ found, (a.operation? t path item entry).outcome = .ok found)
      ∧ ∀ op, op ∈ ops ↔ ∃ entry ∈ entries,
          (a.operation? t path item entry).outcome = .ok (some op) := by
  rw [itemOperations_eq_run] at h
  obtain ⟨hanswer, hmem⟩ := Noted.outcome_run_spec h
  simp only [Noted.outcome_map_eq_ok_iff] at hanswer hmem
  constructor
  · intro entry hentry
    obtain ⟨_, found, hfound, -⟩ := hanswer entry hentry
    exact ⟨found, hfound⟩
  · intro op
    rw [hmem]
    constructor
    · rintro ⟨entry, hentry, _, ⟨found, hfound, rfl⟩, hop⟩
      obtain rfl := Option.mem_toList.mp hop
      exact ⟨entry, hentry, hfound⟩
    · rintro ⟨entry, hentry, hfound⟩
      exact ⟨entry, hentry, [op], ⟨some op, hfound, rfl⟩, List.mem_singleton_self op⟩

/-- A path that is shadowed gives no operations. -/
theorem outcome_pathOperations_of_shadowed {known : List String} {path : String} {item : Value}
    (h : t.isShadowed known path = true) :
    (a.pathOperations t known path item).outcome = .ok [] := by
  unfold pathOperations
  split
  · rw [if_pos h]
    rfl
  · rfl

/-- A path item that is not shadowed is read. -/
theorem pathOperations_of_not_shadowed {known : List String} {path : String} {entries : Entries}
    (h : t.isShadowed known path = false) :
    a.pathOperations t known path (.map entries) = a.itemOperations t path (.map entries) entries := by
  unfold pathOperations
  dsimp only
  rw [h]
  rfl

/-- A path item that has one method, and a node there that has an id and no request body, is read
as it stands, with the parameters its path asks for. -/
theorem pathOperations_of_single {known : List String} {path key id : String} {node : Value}
    {method : Method} (hshadowed : t.isShadowed known path = false)
    (hmethod : Method.ofName? (Text.lowered key) = some method)
    (hid : node.filledText? "operationId" = some id) (hbody : node.get? "requestBody" = none)
    (hshared : (Value.map [(.text key, node)]).itemsAt "parameters" = [])
    (hown : node.itemsAt "parameters" = []) :
    a.pathOperations t known path (.map [(.text key, node)])
      = pure
          [{ tag := t.tagOf node
             method := method
             path := path
             id := id
             methodName := id
             summary := node.text? "summary"
             parameters := Parameter.complete path [] }] := by
  have hparameters : a.parameters path (.map [(.text key, node)]) node
      = pure (Parameter.complete path []) := by
    unfold parameters
    rw [hshared, hown]
    rfl
  rw [pathOperations_of_not_shadowed hshadowed, itemOperations,
    operation?_of_no_body hmethod hid hbody hparameters]
  rfl

/-- Operations of a path stand in its item, and the path is not shadowed. -/
theorem exists_entries_of_mem_pathOperations {known : List String} {path : String} {item : Value}
    (h : (a.pathOperations t known path item).outcome = .ok ops) {op : Operation}
    (hop : op ∈ ops) :
    ∃ entries, item = .map entries ∧ t.isShadowed known path = false
      ∧ (a.itemOperations t path item entries).outcome = .ok ops := by
  unfold pathOperations at h
  split at h
  · next entries =>
    split at h
    · obtain ⟨_, -, hnil⟩ := Noted.outcome_bind_eq_ok_iff.mp h
      obtain rfl := Except.ok.inj hnil
      cases hop
    · next hshadowed => exact ⟨entries, rfl, Bool.eq_false_iff.mpr hshadowed, h⟩
  · obtain rfl := Except.ok.inj h
    cases hop

/-- What is read are the entries of the items whose paths are not shadowed. -/
theorem outcome_readOperations_spec {known : List String} {named : List (String × Value)}
    (h : (a.readOperations t known named).outcome = .ok ops) :
    (∀ path entries, (path, .map entries) ∈ named → t.isShadowed known path = false →
        ∀ entry ∈ entries, ∃ found,
          (a.operation? t path (.map entries) entry).outcome = .ok found)
      ∧ ∀ op, op ∈ ops ↔ ∃ path entries, (path, .map entries) ∈ named
          ∧ t.isShadowed known path = false
          ∧ ∃ entry ∈ entries, (a.operation? t path (.map entries) entry).outcome = .ok (some op) := by
  rw [readOperations_eq_run] at h
  obtain ⟨hanswer, hmem⟩ := Noted.outcome_run_spec h
  have hitem : ∀ path entries, (path, .map entries) ∈ named → t.isShadowed known path = false →
      ∃ found, (a.itemOperations t path (.map entries) entries).outcome = .ok found := by
    intro path entries hnamed hfree
    obtain ⟨found, hfound⟩ := hanswer _ hnamed
    rw [pathOperations_of_not_shadowed hfree] at hfound
    exact ⟨found, hfound⟩
  constructor
  · intro path entries hnamed hfree
    obtain ⟨found, hfound⟩ := hitem path entries hnamed hfree
    exact (outcome_itemOperations_spec hfound).1
  · intro op
    rw [hmem]
    constructor
    · rintro ⟨⟨path, _⟩, hnamed, found, hfound, hop⟩
      obtain ⟨entries, rfl, hfree, hread⟩ := exists_entries_of_mem_pathOperations hfound hop
      exact ⟨path, entries, hnamed, hfree, ((outcome_itemOperations_spec hread).2 op).mp hop⟩
    · rintro ⟨path, entries, hnamed, hfree, hentry⟩
      obtain ⟨found, hfound⟩ := hitem path entries hnamed hfree
      refine ⟨_, hnamed, found, ?_, ((outcome_itemOperations_spec hfound).2 op).mpr hentry⟩
      rw [pathOperations_of_not_shadowed hfree]
      exact hfound

/-- Every collected operation comes from a node of the paths. -/
theorem exists_readFrom_of_mem {paths : Entries}
    (h : (a.collect t reserved paths).outcome = .ok ops) {op : Operation} (hop : op ∈ ops) :
    ∃ shared own entries node, a.ReadFrom paths shared own op entries node := by
  obtain ⟨named, read, hnamed, hread, rfl⟩ := outcome_collect_eq_ok_iff.mp h
  obtain ⟨op', hop', hpath, hmethod, hid, hparameters⟩ := Tables.exists_of_mem_claimMethodNames hop
  obtain ⟨path, entries, hitem, -, ⟨_, node⟩, hentry, hentryRead⟩ :=
    ((outcome_readOperations_spec hread).2 op').mp hop'
  obtain ⟨key, method, id, rfl, hkey, hfilled, hoperation⟩ :=
    exists_of_outcome_operation?_eq_some hentryRead
  obtain ⟨rfl, rfl, rfl, hps⟩ := outcome_operation_eq_ok hoperation
  obtain ⟨shared, own, hshared, hown, heq⟩ := outcome_parameters_eq_ok_iff.mp hps
  refine ⟨shared, own, entries, node, ?_, ⟨key, hentry, ?_⟩, ?_, hshared, hown, ?_⟩
  · rw [hpath]
    exact (Entries.mem_named?_iff hnamed).mp hitem
  · rw [hmethod]
    exact hkey
  · rw [hid]
    exact hfilled
  · rw [hpath, hparameters, heq]

end Api

end ApiCommands
