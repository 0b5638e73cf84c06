/-
What the methods of the emitted client pass on.

# From values to placeholders

A call gives the arguments of a method their values, one after the other
(`ClientMethod.bound`), and the method passes them on under the placeholders
(`ClientMethod.pathArguments`). Identifiers are claimed in one run, so they differ
and each has the value at its own place (`pathArguments_eq`). The argument of a
placeholder is the one whose parameter has its name, and there is no more than
one, since path parameters are arranged by placeholders
(`find?_pathArguments`).

# Placeholders without a parameter

A placeholder is any name in braces, wherever it stands; a parameter is made for
segments only that are in braces as a whole. So a placeholder next to other text
is left without an argument unless its parameter is declared, and then no call
of the method can expand the path (`placeholder_covered_iff`).
-/
import ApiCommands.Artifact.ClientModule
import ApiCommands.Proofs.Artifact.Generation
import ApiCommands.Proofs.Call.Arguments
import ApiCommands.Proofs.Text.Half

namespace ApiCommands

-- ====================================================== parameter names

namespace Tables

variable (t : Tables) (reserved names : List String)

@[simp]
theorem length_parameterNames : (t.parameterNames reserved names).length = names.length := by
  unfold parameterNames
  rw [Taken.length_claimAll, List.length_map]

/-- No two parameters have the same identifier. -/
theorem nodup_parameterNames : (t.parameterNames reserved names).Nodup :=
  (Taken.nodup_claimAll _ _).of_map

/-- No parameter has a reserved identifier. -/
theorem parameterNames_free {identifier : String}
    (h : identifier ∈ t.parameterNames reserved names) : identifier ∉ reserved := by
  intro hmem
  have hfree := Taken.contains_ofList_eq_false_iff.mp (Taken.claimAll_free _ h)
  exact hfree identifier hmem rfl

end Tables

namespace Operation

variable {op : Operation}

/-- A parameter goes by its own name, but for case, also where a placeholder spells it. -/
theorem lowered_placeholderOf (p : Parameter) : Text.lowered (op.placeholderOf p) = p.key := by
  unfold placeholderOf Parameter.key
  cases hfind : op.placeholders.reverse.find? fun name =>
      Text.lowered name == Text.lowered p.name with
  | none => rfl
  | some name => simpa using List.find?_some hfind

end Operation

namespace ClientMethod

-- ====================================================== the signature

/-- The parameters of a method: names, and what is declared of them. -/
def declarations (m : ClientMethod) : List (String × String) :=
  [("self", "")] ++ m.arguments.map (fun a => (a.identifier, ": Any"))
    ++ (if m.hasBody then [("body", if m.bodyRequired then ": Any" else ": Any = None")] else [])
    ++ [("query", ": Optional[dict[str, Any]] = None")]

/-- The names a call of a method can give values to. -/
def parameterNames (m : ClientMethod) : List String := m.declarations.map (·.1)

/-- The signature of a method is written from its parameters. -/
theorem signature_eq (m : ClientMethod) :
    m.signature = Text.joined ", " (m.declarations.map fun d => d.1 ++ d.2) := by
  unfold signature declarations
  cases m.hasBody <;> cases m.bodyRequired <;> simp [Function.comp_def]

-- ====================================================== binding

/-- The values of a call by the identifiers they are given to. -/
def bound (m : ClientMethod) (values : List Value) : List (String × Value) :=
  (m.arguments.map (·.identifier)).zip values

/-- What a method passes on to the expansion of its path: every placeholder with the value of its
identifier. -/
def pathArguments (m : ClientMethod) (values : List Value) : Arguments :=
  .ofLiteral (m.arguments.filterMap fun a =>
    ((m.bound values).lookup a.identifier).map fun v => (a.placeholder, v))

/-- Where identifiers differ, each has the value at its place. -/
private theorem filterMap_lookup_zip {args : List PathArgument} {values : List Value}
    (hnodup : (args.map (·.identifier)).Nodup) (hlen : values.length = args.length) :
    (args.filterMap fun a =>
        (((args.map (·.identifier)).zip values).lookup a.identifier).map fun v =>
          (a.placeholder, v))
      = (args.map (·.placeholder)).zip values := by
  induction args generalizing values with
  | nil => rfl
  | cons a rest ih =>
      obtain ⟨ha, hrest⟩ := List.nodup_cons.mp hnodup
      cases values with
      | nil => cases hlen
      | cons v vs =>
          have hlater : ∀ b ∈ rest,
              ((a.identifier, v) :: (rest.map (·.identifier)).zip vs).lookup b.identifier
                = ((rest.map (·.identifier)).zip vs).lookup b.identifier := by
            intro b hb
            have hne : b.identifier ≠ a.identifier := fun heq =>
              ha (List.mem_map.mpr ⟨b, hb, heq⟩)
            rw [List.lookup_cons, beq_eq_false_iff_ne.mpr hne]
          rw [List.map_cons, List.map_cons, List.zip_cons_cons, List.zip_cons_cons,
            List.filterMap_cons_some (b := (a.placeholder, v)) (by simp),
            ← ih hrest (by simpa using hlen)]
          refine congrArg _ (List.filterMap_congr fun b hb => ?_)
          rw [hlater b hb]

variable (t : Tables) {op : Operation} {values : List Value}

/-- Every path parameter has an argument. -/
@[simp]
theorem length_arguments : (ofOperation t op).arguments.length = op.pathParameters.length := by
  simp [ofOperation, argumentsOf]

/-- The arguments have the identifiers claimed for the path parameters, in order. -/
theorem map_identifier_arguments :
    (ofOperation t op).arguments.map (·.identifier)
      = t.parameterNames reservedArguments (op.pathParameters.map (·.name)) := by
  unfold ofOperation argumentsOf
  dsimp only
  rw [List.map_map]
  exact List.map_snd_zip (Nat.le_of_eq (by simp))

/-- The arguments are for the placeholders of the path parameters, in order. -/
theorem map_placeholder_arguments :
    (ofOperation t op).arguments.map (·.placeholder) = op.pathParameters.map op.placeholderOf := by
  have hfst : (op.pathParameters.zip
      (t.parameterNames reservedArguments (op.pathParameters.map (·.name)))).map Prod.fst
        = op.pathParameters :=
    List.map_fst_zip (Nat.le_of_eq (by simp))
  unfold ofOperation argumentsOf
  dsimp only
  rw [List.map_map]
  conv_rhs => rw [← hfst, List.map_map]
  rfl

/-- But for their case the arguments have the names of the path parameters, in order. -/
theorem map_key_arguments :
    (ofOperation t op).arguments.map (fun a => Text.lowered a.placeholder)
      = op.pathParameters.map Parameter.key := by
  have hcomp : (ofOperation t op).arguments.map (fun a => Text.lowered a.placeholder)
      = ((ofOperation t op).arguments.map (·.placeholder)).map Text.lowered := by
    rw [List.map_map]
    rfl
  rw [hcomp, map_placeholder_arguments, List.map_map]
  exact List.map_congr_left fun p _ => op.lowered_placeholderOf p

/-- A method passes each placeholder on with the value at the place of its parameter. -/
theorem pathArguments_eq (hlen : values.length = op.pathParameters.length) :
    (ofOperation t op).pathArguments values
      = .ofLiteral ((op.pathParameters.map op.placeholderOf).zip values) := by
  unfold pathArguments bound
  rw [filterMap_lookup_zip, map_placeholder_arguments]
  · rw [map_identifier_arguments]
    exact t.nodup_parameterNames _ _
  · rw [length_arguments, hlen]

/-- The entries that a method passes on under a name are those of the parameters of that name. -/
private theorem filter_entries (key : String) :
    ((op.pathParameters.map op.placeholderOf).zip values).filter
        (fun entry => Text.lowered entry.1 == key)
      = ((op.pathParameters.zip values).filter fun entry => entry.1.key == key).map
          fun entry => (op.placeholderOf entry.1, entry.2) := by
  have hzip : (op.pathParameters.map op.placeholderOf).zip values
      = (op.pathParameters.zip values).map fun entry => (op.placeholderOf entry.1, entry.2) := by
    conv_lhs => rw [← List.map_id values, List.zip_map]
    rfl
  rw [hzip, List.filter_map]
  refine congrArg _ (List.filter_congr fun entry _ => ?_)
  rw [Function.comp_apply, op.lowered_placeholderOf]

/-- A placeholder is passed on with the value given for its parameter. -/
theorem find?_pathArguments (hlen : values.length = op.pathParameters.length) {name : String}
    (hname : name ∈ op.placeholders) {k : Nat} (hk : k < op.pathParameters.length)
    (hkey : op.pathParameters[k].key = Text.lowered name) :
    ((ofOperation t op).pathArguments values).find? name = some values[k] := by
  have hmem : (op.pathParameters[k], values[k]) ∈ (op.pathParameters.zip values).filter
      fun entry => entry.1.key == Text.lowered name := by
    refine List.mem_filter.mpr ⟨?_, by simpa using hkey⟩
    refine List.mem_iff_getElem.mpr ⟨k, ?_, List.getElem_zip⟩
    rw [List.length_zip, hlen, Nat.min_self]
    exact hk
  -- of one name there is one parameter, so this entry is the only one
  have hlength : ((op.pathParameters.zip values).filter
      fun entry => entry.1.key == Text.lowered name).length ≤ 1 := by
    have hfst : ((op.pathParameters.zip values).filter
        fun entry => entry.1.key == Text.lowered name).map Prod.fst
          = op.pathParameters.filter fun p => p.key == Text.lowered name := by
      conv_rhs => rw [← List.map_fst_zip (Nat.le_of_eq hlen.symm), List.filter_map]
      rfl
    rw [← List.length_map (f := Prod.fst), hfst,
      Operation.filter_pathParameters (op.mem_placeholderKeys.mpr ⟨name, hname, rfl⟩)]
    cases op.filling? (Text.lowered name) <;> simp
  have hsingle : (op.pathParameters.zip values).filter
      (fun entry => entry.1.key == Text.lowered name) = [(op.pathParameters[k], values[k])] := by
    obtain ⟨entry, hentry⟩ := List.length_eq_one_iff.mp
      (Nat.le_antisymm hlength (List.length_pos_of_mem hmem))
    rw [hentry] at hmem ⊢
    rw [List.mem_singleton.mp hmem]
  have hentries : ((op.pathParameters.map op.placeholderOf).zip values).filter
      (fun entry => Text.lowered entry.1 == Text.lowered name)
        = [(op.placeholderOf op.pathParameters[k], values[k])] := by
    rw [filter_entries, hsingle]
    rfl
  rw [pathArguments_eq t hlen]
  exact Arguments.find?_ofLiteral hentries

/-- Nothing is passed on for a placeholder without a parameter. -/
theorem find?_pathArguments_eq_none (hlen : values.length = op.pathParameters.length)
    {name : String} (h : ¬∃ p ∈ op.pathParameters, p.key = Text.lowered name) :
    ((ofOperation t op).pathArguments values).find? name = none := by
  rw [pathArguments_eq t hlen]
  refine Arguments.find?_ofLiteral_eq_none fun entry hentry heq => h ?_
  obtain ⟨p, hp, hplaceholder⟩ := List.mem_map.mp (List.of_mem_zip hentry).1
  refine ⟨p, hp, ?_⟩
  rw [← op.lowered_placeholderOf, hplaceholder, heq]

/-- What is passed on was given. -/
theorem mem_values_of_given? (hlen : values.length = op.pathParameters.length) {name : String}
    {v : Value} (h : ((ofOperation t op).pathArguments values).given? name = some v) :
    v ∈ values := by
  rw [pathArguments_eq t hlen] at h
  obtain ⟨entry, hentry, rfl⟩ := Arguments.exists_mem_of_given? h
  obtain ⟨written, hwritten, heq⟩ := Arguments.exists_mem_of_mem_ofLiteral hentry
  rw [← heq]
  exact (List.of_mem_zip hwritten).2

-- ====================================================== placeholders with and without argument

/-- A placeholder has an argument exactly if it has a parameter. -/
theorem exists_argument_iff {name : String} :
    (∃ argument ∈ (ofOperation t op).arguments,
        Text.lowered argument.placeholder = Text.lowered name)
      ↔ ∃ p ∈ op.pathParameters, p.key = Text.lowered name := by
  rw [← List.mem_map, ← List.mem_map (f := Parameter.key), ← map_key_arguments t]

/-- Where every placeholder has a parameter, each is given one of the values of a call, unless
that is missing. -/
theorem exists_given?_of_covers (hcovers : op.CoversPlaceholders)
    (hlen : values.length = op.pathParameters.length)
    (hvalues : ∀ v ∈ values, v.isMissing = false) {name : String} (hname : name ∈ op.placeholders) :
    ∃ v ∈ values, ((ofOperation t op).pathArguments values).given? name = some v := by
  obtain ⟨p, hp, hkey⟩ := hcovers name hname
  obtain ⟨k, hk, rfl⟩ := List.getElem_of_mem hp
  have hmem : values[k] ∈ values := List.getElem_mem _
  refine ⟨_, hmem, Arguments.given?_of_find? ?_ (hvalues _ hmem)⟩
  exact find?_pathArguments t hlen hname hk hkey

/-- Every placeholder has a parameter exactly if no call that gives all values leaves one
missing. -/
theorem covers_iff_never_missing :
    op.CoversPlaceholders
      ↔ ∀ values, values.length = (ofOperation t op).arguments.length →
          (∀ v ∈ values, v.isMissing = false) → ∀ name,
            PathTemplate.expand op.path ((ofOperation t op).pathArguments values)
              ≠ .error (.usage (.missingArgument name)) := by
  rw [length_arguments]
  constructor
  · intro hcovers values hlen hvalues name
    rw [PathTemplate.expand_eq_fillWith fun written hwritten => ?_]
    · exact PathTemplate.fillWith_ne_missing
        (fun written => ((((ofOperation t op).pathArguments values).given?
          (String.ofList written)).getD .null)) op.path name
    · obtain ⟨v, -, hgiven⟩ := exists_given?_of_covers t hcovers hlen hvalues hwritten
      rw [hgiven, Option.getD_some]
  · -- one value for everything shows a placeholder without a parameter
    intro hnever name hname
    by_contra hnone
    have hmissing : ((ofOperation t op).pathArguments
        (List.replicate op.pathParameters.length (.text "x"))).given? name = none := by
      unfold Arguments.given?
      rw [find?_pathArguments_eq_none t List.length_replicate hnone]
      rfl
    have hescaped : ∀ written v, ((ofOperation t op).pathArguments
        (List.replicate op.pathParameters.length (.text "x"))).given? written = some v →
          ∃ escapes, v.escaped = .ok escapes := by
      intro written v hgiven
      rw [List.eq_of_mem_replicate (mem_values_of_given? t List.length_replicate hgiven)]
      exact ⟨_, Value.escaped_eq_ok_iff.mpr
        ⟨"x", rfl, Text.whole_of_isAscii (by decide), rfl⟩⟩
    have hsome : (op.placeholders.find? fun written => (((ofOperation t op).pathArguments
        (List.replicate op.pathParameters.length (.text "x"))).given? written).isNone).isSome :=
      List.find?_isSome.mpr ⟨name, hname, by rw [hmissing]; rfl⟩
    obtain ⟨first, hfirst⟩ := Option.isSome_iff_exists.mp hsome
    refine hnever (List.replicate op.pathParameters.length (.text "x")) List.length_replicate
      (fun v hv => ?_) first ?_
    · rw [List.eq_of_mem_replicate hv]
      decide
    · unfold Operation.placeholders at hfirst
      rw [PathTemplate.expand_eq_of_escaped hescaped, hfirst]

end ClientMethod

namespace Api

variable {a : Api} {t : Tables} {reserved : List String} {ops : List Operation}

/-- Which placeholders of a collected operation have a parameter: those that are declared on the
path or on the operation, and those that fill a segment of the path. The emitted client has
arguments for just these. So a call of its method can expand the path exactly if every
placeholder is declared or a segment of its own; one beside other text that is not declared is
reported as missing, whatever the values. -/
theorem placeholder_covered_iff {paths : Entries} (emitter : Tables)
    (h : (a.collect t reserved paths).outcome = .ok ops) {op : Operation} (hop : op ∈ ops) :
    ∃ shared own entries node, a.ReadFrom paths shared own op entries node
      ∧ (∀ name,
          (∃ p ∈ op.pathParameters, Text.lowered p.name = Text.lowered name)
            ↔ (∃ p ∈ shared ++ own, p.location = .path ∧ Text.lowered p.name = Text.lowered name)
              ∨ ∃ segment ∈ op.segments, ∃ other,
                  segment = Text.braced other ∧ Text.lowered other = Text.lowered name)
      ∧ (∀ name,
          (∃ argument ∈ (ClientMethod.ofOperation emitter op).arguments,
              Text.lowered argument.placeholder = Text.lowered name)
            ↔ ∃ p ∈ op.pathParameters, Text.lowered p.name = Text.lowered name)
      ∧ ((∀ name ∈ op.placeholders,
            ∃ p ∈ op.pathParameters, Text.lowered p.name = Text.lowered name)
          ↔ ∀ values, values.length = (ClientMethod.ofOperation emitter op).arguments.length →
              (∀ v ∈ values, v.isMissing = false) → ∀ name,
                PathTemplate.expand op.path
                    ((ClientMethod.ofOperation emitter op).pathArguments values)
                  ≠ .error (.usage (.missingArgument name))) := by
  obtain ⟨shared, own, entries, node, hread⟩ := exists_readFrom_of_mem h hop
  refine ⟨shared, own, entries, node, hread, fun name => ?_, fun name => ?_, ?_⟩
  · have hdeclared : Text.lowered name ∈ Parameter.pathKeys (Parameter.overrideAll (shared ++ own))
        ↔ ∃ p ∈ shared ++ own, p.location = .path ∧ Text.lowered p.name = Text.lowered name := by
      rw [← Parameter.exists_mem_overrideAll_iff
        (Q := fun other location => location = .path ∧ Text.lowered other = Text.lowered name)]
      unfold Parameter.pathKeys
      simp [and_assoc]
    have hkeys : (∃ p ∈ op.pathParameters, p.key = Text.lowered name)
        ↔ Text.lowered name ∈ Parameter.pathKeys op.parameters :=
      Operation.exists_mem_pathParameters_iff_mem_pathKeys
    rw [hread.parameters, Parameter.mem_pathKeys_complete_iff, hdeclared] at hkeys
    exact hkeys
  · exact ClientMethod.exists_argument_iff emitter
  · exact ClientMethod.covers_iff_never_missing emitter

end Api

-- ====================================================== two placeholders in one segment

namespace FileFormat

/-- A path whose last segment is a name and a format. -/
def path : String := "/files/{name}.{format}"

/-- The paths of a document that declares no parameters for it. -/
def paths : Entries := [(.text path, TwinTags.item "getFile" "Files")]

/-- The operation there: its one parameter is named after the segment. -/
def operation : Operation :=
  { TwinTags.operation path "getFile" "Files" with
    parameters := [Parameter.ofPlaceholder "name\x7d.\x7bformat"] }

/-- The operation is what is collected. -/
theorem outcome_collect :
    ((Api.ofDocument .null).collect Tables.standard reservedMethods paths).outcome
      = .ok [operation] := by
  have hpath : Parameter.complete path [] = operation.parameters := by decide
  rw [Api.outcome_collect_eq_ok_iff]
  refine ⟨[(path, TwinTags.item "getFile" "Files")], [operation], rfl, ?_, by decide⟩
  rw [Api.readOperations, TwinTags.pathOperations_item (by decide) (by decide)
    (by decide) hpath]
  rfl

end FileFormat

/-- Neither of two placeholders in one segment gets a parameter, so some call of the method fails
although it gives a value for every argument. -/
theorem Api.fileFormat_not_covered :
    ((Api.ofDocument .null).collect Tables.standard reservedMethods FileFormat.paths).outcome
        = .ok [FileFormat.operation]
      ∧ FileFormat.operation ∈ [FileFormat.operation]
      ∧ ¬∀ values,
          values.length
              = (ClientMethod.ofOperation Tables.standard FileFormat.operation).arguments.length →
          (∀ v ∈ values, v.isMissing = false) → ∀ name,
            PathTemplate.expand FileFormat.operation.path
                ((ClientMethod.ofOperation Tables.standard
                  FileFormat.operation).pathArguments values)
              ≠ .error (.usage (.missingArgument name)) := by
  obtain ⟨_, _, _, _, _, _, _, hcalls⟩ := Api.placeholder_covered_iff Tables.standard
    FileFormat.outcome_collect List.mem_cons_self
  refine ⟨FileFormat.outcome_collect, List.mem_cons_self, fun hnever => ?_⟩
  obtain ⟨p, hp, hname⟩ := hcalls.mpr hnever "format" (by decide +kernel)
  have hnone : ∀ p ∈ FileFormat.operation.pathParameters,
      Text.lowered p.name ≠ Text.lowered "format" := by decide +kernel
  exact hnone p hp hname

end ApiCommands
