/-
The parameters that emitted functions declare.

# Apart from each other

The identifiers of a function are claimed in one run, beside the names the function
has for itself. So the two together are apart, also where only case would tell
them apart (`Tables.namesApart_parameterNames`). Every candidate is a name of the
emitted source: what a wire name is made of is one already, and a number behind
an underscore behind it leads to no keyword.

# What is declared

A method declares the identifiers of its path parameters, and some of its own
names. A handler declares the context, the options for a body as a whole, and one
identifier for each path parameter, query parameter and field with an option
(`Handler.filterMap_identifier?_parameters_perm`). All of the fixed ones are
reserved, so what is declared is a part of what is apart
(`Handler.map_declaredName_parameters_subperm`).

# Options

Flags are claimed as well, beside the reserved option names and that for help.
Those for a body as a whole are not claimed, so they can be claimed for a wire name
unless they are reserved. They are told apart from the candidates of a chain by
their front: only the first candidate can be one of them
(`Handler.eq_firstFlag_of_has`). So whether one is claimed depends on the wire names
alone, and not on their order (`Handler.mem_flags_iff`).
-/
import ApiCommands.Naming.Tables.Standard
import ApiCommands.Proofs.Artifact.Handler
import ApiCommands.Proofs.Naming.Alias
import ApiCommands.Proofs.Naming.Overrides

namespace ApiCommands

-- ====================================================== names apart

/-- Names of the emitted source, no two of them the same up to case. -/
structure NamesApart (names : List String) : Prop where
  isName : ∀ name ∈ names, Identifier.IsName name
  apart : (names.map Text.lowered).Nodup

instance (names : List String) : Decidable (NamesApart names) :=
  decidable_of_iff ((∀ name ∈ names, Identifier.IsName name) ∧ (names.map Text.lowered).Nodup)
    ⟨fun h => ⟨h.1, h.2⟩, fun h => ⟨h.isName, h.apart⟩⟩

/-- Some of the names, in whatever order, are apart as well. -/
theorem NamesApart.of_subperm {names more : List String} (h : NamesApart more)
    (hsub : names.Subperm more) : NamesApart names where
  isName name hname := h.isName name (hsub.subset hname)
  apart := by
    obtain ⟨l, hperm, hl⟩ := hsub
    rw [← (hperm.map Text.lowered).nodup_iff]
    exact h.apart.sublist (hl.map Text.lowered)

namespace Tables

variable (t : Tables) {reserved : List String}

/-- All candidates for the identifier of a wire name are names. -/
theorem isName_of_has_parameterCandidates {wireName name : String}
    (h : (t.parameterCandidates wireName).Has name) : Identifier.IsName name := by
  have hbase : Identifier.IsName (t.parameterBase wireName) := by
    unfold parameterBase
    exact Identifier.isName_ofString _
  rcases h with hfirst | ⟨i, rfl⟩
  · rw [List.mem_singleton.mp hfirst]
    exact hbase
  · exact hbase.underscore_toString (i + 2)

/-- Identifiers are names, and apart from each other and from reserved names. -/
theorem namesApart_parameterNames (h : NamesApart reserved) (wireNames : List String) :
    NamesApart (reserved ++ t.parameterNames reserved wireNames) where
  isName := by
    refine List.forall_mem_append.mpr ⟨h.isName, fun name hname => ?_⟩
    obtain ⟨c, hc, hhas⟩ := Taken.exists_has_of_mem_claimAll _ hname
    obtain ⟨wireName, -, rfl⟩ := List.mem_map.mp hc
    exact t.isName_of_has_parameterCandidates hhas
  apart := by
    rw [List.map_append, List.nodup_append]
    refine ⟨h.apart, Taken.nodup_claimAll _ _, ?_⟩
    intro key hkey key' hkey'
    obtain ⟨taken, htaken, rfl⟩ := List.mem_map.mp hkey
    obtain ⟨name, hname, rfl⟩ := List.mem_map.mp hkey'
    have hfree := Taken.contains_ofList_eq_false_iff.mp (Taken.claimAll_free _ hname)
    exact (hfree taken htaken).symm

end Tables

-- ====================================================== methods

namespace ClientMethod

variable (t : Tables) (op : Operation)

/-- The identifiers of a method's arguments and its own names are apart. -/
theorem namesApart_arguments :
    NamesApart (reservedArguments ++ (ofOperation t op).arguments.map (·.identifier)) := by
  rw [map_identifier_arguments]
  exact t.namesApart_parameterNames (by decide) _

/-- A method declares its identifiers and some of its own names. -/
theorem parameterNames_subperm :
    (ofOperation t op).parameterNames.Subperm
      (reservedArguments ++ (ofOperation t op).arguments.map (·.identifier)) := by
  have hfixed : (["self"] ++ ((if op.hasBody then ["body"] else []) ++ ["query"])).Sublist
      reservedArguments := by
    cases op.hasBody <;> decide
  rw [parameterNames_ofOperation, map_identifier_arguments, List.append_assoc, List.append_assoc]
  refine List.Perm.subperm ?_ |>.trans (hfixed.append_right _).subperm
  rw [List.append_assoc]
  exact List.perm_append_comm.append_left _

end ClientMethod

-- ====================================================== parameters of a handler

namespace HandlerParameter

/-- The identifier that a parameter is declared with, if it is one of its own. -/
def identifier? : HandlerParameter → Option String
  | argument identifier _ => some identifier
  | option identifier .. => some identifier
  | _ => none

/-- The name that a parameter is declared with. -/
def declaredName : HandlerParameter → String
  | context => "ctx"
  | argument identifier _ => identifier
  | option identifier .. => identifier
  | body => "body"
  | bodyFields => "set_"
  | bodyJsonFields => "set_json"

/-- The declaration of a parameter starts with its name. -/
theorem exists_text_eq (p : HandlerParameter) :
    ∃ declared, p.text = p.declaredName ++ ": " ++ declared := by
  cases p with
  | context => exact ⟨"typer.Context", rfl⟩
  | argument identifier help =>
      have hcolon : ": str = typer.Argument(..., metavar="
          = ": " ++ "str = typer.Argument(..., metavar=" := rfl
      unfold text declaredName
      simp only [hcolon, String.append_assoc]
      exact ⟨_, rfl⟩
  | option identifier isList required flag help =>
      unfold text declaredName
      simp only [String.append_assoc]
      exact ⟨_, rfl⟩
  | body => exact ⟨"Optional[str] = typer.Option(None, '--body', "
      ++ "help='Request body as JSON, or @file to read it from a file.')", by decide⟩
  | bodyFields => exact ⟨"Optional[List[str]] = typer.Option(None, '--set', "
      ++ "help='Body field as KEY=VALUE; dotted keys nest. Repeatable.')", by decide⟩
  | bodyJsonFields => exact ⟨"Optional[List[str]] = typer.Option(None, '--set-json', "
      ++ "help='Body field as KEY=JSON or KEY=@file. Repeatable.')", by decide⟩

/-- The option that a parameter is given by, if it is one. -/
def flag? : HandlerParameter → Option String
  | option _ _ _ flag _ => some flag
  | body => some "body"
  | bodyFields => some "set"
  | bodyJsonFields => some "set-json"
  | _ => none

/-- The declaration of an option holds its flag as a literal. -/
theorem exists_text_eq_of_flag? {p : HandlerParameter} {flag : String} (h : p.flag? = some flag) :
    ∃ front back, p.text = front ++ Text.quoted (dashed flag) ++ back := by
  cases p with
  | context => cases h
  | argument identifier help => cases h
  | option identifier isList required own help =>
      obtain rfl := Option.some.inj h
      unfold text
      dsimp only
      rw [String.append_assoc, String.append_assoc]
      exact ⟨_, _, rfl⟩
  | body =>
      obtain rfl := Option.some.inj h
      exact ⟨"body: Optional[str] = typer.Option(None, ",
        ", help='Request body as JSON, or @file to read it from a file.')", by decide⟩
  | bodyFields =>
      obtain rfl := Option.some.inj h
      exact ⟨"set_: Optional[List[str]] = typer.Option(None, ",
        ", help='Body field as KEY=VALUE; dotted keys nest. Repeatable.')", by decide⟩
  | bodyJsonFields =>
      obtain rfl := Option.some.inj h
      exact ⟨"set_json: Optional[List[str]] = typer.Option(None, ",
        ", help='Body field as KEY=JSON or KEY=@file. Repeatable.')", by decide⟩

/-- Parameters with these identifiers, one each, and with these flags, in order. -/
structure Declare (ps : List HandlerParameter) (identifiers flags : List String) : Prop where
  names : ps.map declaredName = identifiers
  identifiers : ps.filterMap identifier? = identifiers
  flags : ps.filterMap flag? = flags

namespace Declare

variable {ps more : List HandlerParameter} {ids moreIds flags moreFlags : List String}

/-- Parameters side by side declare what all of them declare. -/
theorem append (h : Declare ps ids flags) (hmore : Declare more moreIds moreFlags) :
    Declare (ps ++ more) (ids ++ moreIds) (flags ++ moreFlags) where
  names := by rw [List.map_append, h.names, hmore.names]
  identifiers := by rw [List.filterMap_append, h.identifiers, hmore.identifiers]
  flags := by rw [List.filterMap_append, h.flags, hmore.flags]

/-- Options made of identifiers and flags declare these. -/
theorem of_options {α : Type} (isList required : α → Bool) (help : α → String) {xs : List α}
    (hids : ids.length = xs.length) (hflags : xs.length ≤ flags.length) :
    Declare (((xs.zip ids).zip flags).map fun ((x, identifier), flag) =>
      option identifier (isList x) (required x) flag (help x)) ids (flags.take xs.length) := by
  have hzip : (xs.zip ids).length = xs.length := by simp [hids]
  have hidentifiers : ((xs.zip ids).zip flags).map (fun x => x.1.2) = ids := by
    have hfst : ((xs.zip ids).zip flags).map Prod.fst = xs.zip ids := List.map_fst_zip (by omega)
    conv_rhs => rw [← List.map_snd_zip hids.le, ← hfst, List.map_map]
    rfl
  have hflags : ((xs.zip ids).zip flags).map Prod.snd = flags.take xs.length := by
    refine List.ext_getElem (by simp; omega) fun i _ _ => ?_
    rw [List.getElem_map, List.getElem_zip, List.getElem_take]
  refine ⟨?_, ?_, ?_⟩
  · rw [List.map_map]
    exact hidentifiers
  · rw [List.filterMap_map]
    exact (congrFun List.filterMap_eq_map ((xs.zip ids).zip flags)).trans hidentifiers
  · rw [List.filterMap_map]
    exact (congrFun List.filterMap_eq_map ((xs.zip ids).zip flags)).trans hflags

end Declare

end HandlerParameter

namespace Handler

open HandlerParameter (Declare)

variable (t : Tables) (op : Operation)

theorem length_identifiers :
    (identifiers t op).length
      = op.pathParameters.length + op.queryParameters.length + (optionProperties op).length := by
  unfold identifiers wireNames
  simp [Nat.add_assoc]

theorem length_flags :
    (flags t op).length = op.queryParameters.length + (optionProperties op).length := by
  unfold flags
  simp

/-- Arguments declare their identifiers and no option. -/
theorem declare_argumentsOf {ps : List Parameter} {ids : List String}
    (h : ids.length = ps.length) : Declare (argumentsOf ps ids) ids [] := by
  have hidentifiers : (ps.zip ids).map Prod.snd = ids := List.map_snd_zip h.le
  unfold argumentsOf
  refine ⟨?_, ?_, ?_⟩
  · rw [List.map_map]
    exact hidentifiers
  · rw [List.filterMap_map]
    exact (congrFun List.filterMap_eq_map (ps.zip ids)).trans hidentifiers
  · rw [List.filterMap_map, List.filterMap_eq_nil_iff]
    exact fun _ _ => rfl

/-- Options of query parameters declare their identifiers and their flags. -/
theorem declare_queryOptions {ps : List Parameter} {ids flags : List String}
    (hids : ids.length = ps.length) (hflags : ps.length ≤ flags.length) :
    Declare (queryOptions ps ids flags) ids (flags.take ps.length) := by
  unfold queryOptions
  exact Declare.of_options (·.isArray) (·.required)
    (fun p => DocText.firstLine p.description p.name) hids hflags

/-- So do options of body properties. -/
theorem declare_bodyOptions {ps : List BodyProperty} {ids flags : List String}
    (hids : ids.length = ps.length) (hflags : ps.length ≤ flags.length) :
    Declare (bodyOptions ps ids flags) ids (flags.take ps.length) := by
  unfold bodyOptions
  exact Declare.of_options (fun p => p.kind == .array) (fun _ => false)
    (fun p => "Body field '" ++ p.name ++ "'.") hids hflags

/-- The parameters that every handler has, and those for a body as a whole. -/
def fixedParameters (op : Operation) : List HandlerParameter :=
  .context :: if op.hasBody then [.body, .bodyFields, .bodyJsonFields] else []

/-- Beside the fixed parameters, a handler declares its identifiers and its flags. -/
theorem exists_declare (c : Command) :
    ∃ own, (ofCommand t c).parameters.Perm (fixedParameters c.operation ++ own)
      ∧ Declare own (identifiers t c.operation) (flags t c.operation) := by
  have hids := length_identifiers t c.operation
  have hflags := length_flags t c.operation
  have harguments := declare_argumentsOf (length_pathIdentifiers t c)
  have hquery : Declare (queryOptions c.operation.queryParameters
      (((identifiers t c.operation).drop c.operation.pathParameters.length).take
        c.operation.queryParameters.length) (flags t c.operation)) _ _ :=
    declare_queryOptions (by simp; omega) (by omega)
  have hbody : Declare (bodyOptions (optionProperties c.operation)
      ((identifiers t c.operation).drop
        (c.operation.pathParameters.length + c.operation.queryParameters.length))
      ((flags t c.operation).drop c.operation.queryParameters.length)) _ _ :=
    declare_bodyOptions (by simp; omega) (by simp; omega)
  have hown := (harguments.append hquery).append hbody
  -- the identifiers of the three kinds are those of the handler, and so are the flags
  have hall : pathIdentifiers t c ++ ((identifiers t c.operation).drop
      c.operation.pathParameters.length).take c.operation.queryParameters.length
        ++ (identifiers t c.operation).drop
          (c.operation.pathParameters.length + c.operation.queryParameters.length)
        = identifiers t c.operation := by
    rw [pathIdentifiers, List.append_assoc, ← List.drop_drop, List.take_append_drop,
      List.take_append_drop]
  have hrest : ((flags t c.operation).drop c.operation.queryParameters.length).take
      (optionProperties c.operation).length
        = (flags t c.operation).drop c.operation.queryParameters.length :=
    List.take_of_length_le (by simp; omega)
  rw [hall, List.nil_append, hrest, List.take_append_drop] at hown
  refine ⟨_, ?_, hown⟩
  unfold ofCommand fixedParameters
  dsimp only
  rw [List.append_assoc _ _ (bodyOptions ..), List.append_assoc [_], List.append_assoc [_],
    List.singleton_append, List.cons_append]
  exact (List.perm_append_comm_assoc _ _ _).cons _

-- ====================================================== identifiers

/-- A handler declares the identifiers that are claimed for it. -/
theorem filterMap_identifier?_parameters_perm (c : Command) :
    ((ofCommand t c).parameters.filterMap HandlerParameter.identifier?).Perm
      (identifiers t c.operation) := by
  obtain ⟨own, hperm, hown⟩ := exists_declare t c
  have hfixed : (fixedParameters c.operation).filterMap HandlerParameter.identifier? = [] := by
    unfold fixedParameters
    cases c.operation.hasBody <;> rfl
  have hidentifiers := hperm.filterMap HandlerParameter.identifier?
  rwa [List.filterMap_append, hfixed, List.nil_append, hown.identifiers] at hidentifiers

/-- What it declares is among the reserved names and these identifiers. -/
theorem map_declaredName_parameters_subperm (c : Command) :
    ((ofCommand t c).parameters.map HandlerParameter.declaredName).Subperm
      (reservedParameters ++ identifiers t c.operation) := by
  obtain ⟨own, hperm, hown⟩ := exists_declare t c
  have hfixed : ((fixedParameters c.operation).map HandlerParameter.declaredName).Sublist
      reservedParameters := by
    unfold fixedParameters
    cases c.operation.hasBody <;> decide
  have hnames := hperm.map HandlerParameter.declaredName
  rw [List.map_append, hown.names] at hnames
  exact hnames.subperm.trans (hfixed.append_right _).subperm

/-- The identifiers of a handler are names, apart from each other and from its own. -/
theorem namesApart_identifiers : NamesApart (reservedParameters ++ identifiers t op) :=
  t.namesApart_parameterNames (by decide) _

/-- The parameters of emitted functions have names that can be told apart, whatever case counts,
and that the language takes for names. So it is with the arguments of a method beside its own names,
and with the identifiers of a handler, one for each path parameter, each query parameter and each
field with an option, beside the names that its source uses. The parameters that the two declare
are among these. -/
theorem parameters_named_apart (t : Tables) (c : Command) :
    NamesApart (ClientMethod.reservedArguments
        ++ (ClientMethod.ofOperation t c.operation).arguments.map (·.identifier))
      ∧ (ClientMethod.ofOperation t c.operation).arguments.length
          = c.operation.pathParameters.length
      ∧ NamesApart (ClientMethod.ofOperation t c.operation).parameterNames
      ∧ NamesApart (reservedParameters
          ++ (ofCommand t c).parameters.filterMap HandlerParameter.identifier?)
      ∧ ((ofCommand t c).parameters.filterMap HandlerParameter.identifier?).length
          = c.operation.pathParameters.length + c.operation.queryParameters.length
            + (optionProperties c.operation).length
      ∧ NamesApart ((ofCommand t c).parameters.map HandlerParameter.declaredName)
      ∧ ∀ p ∈ (ofCommand t c).parameters,
          ∃ declared, p.text = p.declaredName ++ ": " ++ declared := by
  have harguments := ClientMethod.namesApart_arguments t c.operation
  have hidentifiers := filterMap_identifier?_parameters_perm t c
  have hapart := namesApart_identifiers t c.operation
  refine ⟨harguments, ClientMethod.length_arguments t,
    harguments.of_subperm (ClientMethod.parameterNames_subperm t c.operation),
    hapart.of_subperm (hidentifiers.append_left _).subperm, ?_,
    hapart.of_subperm (map_declaredName_parameters_subperm t c), fun p _ => p.exists_text_eq⟩
  rw [hidentifiers.length_eq, length_identifiers]

/-- A command whose parameters are called like a word of the language, like that in another case,
like a number, and like the context. -/
def ordinalCommand : Command :=
  { operation :=
      { tag := "Users"
        method := .post
        path := "/classes/{class}/users"
        id := "addUser"
        methodName := "addUser"
        parameters :=
          [{ name := "class", location := .path }, { name := "Class", location := .query },
            { name := "2nd", location := .query }]
        hasBody := true
        bodyProperties := [{ name := "ctx", kind := .scalar }] }
    name := "add"
    handler := "addUser" }

/-- Its parameters have names that can be told apart. -/
theorem ordinalCommand_named_apart :
    ((ofCommand Tables.standard ordinalCommand).parameters.filterMap
          HandlerParameter.identifier?) = ["_class", "_class_2", "_2nd", "ctx_2"]
      ∧ NamesApart (reservedParameters ++ ["_class", "_class_2", "_2nd", "ctx_2"])
      ∧ HandlerParameter.bodyFields ∈ (ofCommand Tables.standard ordinalCommand).parameters
      ∧ ∃ declared, HandlerParameter.bodyFields.text = "set_" ++ ": " ++ declared := by
  obtain ⟨-, -, -, hapart, -, -, htext⟩ := parameters_named_apart Tables.standard ordinalCommand
  have hidentifiers : ((ofCommand Tables.standard ordinalCommand).parameters.filterMap
      HandlerParameter.identifier?) = ["_class", "_class_2", "_2nd", "ctx_2"] := by decide +kernel
  have hfields : HandlerParameter.bodyFields
      ∈ (ofCommand Tables.standard ordinalCommand).parameters := by decide +kernel
  rw [hidentifiers] at hapart
  exact ⟨hidentifiers, hapart, hfields, htext _ hfields⟩

-- ====================================================== flags

/-- The flag of a wire name is a slug. -/
theorem isName_flagBase (name : String) : Slug.IsName (flagBase t name) := by
  unfold flagBase
  dsimp only
  split
  · exact Slug.IsWord.isSlug (Slug.IsWord.of_all (by decide) (by decide))
  · next hne => exact Slug.isName_slug hne

/-- All candidates for a flag are slugs. -/
theorem isName_of_has_flagCandidates {front flag name : String} (hfront : Slug.IsName front)
    (hflag : Slug.IsName flag) (h : (flagCandidates front flag).Has name) : Slug.IsName name := by
  rcases h with hpre | ⟨i, rfl⟩
  · rcases List.mem_pair.mp hpre with rfl | rfl
    · exact hflag
    · exact hfront.hyphen hflag
  · exact (hfront.hyphen hflag).hyphen (Slug.isName_toString (i + 2))

/-- The flags of the options for a body as a whole. -/
def bodyFlags : List String := ["body", "set", "set-json"]

/-- All flags that a handler is given options by. -/
def optionFlags (h : Handler) : List String :=
  "help" :: h.parameters.filterMap HandlerParameter.flag?

/-- The wire names that have flags of their own: those of query parameters and body properties. -/
def optionNames (op : Operation) : List String :=
  op.queryParameters.map (·.name) ++ (optionProperties op).map (·.name)

/-- The flags of a handler are the fixed ones and those claimed for it. -/
theorem optionFlags_perm (c : Command) :
    (ofCommand t c).optionFlags.Perm
      ("help" :: ((if c.operation.hasBody then bodyFlags else []) ++ flags t c.operation)) := by
  obtain ⟨own, hperm, hown⟩ := exists_declare t c
  have hfixed : (fixedParameters c.operation).filterMap HandlerParameter.flag?
      = if c.operation.hasBody then bodyFlags else [] := by
    unfold fixedParameters
    cases c.operation.hasBody <;> rfl
  have hflags := hperm.filterMap HandlerParameter.flag?
  rw [List.filterMap_append, hfixed, hown.flags] at hflags
  exact hflags.cons _

/-- The claimed flags are different, and none is reserved or that for help. -/
theorem nodup_help_flags : ("help" :: flags t op).Nodup ∧ ∀ flag ∈ flags t op,
    flag ∉ t.reservedOptionNames := by
  have hfree : ∀ flag ∈ flags t op, ∀ taken ∈ t.reservedOptionNames ++ ["help"], flag ≠ taken := by
    intro flag hflag taken htaken heq
    refine Taken.contains_ofList_eq_false_iff.mp (Taken.claimAll_free _ hflag) taken htaken ?_
    rw [heq]
  refine ⟨List.nodup_cons.mpr ⟨fun hmem => ?_, (Taken.nodup_claimAll _ _).of_map⟩, ?_⟩
  · exact hfree _ hmem _ (List.mem_append_right _ List.mem_cons_self) rfl
  · exact fun flag hflag hmem => hfree flag hflag flag (List.mem_append_left _ hmem) rfl

/-- Only as it is, and not behind a word or with a number, can a flag be one of those for a body as
a whole. -/
theorem eq_of_has_flagCandidates {front flag name : String} (hfront : front ∈ ["param", "body"])
    (hname : name ∈ bodyFlags) (h : (flagCandidates front flag).Has name) : name = flag := by
  have hnone : ∀ front ∈ ["param", "body"], ∀ name ∈ bodyFlags,
      ¬(front ++ "-").toList <+: name.toList := by decide
  have hbehind : ∀ behind, name ≠ front ++ "-" ++ behind := by
    rintro behind rfl
    refine hnone front hfront _ hname ?_
    rw [String.toList_append (s := front ++ "-")]
    exact List.prefix_append _ _
  rcases h with hpre | ⟨i, hi⟩
  · rcases List.mem_pair.mp hpre with heq | heq
    · exact heq
    · exact absurd heq (hbehind _)
  · refine absurd (hi.trans ?_) (hbehind (flag ++ "-" ++ toString (i + 2)))
    simp [Candidates.tailAt, flagCandidates, String.append_assoc]

/-- The flag that a query parameter or a body property has if nothing has it before. -/
def firstFlag : Parameter ⊕ BodyProperty → String
  | .inl p => flagBase t p.name
  | .inr p => flagBase t p.name

/-- The candidates for the flag of a query parameter or of a body property. -/
def flagChain : Parameter ⊕ BodyProperty → Candidates
  | .inl p => flagCandidates "param" (flagBase t p.name)
  | .inr p => flagCandidates "body" (flagBase t p.name)

/-- What has a flag of its own: the query parameters and then the body properties. -/
def optionSources (op : Operation) : List (Parameter ⊕ BodyProperty) :=
  op.queryParameters.map .inl ++ (optionProperties op).map .inr

theorem flags_eq : flags t op = (takenFlags t).claimAll ((optionSources op).map (flagChain t)) := by
  unfold flags optionSources
  rw [List.map_append, List.map_map, List.map_map]
  rfl

theorem map_firstFlag_optionSources :
    (optionSources op).map (firstFlag t) = (optionNames op).map (flagBase t) := by
  unfold optionSources optionNames
  rw [List.map_append, List.map_map, List.map_map, List.map_append, List.map_map, List.map_map]
  rfl

/-- All candidates for a flag are slugs, and so their own lower case. -/
theorem lowered_eq_of_has_flagChain {x : Parameter ⊕ BodyProperty} {name : String}
    (h : (flagChain t x).Has name) : Text.lowered name = name := by
  have hparam : Slug.IsName "param" :=
    Slug.IsWord.isSlug (Slug.IsWord.of_all (by decide) (by decide))
  have hbody : Slug.IsName "body" :=
    Slug.IsWord.isSlug (Slug.IsWord.of_all (by decide) (by decide))
  cases x with
  | inl p => exact (isName_of_has_flagCandidates hparam (isName_flagBase t p.name) h).lowered_eq
  | inr p => exact (isName_of_has_flagCandidates hbody (isName_flagBase t p.name) h).lowered_eq

/-- A flag for a body as a whole can only be the first candidate of a chain. -/
theorem eq_firstFlag_of_has {x : Parameter ⊕ BodyProperty} {flag : String}
    (hflag : flag ∈ bodyFlags) (h : (flagChain t x).Has flag) : flag = firstFlag t x := by
  cases x with
  | inl p => exact eq_of_has_flagCandidates (by decide) hflag h
  | inr p => exact eq_of_has_flagCandidates (by decide) hflag h

/-- A flag for a body as a whole is claimed as well exactly if some wire name leads to it and it is
not reserved. -/
theorem mem_flags_iff {flag : String} (hflag : flag ∈ bodyFlags) :
    flag ∈ flags t op
      ↔ flag ∉ t.reservedOptionNames.map Text.lowered
        ∧ flag ∈ (optionNames op).map (flagBase t) := by
  have hfixed : ∀ w ∈ bodyFlags, Text.lowered w = w ∧ w ≠ Text.lowered "help" := by decide
  obtain ⟨hown, hhelp⟩ := hfixed flag hflag
  have honly : ∀ x other, (flagChain t x).Has other → Text.lowered other = Text.lowered flag →
      other = firstFlag t x := by
    intro x other hhas heq
    rw [lowered_eq_of_has_flagChain t hhas, hown] at heq
    subst heq
    exact eq_firstFlag_of_has t hflag hhas
  have hfree : (takenFlags t).contains flag = false
      ↔ flag ∉ t.reservedOptionNames.map Text.lowered := by
    unfold takenFlags
    rw [Taken.contains_ofList_eq_false_iff, hown]
    simp only [List.mem_append, List.mem_singleton, List.mem_map]
    constructor
    · rintro hall ⟨taken, htaken, heq⟩
      exact hall taken (Or.inl htaken) heq.symm
    · rintro hno taken (htaken | rfl) heq
      · exact hno ⟨taken, htaken, heq.symm⟩
      · exact hhelp heq
  rw [flags_eq, Taken.mem_claimAll_map_iff _ (by rintro (p | p) <;> rfl) honly, hfree,
    map_firstFlag_optionSources, hown]
  refine and_congr_right fun _ => ⟨List.mem_of_find?_eq_some, fun hmem => ?_⟩
  -- all of them are slugs, so the first one that is the flag up to case is the flag
  have hsome : ((optionNames op).map (flagBase t)).find? (Text.lowered · == flag) ≠ none := by
    intro hnone
    have hother := List.find?_eq_none.mp hnone flag hmem
    rw [hown] at hother
    exact hother (beq_self_eq_true flag)
  obtain ⟨other, hother⟩ := Option.ne_none_iff_exists'.mp hsome
  obtain ⟨name, -, rfl⟩ := List.mem_map.mp (List.mem_of_find?_eq_some hother)
  have heq : Text.lowered (flagBase t name) = flag := by simpa using List.find?_some hother
  rw [hother, ← heq, (isName_flagBase t name).lowered_eq]

/-- The flags are different unless one for a body as a whole, which is no reserved option name, is
what the flag of some wire name starts from. -/
theorem nodup_optionFlags_iff (c : Command) :
    (ofCommand t c).optionFlags.Nodup
      ↔ (c.operation.hasBody = true → ∀ flag ∈ bodyFlags,
          flag ∈ (optionNames c.operation).map (flagBase t) →
            flag ∈ t.reservedOptionNames.map Text.lowered) := by
  obtain ⟨hclaimed, -⟩ := nodup_help_flags t c.operation
  rw [(optionFlags_perm t c).nodup_iff]
  cases hbody : c.operation.hasBody with
  | false => simpa [hbody] using hclaimed
  | true =>
      obtain ⟨hhelp, hflags⟩ := List.nodup_cons.mp hclaimed
      have hfixed : ("help" :: bodyFlags).Nodup := by decide
      obtain ⟨hhelpBody, hbodyFlags⟩ := List.nodup_cons.mp hfixed
      have happart : ("help" :: (bodyFlags ++ flags t c.operation)).Nodup
          ↔ ∀ flag ∈ bodyFlags, flag ∉ flags t c.operation := by
        rw [List.nodup_cons, List.nodup_append', List.mem_append, not_or,
          and_iff_right ⟨hhelpBody, hhelp⟩, and_iff_right hbodyFlags, and_iff_right hflags]
        rfl
      rw [if_pos rfl, happart, forall_prop_of_true rfl]
      refine forall₂_congr fun flag hflag => ?_
      rw [mem_flags_iff t c.operation hflag, not_and', Decidable.not_not]

/-- With the standard tables, which reserve those for a body as a whole, they are different. -/
theorem nodup_optionFlags_standard (c : Command) :
    (ofCommand Tables.standard c).optionFlags.Nodup := by
  have hreserved : ∀ flag ∈ bodyFlags,
      flag ∈ Tables.standard.reservedOptionNames.map Text.lowered := by decide
  exact (nodup_optionFlags_iff _ c).mpr fun _ flag hflag _ => hreserved flag hflag

/-- The flags that a handler is given options by are that for help, those for a body as a whole if
there is a body, and one for each query parameter and each field with an option. The last are
different, none is that for help, and none is reserved. But they are not kept apart from those for
a body: all flags are different exactly if each of these, when the flag of some wire name starts
from it, is reserved. Each flag stands in the declaration of its parameter. -/
theorem option_flags_apart_iff (t : Tables) (c : Command) :
    (ofCommand t c).optionFlags.Perm
        ("help" :: ((if c.operation.hasBody then bodyFlags else []) ++ flags t c.operation))
      ∧ (flags t c.operation).length
          = c.operation.queryParameters.length + (optionProperties c.operation).length
      ∧ ("help" :: flags t c.operation).Nodup
      ∧ (∀ flag ∈ flags t c.operation, flag ∉ t.reservedOptionNames)
      ∧ ((ofCommand t c).optionFlags.Nodup
          ↔ (c.operation.hasBody = true → ∀ flag ∈ bodyFlags,
              flag ∈ (optionNames c.operation).map (flagBase t) →
                flag ∈ t.reservedOptionNames.map Text.lowered))
      ∧ ∀ p ∈ (ofCommand t c).parameters, ∀ flag, p.flag? = some flag →
          ∃ front back, p.text = front ++ Text.quoted (HandlerParameter.dashed flag) ++ back := by
  obtain ⟨hclaimed, hreserved⟩ := nodup_help_flags t c.operation
  exact ⟨optionFlags_perm t c, length_flags t c.operation, hclaimed, hreserved,
    nodup_optionFlags_iff t c, fun _ _ _ hflag => HandlerParameter.exists_text_eq_of_flag? hflag⟩

/-- Tables that reserve no option name. -/
def noReserved : Entries := [(.text "reserved_option_names", .list [])]

/-- A command with a field called like an option for a body as a whole. -/
def setCommand : Command :=
  { operation :=
      { tag := "Things"
        method := .post
        path := "/things"
        id := "addThing"
        methodName := "addThing"
        hasBody := true
        bodyProperties := [{ name := "set", kind := .scalar }] }
    name := "add"
    handler := "addThing" }

/-- With these tables two of its options have the same flag. -/
theorem setCommand_flags_same :
    ∃ t, Tables.standard.withOverrides .lax noReserved = .ok t
      ∧ flags t setCommand.operation = ["set"]
      ∧ ¬(ofCommand t setCommand).optionFlags.Nodup := by
  let t : Tables := { Tables.standard with reservedOptionNames := [] }
  have hlib := ModelLibrary.lawful_lax
  have ht : Tables.standard.withOverrides .lax noReserved = .ok t := by
    refine Tables.withOverrides_singleton hlib (Tables.accepted_standard hlib)
      (c := ⟨.reservedOptionNames, Tables.reservedOptionNames⟩)
      (List.mem_of_getElem? (i := 21) rfl) rfl ?_
    simp [Tables.columns, t]
  obtain ⟨-, -, -, -, hiff, -⟩ := option_flags_apart_iff t setCommand
  refine ⟨t, ht, by decide +kernel, fun hnodup => ?_⟩
  have hreserved := hiff.mp hnodup rfl "set" (by decide) (by decide +kernel)
  exact absurd hreserved (by decide)

end Handler

end ApiCommands
