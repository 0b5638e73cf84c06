/-
How handlers call the methods of the client.

# One order

A handler and a method are made apart, each with identifiers of its own. What
they share is the list of path parameters: the handler declares an argument for
each and passes them on in this order (`Handler.callArguments_eq`), and the
method takes them in this order. So values go from one to the other by their
places, and the names on both sides need not agree.

# From places to placeholders

The list starts with the parameters of the placeholders, each placeholder once,
from left to right. So the value at the place of a placeholder is the one that
ends up in its place in the path, as often as it occurs there
(`ClientMethod.expand_pathArguments`), and the order in which parameters are
declared plays no part.
-/
import ApiCommands.Artifact.Handler
import ApiCommands.Proofs.Artifact.ClientModule
import Mathlib.Data.List.GetD

namespace ApiCommands

-- ====================================================== what a handler passes on

namespace Handler

variable (t : Tables) (c : Command)

/-- The identifiers of a handler's path arguments. -/
def pathIdentifiers : List String :=
  (identifiers t c.operation).take c.operation.pathParameters.length

theorem length_pathIdentifiers :
    (pathIdentifiers t c).length = c.operation.pathParameters.length := by
  unfold pathIdentifiers identifiers wireNames
  simp only [List.length_take, Tables.length_parameterNames, List.length_append, List.length_map]
  omega

theorem nodup_pathIdentifiers : (pathIdentifiers t c).Nodup :=
  (Tables.nodup_parameterNames _ _ _).sublist (List.take_sublist _ _)

/-- A handler declares its path parameters first, after the context. -/
theorem exists_parameters_eq :
    ∃ others, (ofCommand t c).parameters
      = .context :: argumentsOf c.operation.pathParameters (pathIdentifiers t c) ++ others := by
  unfold ofCommand
  dsimp only
  rw [List.append_assoc, List.append_assoc, List.append_assoc]
  exact ⟨_, rfl⟩

/-- A handler passes on its path arguments first, then the body if the operation has one, then the
query. -/
theorem callArguments_eq :
    ∃ body query, (ofCommand t c).callArguments
        = (pathIdentifiers t c).map .path ++ (body ++ query)
      ∧ (if c.operation.hasBody then ∃ fields allowed required,
            body = [.body fields allowed required] else body = [])
      ∧ ∀ argument ∈ query, ∃ fields, argument = .query fields := by
  unfold ofCommand
  dsimp only
  rw [List.append_assoc]
  refine ⟨_, _, rfl, ?_, ?_⟩
  · split
    · exact ⟨_, _, _, rfl⟩
    · rfl
  · intro argument hargument
    split at hargument
    · cases hargument
    · exact ⟨_, List.mem_singleton.mp hargument⟩

/-- Behind its path arguments a handler passes on no other, and a body exactly if the operation has
one. -/
theorem exists_callArguments_eq :
    ∃ others, (ofCommand t c).callArguments = (pathIdentifiers t c).map .path ++ others
      ∧ (∀ identifier, CallArgument.path identifier ∉ others)
      ∧ ((∃ fields allowed required, CallArgument.body fields allowed required ∈ others)
          ↔ c.operation.hasBody = true) := by
  obtain ⟨body, query, heq, hbody, hquery⟩ := callArguments_eq t c
  refine ⟨body ++ query, heq, fun identifier hmem => ?_, ?_⟩
  · rcases List.mem_append.mp hmem with hleft | hright
    · split at hbody
      · obtain ⟨_, _, _, rfl⟩ := hbody
        simp at hleft
      · rw [hbody] at hleft
        cases hleft
    · obtain ⟨_, hquery⟩ := hquery _ hright
      cases hquery
  · constructor
    · rintro ⟨fields, allowed, required, hmem⟩
      by_contra hnone
      rw [if_neg hnone] at hbody
      rw [hbody, List.nil_append] at hmem
      obtain ⟨_, heq⟩ := hquery _ hmem
      cases heq
    · intro hhas
      rw [if_pos hhas] at hbody
      obtain ⟨fields, allowed, required, rfl⟩ := hbody
      exact ⟨fields, allowed, required, by simp⟩

end Handler

-- ====================================================== what a method takes

namespace ClientMethod

variable (t : Tables) {op : Operation}

/-- The parameters of a method: itself, those of the path, the body if there is one, the query. -/
theorem parameterNames_ofOperation :
    (ofOperation t op).parameterNames
      = ["self"] ++ t.parameterNames reservedArguments (op.pathParameters.map (·.name))
        ++ (if op.hasBody then ["body"] else []) ++ ["query"] := by
  unfold parameterNames declarations
  rw [← map_identifier_arguments]
  have hbody : (ofOperation t op).hasBody = op.hasBody := rfl
  cases h : op.hasBody <;> simp [hbody, h]

/-- All parameters of a method are different: identifiers keep away from the fixed names. -/
theorem nodup_parameterNames : (ofOperation t op).parameterNames.Nodup := by
  have hfixed : (["self"] ++ ((if op.hasBody then ["body"] else []) ++ ["query"])).Nodup
      ∧ ∀ name ∈ ["self"] ++ ((if op.hasBody then ["body"] else []) ++ ["query"]),
          name ∈ reservedArguments := by
    cases op.hasBody <;> decide
  rw [parameterNames_ofOperation, List.append_assoc, List.append_assoc,
    (List.perm_append_comm_assoc _ _ _).nodup_iff, List.nodup_append]
  refine ⟨t.nodup_parameterNames _ _, hfixed.1, ?_⟩
  rintro identifier hidentifier name hname rfl
  exact t.parameterNames_free _ _ hidentifier (hfixed.2 _ hname)

/-- A method has a parameter for the body exactly if the operation has one. -/
theorem body_mem_parameterNames_iff :
    "body" ∈ (ofOperation t op).parameterNames ↔ op.hasBody = true := by
  have hfree : "body" ∉ t.parameterNames reservedArguments (op.pathParameters.map (·.name)) :=
    fun h => t.parameterNames_free _ _ h (by decide)
  rw [parameterNames_ofOperation]
  cases op.hasBody <;> simp [hfree]

/-- A call that gives all values expands the path: every placeholder becomes the escapes of the
value at its place. -/
theorem expand_pathArguments [Text.Halves] (hcovers : op.CoversPlaceholders) {values : List Value}
    (hlen : values.length = op.pathParameters.length)
    (hvalues : ∀ v ∈ values, v.isMissing = false) :
    PathTemplate.expand op.path ((ofOperation t op).pathArguments values)
      = PathTemplate.fillWith (fun name =>
          (values.getD (op.placeOf (String.ofList name)) .null).escaped) op.path := by
  refine PathTemplate.expand_eq_fillWith fun name hname => ?_
  obtain ⟨hk, hkey⟩ := Operation.key_at_placeOf hcovers hname
  have hvalue : op.placeOf (String.ofList name) < values.length := by rw [hlen]; exact hk
  rw [List.getD_eq_getElem _ _ hvalue]
  refine Arguments.given?_of_find? (find?_pathArguments t hlen hname hk hkey) ?_
  exact hvalues _ (List.getElem_mem hvalue)

/-- Where every value has a text with bytes, the path of a call is the template with the escapes of
these texts in place. -/
theorem expand_pathArguments_ok [Text.Halves] (hcovers : op.CoversPlaceholders)
    {values : List Value} {texts : List String} (hlen : values.length = op.pathParameters.length)
    (hvalues : ∀ v ∈ values, v.isMissing = false)
    (htexts : List.Forall₂ (fun v text => v.argumentText = .ok text
      ∧ Text.hasBytes text.toList = true) values texts) :
    PathTemplate.expand op.path ((ofOperation t op).pathArguments values)
      = .ok (String.ofList ((PathTemplate.parts op.path.toList).flatMap fun
          | .literal c => [c]
          | .placeholder name => Text.Percent.encode
              (texts.getD (op.placeOf (String.ofList name)) "").toList)) := by
  rw [expand_pathArguments t hcovers hlen hvalues]
  refine (PathTemplate.fillWith_congr fun name hname => ?_).trans (PathTemplate.fillWith_ok
    (fun name => Text.Percent.encode
      (texts.getD (op.placeOf (String.ofList name)) "").toList) op.path)
  obtain ⟨hk, -⟩ := Operation.key_at_placeOf hcovers hname
  have hvalue : op.placeOf (String.ofList name) < values.length := by rw [hlen]; exact hk
  have htext : op.placeOf (String.ofList name) < texts.length := htexts.length_eq ▸ hvalue
  obtain ⟨hwritten, hbytes⟩ := htexts.get hvalue htext
  rw [List.getD_eq_getElem _ _ hvalue, List.getD_eq_getElem _ _ htext]
  exact Value.escaped_eq_ok_iff.mpr ⟨_, hwritten, hbytes, rfl⟩

end ClientMethod

-- ====================================================== from the handler to the path

namespace Handler

/-- A handler and the method it calls agree on every operation whose placeholders all have a
parameter. Both go through one list of path parameters, which is that of the different
placeholders from left to right and then the others; the handler passes a body exactly if the
method takes one. And a call that gives the arguments of the method values which are not blank
fills each placeholder, wherever and in whatever case it occurs, with the escapes of the value at
its place. -/
theorem call_fills_placeholders_in_order [Text.Halves] (t : Tables) (c : Command)
    (hcovers : ∀ name ∈ c.operation.placeholders,
      ∃ p ∈ c.operation.pathParameters, Text.lowered p.name = Text.lowered name) :
    (∃ identifiers declared others,
        identifiers.length = c.operation.pathParameters.length ∧ identifiers.Nodup
        ∧ (ofCommand t c).parameters
            = .context :: argumentsOf c.operation.pathParameters identifiers ++ declared
        ∧ (ofCommand t c).callArguments = identifiers.map .path ++ others
        ∧ (∀ identifier, CallArgument.path identifier ∉ others)
        ∧ ((∃ fields allowed required, CallArgument.body fields allowed required ∈ others)
            ↔ "body" ∈ (ClientMethod.ofOperation t c.operation).parameterNames))
      ∧ (ClientMethod.ofOperation t c.operation).parameterNames.Nodup
      ∧ (ClientMethod.ofOperation t c.operation).signature
          = Text.joined ", " ((ClientMethod.ofOperation t c.operation).declarations.map fun d =>
              d.1 ++ d.2)
      ∧ (ClientMethod.ofOperation t c.operation).arguments.map (fun a => Text.lowered a.placeholder)
          = c.operation.pathParameters.map (fun p => Text.lowered p.name)
      ∧ (∃ others, c.operation.pathParameters.map (fun p => Text.lowered p.name)
            = (c.operation.placeholders.map Text.lowered).eraseDups ++ others)
      ∧ ((c.operation.declaredPath.map fun p => Text.lowered p.name).Nodup →
          c.operation.pathParameters.Perm c.operation.declaredPath)
      ∧ ∀ values, values.length = (ClientMethod.ofOperation t c.operation).arguments.length →
          (∀ v ∈ values, v.isMissing = false) →
            PathTemplate.expand (ClientMethod.ofOperation t c.operation).path
                ((ClientMethod.ofOperation t c.operation).pathArguments values)
              = PathTemplate.fillWith (fun name =>
                  (values.getD (c.operation.placeOf (String.ofList name)) .null).escaped)
                  c.operation.path
            ∧ ∀ texts, List.Forall₂ (fun v text => v.argumentText = .ok text
                ∧ Text.hasBytes text.toList = true) values texts →
                PathTemplate.expand (ClientMethod.ofOperation t c.operation).path
                    ((ClientMethod.ofOperation t c.operation).pathArguments values)
                  = .ok (String.ofList ((PathTemplate.parts c.operation.path.toList).flatMap fun
                      | .literal char => [char]
                      | .placeholder name => Text.Percent.encode (texts.getD
                          (c.operation.placeOf (String.ofList name)) "").toList)) := by
  have hbody : "body" ∈ (ClientMethod.ofOperation t c.operation).parameterNames
      ↔ c.operation.hasBody = true := ClientMethod.body_mem_parameterNames_iff t
  obtain ⟨declared, hparameters⟩ := exists_parameters_eq t c
  obtain ⟨others, hcall, hpath, hothers⟩ := exists_callArguments_eq t c
  refine ⟨⟨pathIdentifiers t c, declared, others, length_pathIdentifiers t c,
    nodup_pathIdentifiers t c, hparameters, hcall, hpath, hothers.trans hbody.symm⟩,
    ClientMethod.nodup_parameterNames t, ClientMethod.signature_eq _,
    ClientMethod.map_key_arguments t, ⟨_, Operation.map_key_pathParameters hcovers⟩,
    Operation.pathParameters_perm, fun values hlen hvalues => ?_⟩
  rw [ClientMethod.length_arguments] at hlen
  exact ⟨ClientMethod.expand_pathArguments t hcovers hlen hvalues,
    fun _ htexts => ClientMethod.expand_pathArguments_ok t hcovers hlen hvalues htexts⟩

/-- A command whose path names its user twice, in two spellings, and whose parameters are declared
in another order. -/
def contactCommand : Command :=
  { operation :=
      { tag := "Users"
        method := .post
        path := "/users/{userId}/contacts/{contactId}/{USERID}"
        id := "linkContact"
        methodName := "linkContact"
        parameters :=
          [{ name := "contactid", location := .path }, { name := "userid", location := .path }]
        hasBody := true }
    name := "link"
    handler := "linkContact" }

/-- Its handler and its method agree on the order of the template, and both occurrences of the user
become the first value. -/
theorem contactCommand_call_fills_placeholders :
    (∀ name ∈ contactCommand.operation.placeholders,
      ∃ p ∈ contactCommand.operation.pathParameters, Text.lowered p.name = Text.lowered name)
      ∧ (ClientMethod.ofOperation Tables.standard contactCommand.operation).arguments.map
          (fun a => Text.lowered a.placeholder) = ["userid", "contactid"]
      ∧ PathTemplate.expand
          (ClientMethod.ofOperation Tables.standard contactCommand.operation).path
          ((ClientMethod.ofOperation Tables.standard contactCommand.operation).pathArguments
            [.text "user 1", .text "c/2"])
        = .ok "/users/user%201/contacts/c%2F2/user%201" := by
  have hcovers : ∀ name ∈ contactCommand.operation.placeholders,
      ∃ p ∈ contactCommand.operation.pathParameters, Text.lowered p.name = Text.lowered name := by
    decide +kernel
  obtain ⟨-, -, -, hkeys, -, -, hexpand⟩ :=
    call_fills_placeholders_in_order Tables.standard contactCommand hcovers
  have hpath := (hexpand [.text "user 1", .text "c/2"] (by decide +kernel)
    (by decide)).2 ["user 1", "c/2"]
    (.cons ⟨rfl, by decide⟩ (.cons ⟨rfl, by decide⟩ .nil))
  exact ⟨hcovers, hkeys.trans (by decide +kernel),
    hpath.trans (congrArg Except.ok (by decide +kernel))⟩

end Handler

end ApiCommands
