/-
Names that generated methods share with the client they extend.

# Attributes

The client has methods of its own, and keeps state on every instance
(`Client.ownMethods`, `Client.ownState`). A generated method of such a name is not
reached, or replaces what the client itself calls. Of these names all are
reserved but two, the delay function and the connection: nothing keeps generated
methods away from them (`Client.mem_reservedMethods_or_unreserved`).

# Which of them a method can have

The two names do not end in a method, so they are names of methods only as first
choices of operations. Such a name goes to the first operation, in the order of
the document, that has it as its first choice, in this case or another
(`method_hides_attribute_iff`).
-/
import ApiCommands.Proofs.Artifact.Generation
import ApiCommands.Proofs.Naming.MethodName

namespace ApiCommands

-- ====================================================== attributes

namespace Client

/-- The methods that the client has without any operation. -/
def ownMethods : List String :=
  ["__init__", "from_env", "__enter__", "__exit__", "close", "expand_path", "call", "retry_delay"]

/-- What a client keeps on itself: its address, its attempts, its delay function, its
connection. -/
def ownState : List String := ["base_url", "max_attempts", "_sleep", "_http"]

/-- Attributes that no list of reserved names holds. -/
def unreserved : List String := ["_sleep", "_http"]

/-- An attribute is either reserved or one of the two that are not. -/
theorem mem_reservedMethods_or_unreserved :
    ∀ name ∈ ownMethods ++ ownState,
      (name ∈ reservedMethods ∧ name ∉ unreserved)
        ∨ ((Taken.ofList reservedMethods).contains name = false ∧ name ∈ unreserved) := by
  decide

/-- The names that are not reserved are their own lower case, and do not end in a method. -/
theorem unreserved_spelling {name : String} (h : name ∈ unreserved) :
    Text.lowered name = name ∧ ¬EndsInMethod name := by
  have hall : ∀ name ∈ unreserved,
      Text.lowered name = name ∧ name.toList.getLast? = some 'p' := by decide
  obtain ⟨hlowered, hlast⟩ := hall name h
  refine ⟨hlowered, not_endsInMethod_of_no_digit (by rw [hlast]; rfl) fun m hsuffix => ?_⟩
  have hend := m.getLast?_name
  rw [← Method.getLast?_of_isSuffix hsuffix, hlast] at hend
  revert hend
  decide

end Client

-- ====================================================== which methods are attributes

namespace Tables

variable (t : Tables) {reserved : List String} {ops : List Operation} {name : String}

/-- A free name that does not end in a method is given to the first operation that has it as its
first choice, in this case or another, and to no other. -/
theorem exists_methodName_eq_iff (hlowered : Text.lowered name = name)
    (hmethod : ¬EndsInMethod name) (hfree : (Taken.ofList reserved).contains name = false) :
    (∃ op ∈ t.claimMethodNames reserved ops, op.methodName = name)
      ↔ (ops.map fun op => t.methodBase op.id op.path).find?
          (fun base => Text.lowered base == name) = some name := by
  have honly : ∀ (op : Operation) (other : String),
      (t.methodCandidates op.id op.path op.method).Has other →
        Text.lowered other = Text.lowered name → other = t.methodBase op.id op.path := by
    intro op other hhas heq
    refine t.eq_methodBase_of_has hhas ?_
    rw [heq, hlowered]
    exact hmethod
  rw [← List.mem_map, map_methodName_claimMethodNames,
    Taken.mem_claimAll_map_iff _ (fun _ => rfl) honly, hlowered]
  exact and_iff_right hfree

end Tables

namespace Generator

variable {g : Generator} {document : Value} {a : Analysis}

/-- Which attributes of the client a generated method hides or replaces. It is none of those that
are reserved. Each of the other two is the name of a method exactly if an operation has it as its
first choice, earlier operations with that choice in another case apart. -/
theorem method_hides_attribute_iff (h : (g.analyze document).outcome = .ok (some a)) :
    ∀ name ∈ Client.ownMethods ++ Client.ownState,
      (∃ op ∈ a.operations, op.methodName = name)
        ↔ name ∈ Client.unreserved
          ∧ (a.operations.map fun op => g.tables.methodBase op.id op.path).find?
              (fun base => Text.lowered base == name) = some name := by
  have hops := (outcome_analyze_eq_ok_some_iff.mp h).operations
  intro name hname
  rcases Client.mem_reservedMethods_or_unreserved name hname with ⟨hreserved, hnot⟩ | ⟨hfree, hopen⟩
  · constructor
    · intro hmethod
      obtain ⟨op, hop, heq⟩ := hmethod
      exact absurd (congrArg Text.lowered heq) (Api.methodName_free hops hop name hreserved)
    · intro hopen
      exact absurd hopen.1 hnot
  · obtain ⟨hlowered, hmethod⟩ := Client.unreserved_spelling hopen
    obtain ⟨named, read, -, -, hread⟩ := Api.outcome_operations_eq_ok_iff.mp hops
    have hbases : (a.operations.map fun op => g.tables.methodBase op.id op.path)
        = read.map fun op => g.tables.methodBase op.id op.path := by
      rw [hread]
      exact Tables.map_claimMethodNames fun _ _ => rfl
    rw [hbases, hread, g.tables.exists_methodName_eq_iff hlowered hmethod hfree]
    exact (and_iff_right hopen).symm

end Generator

-- ====================================================== an operation called `_http`

namespace HttpOperation

/-- A document whose one operation is called like the connection of the client. -/
def document : Value :=
  .map
    [(.text "paths", .map [(.text "/users", TwinTags.item "_http" "Users")]),
     (.text "components", .map [(.text "schemas", .map [])])]

/-- The operations of the document. -/
def operations : List Operation := [TwinTags.operation "/users" "_http" "Users"]

/-- The analysis of the document. -/
def analysis : Analysis := TwinTags.generator.analysisOf operations

/-- The document has this analysis. -/
theorem analyzes : TwinTags.generator.Analyzes document analysis := by
  refine Generator.analyzes_analysisOf (by decide) ?_ (by decide) (by decide)
  rw [Api.outcome_operations_eq_ok_iff]
  refine ⟨[("/users", TwinTags.item "_http" "Users")], operations, rfl, ?_, by decide⟩
  exact congrArg Noted.outcome
    (TwinTags.readOperations_items [("/users", "_http", "Users")] (by decide))

end HttpOperation

/-- The method of an operation `_http` has the name under which the client keeps its connection. -/
theorem Generator.httpOperation_hides_connection :
    (TwinTags.generator.analyze HttpOperation.document).outcome
        = .ok (some HttpOperation.analysis)
      ∧ "_http" ∈ Client.ownMethods ++ Client.ownState
      ∧ ∃ op ∈ HttpOperation.analysis.operations, op.methodName = "_http" := by
  have h := outcome_analyze_eq_ok_some_iff.mpr HttpOperation.analyzes
  have hattribute : "_http" ∈ Client.ownMethods ++ Client.ownState := by decide
  exact ⟨h, hattribute, (method_hides_attribute_iff h "_http" hattribute).mpr (by decide)⟩

end ApiCommands
