/-
The parameters of an operation.

They are declared on the path and on the operation; a declaration on the
operation replaces one on the path with the same name and location, at its
place. A placeholder that fills a whole segment of the path and has no
declaration is a required path parameter all the same.
-/
import ApiCommands.Schema.Kind

namespace ApiCommands

namespace Value

/-- The truth value `true` stands under the key. -/
def isMarked (name : String) (v : Value) : Bool :=
  match v.get? name with
  | some (bool b) => b
  | _ => false

/-- The text under a key, unless it is blank. -/
def filledText? (name : String) (v : Value) : Option String :=
  (v.text? name).filter fun s => !Text.isBlank s.toList

/-- The items of the list under a key; none if there is no list. -/
def itemsAt (name : String) (v : Value) : List Value :=
  match v.get? name with
  | some (list items) => items
  | _ => []

end Value

namespace Parameter

/-- The two parameters have the same name and location. -/
def sameSlot (p q : Parameter) : Bool := p.name == q.name && p.location == q.location

/-- The parameter in place of the one with its name and location, or at the end. -/
def override (p : Parameter) : List Parameter → List Parameter
  | [] => [p]
  | q :: rest => if q.sameSlot p then p :: rest else q :: override p rest

/-- Parameters one after the other, each over those before it. -/
def overrideAll (parameters : List Parameter) : List Parameter :=
  parameters.foldl (fun merged p => override p merged) []

/-- The required path parameter of this name. -/
def ofPlaceholder (name : String) : Parameter := ⟨name, .path, true, false, none⟩

/-- Path parameters for the names that no key of `known` stands for. -/
def synthesized : (known : List String) → (names : List String) → List Parameter
  | _, [] => []
  | known, name :: rest =>
    if known.contains (Text.lowered name) then synthesized known rest
    else ofPlaceholder name :: synthesized (Text.lowered name :: known) rest

/-- The lower-case names of the path parameters. -/
def pathKeys (parameters : List Parameter) : List String :=
  (parameters.filter (·.location == .path)).map fun p => Text.lowered p.name

/-- The declared parameters, and those for the placeholders of the path without a declaration. -/
def complete (path : String) (declared : List Parameter) : List Parameter :=
  declared ++ synthesized (pathKeys declared)
    (((PathTemplate.segments path).filter PathTemplate.isParam).map PathTemplate.paramName)

end Parameter

namespace Api

/-- The parameter a declaration is of. One without a name, or sent elsewhere, is of none. -/
def parameter? (a : Api) (node : Value) : Noted (Option Parameter) := do
  match ← a.deref node with
  | none => return none
  | some declaration =>
    match declaration.filledText? "name",
        (declaration.text? "in").bind fun s => Location.ofName? (Text.lowered s) with
    | some name, some location =>
      let schema := (← a.deref ((declaration.get? "schema").getD .null)).getD (.map [])
      return some
        { name := name
          location := location
          required := declaration.isMarked "required"
          isArray := schema.type?.any fun type => Text.lowered type == "array"
          description := declaration.text? "description" }
    | _, _ => return none

/-- The parameters a list of declarations is of. -/
def readParameters (a : Api) : List Value → Noted (List Parameter)
  | [] => pure []
  | node :: rest => do
    let parameter ← a.parameter? node
    return parameter.toList ++ (← a.readParameters rest)

/-- The parameters of an operation under a path. -/
def parameters (a : Api) (path : String) (item operation : Value) : Noted (List Parameter) := do
  let shared ← a.readParameters (item.itemsAt "parameters")
  let own ← a.readParameters (operation.itemsAt "parameters")
  return Parameter.complete path (Parameter.overrideAll (shared ++ own))

end Api

end ApiCommands
