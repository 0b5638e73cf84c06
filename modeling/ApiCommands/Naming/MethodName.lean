/-
Method and handler names: identifiers for operations.

The candidates of an operation are its id as an identifier, then that with the
path and the method behind it, then numbers. An id that says no more than the
method takes the path along from the start.
-/
import ApiCommands.Naming.Identifier
import ApiCommands.Naming.Taken
import ApiCommands.Naming.Words
import ApiCommands.Spec.Operation

namespace ApiCommands

/-- A segment inside a name: a parameter `x` as `ByX`. -/
def Tables.segmentName (t : Tables) (segment : String) : String :=
  if PathTemplate.isParam segment then "By" ++ t.pascal (PathTemplate.paramName segment)
  else t.pascal segment

/-- A path in one name. -/
def Tables.pathName (t : Tables) (path : String) : String :=
  String.join ((PathTemplate.segments path).map t.segmentName)

/-- The first choice for an operation's name. -/
def Tables.methodBase (t : Tables) (id path : String) : String :=
  let base := Identifier.ofString id
  if t.genericOperationIds.contains base then Identifier.ofString (base ++ t.pathName path)
  else base

/-- Identifiers for an operation. -/
def Tables.methodCandidates (t : Tables) (id path : String) (method : Method) : Candidates :=
  let base := t.methodBase id path
  let qualified := Identifier.ofString (base ++ t.pathName path ++ method.verb)
  ⟨[base, qualified], qualified⟩

end ApiCommands
