/-
The kind of a schema: one value, many, or a mapping.

A schema with a reference has the kind of what the reference leads to, one with
parts that of the first part that has a known kind. Else its type decides, and
without a type an enumeration counts as one value.
-/
import ApiCommands.Schema.Api
import ApiCommands.Spec.Operation

namespace ApiCommands

namespace Value

/-- The names in a list of types. -/
def typeNames (items : List Value) : List String :=
  items.filterMap fun
    | text s => some s
    | _ => none

/-- The type of a schema. Of a list of types it is the first that is not `null`. -/
def type? (schema : Value) : Option String :=
  match schema.get? "type" with
  | some (list items) => (typeNames items).find? (· != "null")
  | some (text s) => some s
  | _ => none

/-- The schema says that it may be null. -/
def isMarkedNullable (schema : Value) : Bool :=
  match schema.get? "nullable" with
  | some (bool b) => b
  | _ => false

/-- The schema may be null, by a mark or by its list of types. -/
def isNullable (schema : Value) : Bool :=
  schema.isMarkedNullable ||
    match schema.get? "type" with
    | some (list items) => (typeNames items).contains "null"
    | _ => false

/-- The parts of a composed schema. -/
def parts? (schema : Value) : Option (List Value) :=
  match schema.get? "allOf" with
  | some (list parts) => some parts
  | _ => none

theorem sizeOf_find?_lt {key : Scalar} {entries : Entries} {v : Value}
    (h : Entries.find? key entries = some v) : sizeOf v < sizeOf entries := by
  induction entries with
  | nil => simp [Entries.find?] at h
  | cons e rest ih =>
    obtain ⟨k, w⟩ := e
    simp only [Entries.find?] at h
    split at h
    · cases h
      simp only [List.cons.sizeOf_spec, Prod.mk.sizeOf_spec]
      omega
    · have := ih h
      simp only [List.cons.sizeOf_spec]
      omega

/-- The value under a key is smaller than its mapping. -/
theorem sizeOf_get?_lt {name : String} {node v : Value} (h : node.get? name = some v) :
    sizeOf v < sizeOf node := by
  cases node with
  | map entries =>
    have := sizeOf_find?_lt (show Entries.find? (.text name) entries = some v from h)
    simp only [map.sizeOf_spec]
    omega
  | _ => simp [get?] at h

/-- The parts of a schema are smaller than the schema. -/
theorem sizeOf_parts?_lt {schema : Value} {parts : List Value} (h : schema.parts? = some parts) :
    sizeOf parts < sizeOf schema := by
  unfold parts? at h
  split at h
  · rename_i found
    cases h
    have := sizeOf_get?_lt found
    simp only [list.sizeOf_spec] at this
    omega
  · cases h

/-- The kind a type stands for. -/
def kindOfType : String → PropertyKind
  | "array" => .array
  | "object" => .object
  | "string" => .scalar
  | "integer" => .scalar
  | "number" => .scalar
  | "boolean" => .scalar
  | _ => .unknown

/-- The kind of a schema by its own type and enumeration. -/
def ownKind (schema : Value) : PropertyKind :=
  match schema.type? with
  | some type => kindOfType type
  | none => if schema.has "enum" then .scalar else .unknown

end Value

namespace Api

mutual

/-- The kind of a schema, with the references that are fresh. -/
def kindWith (a : Api) (fresh : List String) (schema : Value) : Noted PropertyKind := do
  match ← a.follow? fresh schema with
  | some next =>
    have := next.fewer
    a.kindWith next.remaining next.target
  | none =>
    match h : schema.parts? with
    | none => return schema.ownKind
    | some parts =>
      have := Value.sizeOf_parts?_lt h
      match ← a.firstKindWith fresh parts with
      | some kind => return kind
      | none => return schema.ownKind
termination_by (fresh.length, sizeOf schema)

/-- The first known kind among schemas. -/
def firstKindWith (a : Api) (fresh : List String) (schemas : List Value) :
    Noted (Option PropertyKind) :=
  match schemas with
  | [] => pure none
  | schema :: rest => do
    match ← a.kindWith fresh schema with
    | .unknown => a.firstKindWith fresh rest
    | kind => return some kind
termination_by (fresh.length, sizeOf schemas)

end

/-- The kind of a schema. -/
def kind (a : Api) (schema : Value) (seen : List String := []) : Noted PropertyKind :=
  a.kindWith (a.fresh seen schema) schema

end Api

end ApiCommands
