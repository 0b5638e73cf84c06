/-
Naming rules: the decision table behind base names.

A rule applies to one method, or to any, and to the shapes its test accepts; its
template is a row of texts and fields of the shape. The first rule of a table
that applies decides. `Rule.standard` is the table in use; methods without rows
and templates that come out empty leave the choice to the operation id.
-/
import ApiCommands.Naming.PathShape
import ApiCommands.Naming.Slug

namespace ApiCommands

/-- A piece of a rule's template. -/
inductive NamePiece where
  | text (s : String)
  | field (read : PathShape → String)

/-- A row of the decision table. -/
structure Rule where
  name : String
  /-- The method the rule is for; `none` for any. -/
  method : Option Method
  test : PathShape → Bool
  template : List NamePiece

namespace Rule

/-- The rule accepts the shape. -/
def applies (r : Rule) (s : PathShape) : Bool :=
  (r.method.all (· == s.method)) && r.test s

/-- The name the rule gives to a shape. -/
def render (r : Rule) (s : PathShape) : String :=
  r.template.foldl (fun name piece =>
    name ++ match piece with
      | .text s => s
      | .field read => read s) ""

/-- The first rule that applies. -/
def first? (rules : List Rule) (s : PathShape) : Option Rule := rules.find? (·.applies s)

/-- The name that the first rule which applies gives, and its own name, if it gives any. -/
def nameOf? (rules : List Rule) (s : PathShape) : Option (String × String) :=
  match first? rules s with
  | none => none
  | some rule =>
    let name := slug (rule.render s)
    if name = "" then none else some (name, rule.name)

/-- Ends in a parameter under one literal that is not the tag's. -/
def itemUntagged (s : PathShape) : Bool := s.lastIsParam && s.isTopLevel && !s.tagMatches

/-- Ends in a parameter under several literals. -/
def nestedItem (s : PathShape) : Bool := s.lastIsParam && s.isNested

/-- Ends in a parameter, or is one segment. -/
def itemOrSingle (s : PathShape) : Bool := s.lastIsParam || s.isSingleSegment

/-- Is one literal segment. -/
def topCollection (s : PathShape) : Bool := !s.lastIsParam && s.isSingleSegment

/-- Has several literals, a parameter before the last segment, and a parent. -/
def nestedWithParent (s : PathShape) : Bool :=
  s.isNested && s.hasParamBeforeLast && s.parent != ""

/-- Accepts every shape. -/
def always (_ : PathShape) : Bool := true

/-- The rules for every method. -/
def forAny : List Rule :=
  [⟨"empty-path", none, fun s => s.segmentCount == 0, [.field (·.opId)]⟩,
    ⟨"current-entity", none, fun s => s.isCurrentEntity && s.isSingleSegment, [.field (·.entity)]⟩,
    ⟨"nested-current-entity", none, (·.isCurrentEntity),
      [.field (·.firstSegment), .text "-", .field (·.entity)]⟩]

/-- The rules for reading. -/
def forGet : List Rule :=
  [⟨"get-by-name", some .get, (·.isNameParam), [.text "get-by-", .field (·.param)]⟩,
    ⟨"get-item-untagged", some .get, itemUntagged, [.text "get-", .field (·.item)]⟩,
    ⟨"get-nested-item", some .get, nestedItem, [.text "get-", .field (·.item)]⟩,
    ⟨"get", some .get, (·.lastIsParam), [.text "get"]⟩,
    ⟨"list", some .get, fun s => topCollection s && s.resourceIsPlural && s.tagMatches,
      [.text "list"]⟩,
    ⟨"list-resource", some .get, fun s => topCollection s && s.resourceIsPlural,
      [.text "list-", .field (·.resource)]⟩,
    ⟨"get-tag-resource", some .get, fun s => topCollection s && s.tagMatches,
      [.text "get-", .field (·.rawResource)]⟩,
    ⟨"get-resource", some .get, topCollection, [.text "get-", .field (·.resource)]⟩,
    ⟨"list-parent-resource", some .get, fun s => nestedWithParent s && s.resourceIsPlural,
      [.text "list-", .field (·.parent), .text "-", .field (·.resource)]⟩,
    ⟨"list-nested", some .get, fun s => s.isNested && s.resourceIsPlural,
      [.text "list-", .field (·.resource)]⟩,
    ⟨"list-collection", some .get, fun s => s.isNested && s.hasItemPath,
      [.text "list-", .field (·.resource)]⟩,
    ⟨"get-literal", some .get, always, [.text "get-", .field (·.rawResource)]⟩]

/-- The rules for creating. -/
def forPost : List Rule :=
  [⟨"create", some .post, fun s => s.isSingleSegment && s.tagMatches, [.text "create"]⟩,
    ⟨"create-resource", some .post, (·.isSingleSegment), [.text "create-", .field (·.resource)]⟩,
    ⟨"post-action", some .post, (·.isAction), [.field (·.action)]⟩,
    ⟨"create-nested", some .post, (·.isNested), [.text "create-", .field (·.resource)]⟩,
    ⟨"create-collection", some .post, (·.resourceIsPlural), [.text "create"]⟩,
    ⟨"post-literal", some .post, always, [.field (·.resource)]⟩]

/-- The rules for replacing. -/
def forPut : List Rule :=
  [⟨"put-action", some .put, (·.isAction), [.field (·.action)]⟩,
    ⟨"update-item-untagged", some .put,
      fun s => itemOrSingle s && s.isTopLevel && !s.tagMatches,
      [.text "update-", .field (·.item)]⟩,
    ⟨"update-nested-item", some .put, fun s => itemOrSingle s && s.isNested,
      [.text "update-", .field (·.item)]⟩,
    ⟨"update", some .put, itemOrSingle, [.text "update"]⟩,
    ⟨"update-nested", some .put, (·.isNested), [.text "update-", .field (·.resource)]⟩,
    ⟨"put-literal", some .put, always, [.field (·.rawResource)]⟩]

/-- The rules for changing. -/
def forPatch : List Rule :=
  [⟨"patch-action", some .patch, (·.isAction), [.field (·.action)]⟩,
    ⟨"patch-item-untagged", some .patch, itemUntagged, [.text "patch-", .field (·.item)]⟩,
    ⟨"patch-nested-item", some .patch, nestedItem, [.text "patch-", .field (·.item)]⟩,
    ⟨"patch", some .patch, (·.lastIsParam), [.text "patch"]⟩,
    ⟨"patch-nested", some .patch, (·.isNested), [.text "patch-", .field (·.resource)]⟩,
    ⟨"patch-literal", some .patch, always, [.field (·.rawResource)]⟩]

/-- The rules for deleting. -/
def forDelete : List Rule :=
  [⟨"delete-item-untagged", some .delete, itemUntagged, [.text "delete-", .field (·.item)]⟩,
    ⟨"delete-nested-item", some .delete, nestedItem, [.text "delete-", .field (·.item)]⟩,
    ⟨"delete", some .delete, (·.lastIsParam), [.text "delete"]⟩,
    ⟨"delete-parent-resource", some .delete, nestedWithParent,
      [.text "delete-", .field (·.parent), .text "-", .field (·.resource)]⟩,
    ⟨"delete-nested", some .delete, (·.isNested), [.text "delete-", .field (·.resource)]⟩,
    ⟨"delete-resource", some .delete, fun s => s.isSingleSegment && !s.tagMatches,
      [.text "delete-", .field (·.resource)]⟩,
    ⟨"delete-literal", some .delete, always, [.text "delete-", .field (·.rawResource)]⟩]

/-- The decision table, tried from top to bottom. -/
def standard : List Rule := forAny ++ forGet ++ forPost ++ forPut ++ forPatch ++ forDelete

end Rule

end ApiCommands
