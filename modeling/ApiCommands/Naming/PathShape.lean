/-
Path shapes: everything the naming rules look at.

The shape of an operation is computed once, from its path, method, tag and id
and from the set of collection paths that have an item below them. Rules then
test its marks and fill their templates from its texts.
-/
import ApiCommands.Naming.Segment
import ApiCommands.Spec.Operation

namespace ApiCommands

/-- What the naming rules see of an operation. -/
structure PathShape where
  method : Method
  segmentCount : Nat
  literalCount : Nat
  lastIsParam : Bool
  isCurrentEntity : Bool
  isNameParam : Bool
  tagMatches : Bool
  resourceIsPlural : Bool
  hasItemPath : Bool
  isAction : Bool
  hasParamBeforeLast : Bool
  resource : String
  rawResource : String
  item : String
  parent : String
  action : String
  param : String
  entity : String
  firstSegment : String
  opId : String
  deriving DecidableEq, Repr

namespace PathShape

/-- One literal segment. -/
def isTopLevel (s : PathShape) : Bool := s.literalCount == 1

/-- Two literal segments or more. -/
def isNested (s : PathShape) : Bool := decide (1 < s.literalCount)

/-- One segment of either kind. -/
def isSingleSegment (s : PathShape) : Bool := s.segmentCount == 1

end PathShape

/-- The path an item path hangs under, if the path ends in a parameter. -/
def collectionPath? (op : Operation) : Option String :=
  match op.segments.reverse with
  | last :: before =>
    if PathTemplate.isParam last then some ("/" ++ Text.joined "/" before.reverse) else none
  | [] => none

/-- The collection paths that have an item below them. -/
def collectionPaths (ops : List Operation) : List String :=
  (ops.filterMap collectionPath?).eraseDups

namespace Tables

/-- What the last literal belongs to: the singular of the literal in front of it, if there is
one. -/
def ownerName (t : Tables) (literals : List String) : Except Fault String :=
  match literals.dropLast.getLast? with
  | some owner => singularize <$> t.resourceName owner
  | none => .ok ""

/-- What is done at the last literal: an action with its parent in the name, anything else by its
own. -/
def actionName (t : Tables) (segments : List String) (isAction : Bool) (resource : String) :
    Except Fault String :=
  if isAction then actionWithParent resource <$> t.actionParent segments else .ok resource

end Tables

/-- The shape of an operation among operations with these collection paths. -/
def Tables.shape (t : Tables) (collections : List String) (op : Operation) :
    Except Fault PathShape := do
  let segments := op.segments
  let last := segments.getLast?.getD ""
  let lastIsParam := PathTemplate.isParam last
  let param := if lastIsParam then PathTemplate.paramName last else ""
  let literals := segments.filter (!PathTemplate.isParam ·)
  let lastLiteral := literals.getLast?.getD ""
  let expanded := t.expandSegment lastLiteral
  let isAction := t.isAction expanded
  let resource ← t.kebab expanded
  let isPlural := t.isPlural resource
  let tagName ← t.kebab (t.expandSegment op.tag)
  let rawResource ← t.kebab lastLiteral
  let parent ← t.ownerName literals
  let action ← t.actionName segments isAction resource
  let paramSlug ← t.kebab param
  let firstSegment ← t.kebab (segments.head?.getD "")
  let opId ← t.kebab op.id
  return {
    method := op.method
    segmentCount := segments.length
    literalCount := literals.length
    lastIsParam := lastIsParam
    isCurrentEntity := last != "" && t.isCurrentEntity last
    isNameParam := param != "" && t.isNameLike param
    tagMatches := Text.lowered resource == Text.lowered tagName
    resourceIsPlural := isPlural
    hasItemPath := collections.contains op.path
    isAction := isAction
    hasParamBeforeLast := segments.dropLast.any PathTemplate.isParam
    resource := resource
    rawResource := rawResource
    item := if isPlural then singularize resource else resource
    parent := parent
    action := action
    param := paramSlug
    entity := Text.lowered last
    firstSegment := firstSegment
    opId := opId }

end ApiCommands
