/-
Path segments as words: aliases, plurals, singulars, actions.

A segment written in one word is expanded before anything is read off it: the
alias table decides, else an action prefix followed by a known resource is cut
there. On what results, `isPlural` and `isAction` go by the ends of the text,
and `singularize` works on the last word of a slug.
-/
import ApiCommands.Naming.Words
import ApiCommands.Spec.PathTemplate

namespace ApiCommands.Tables

/-- `prefix-rest`, if the rest of the lowered segment after the prefix is a known resource. -/
def compoundAction? (t : Tables) (low : List Char) (pre : String) : Option String :=
  match Text.dropPrefix? pre.toList low with
  | none => none
  | some rest =>
    if t.knownResources.contains (String.ofList rest) then some (pre ++ "-" ++ String.ofList rest)
    else none

/-- A segment with its words apart. -/
def expandSegment (t : Tables) (segment : String) : String :=
  if Text.isBlank segment.toList then segment
  else match t.aliasOf? segment with
    | some a => a
    | none =>
      (t.compoundActionPrefixes.findSome? (t.compoundAction? (Text.lower segment.toList))).getD
        segment

/-- The segment names many things. -/
def isPlural (t : Tables) (token : String) : Bool :=
  !Text.isBlank token.toList &&
    !t.nonPluralPrefixes.any (fun p => p.toList.isPrefixOf token.toList) &&
    ['s'].isSuffixOf (Text.lower token.toList)

/-- The segment names something to do. -/
def isAction (t : Tables) (segment : String) : Bool :=
  !Text.isBlank segment.toList &&
    t.actionPrefixes.any fun p => p.toList.isPrefixOf (Text.lower segment.toList)

/-- The slug of a literal segment. -/
def resourceName (t : Tables) (literal : String) : Except Fault String :=
  t.kebab (t.expandSegment literal)

end ApiCommands.Tables

namespace ApiCommands

/-- `s` without its last `n` characters. -/
def dropEnd (n : Nat) (s : List Char) : List Char := s.take (s.length - n)

/-- A word in the singular: `-ies` becomes `-y`, `-ses` loses `es`, another `-s` is dropped unless
it follows an `s`. -/
def singularWord (word : List Char) : List Char :=
  let low := Text.lower word
  if "ies".toList.isSuffixOf low && decide (3 < word.length) then dropEnd 3 word ++ ['y']
  else if "ses".toList.isSuffixOf low && decide (3 < word.length) then dropEnd 2 word
  else if ['s'].isSuffixOf low && !"ss".toList.isSuffixOf low && decide (1 < word.length) then
    dropEnd 1 word
  else word

/-- The last word of a hyphenated text in the singular. Stray hyphens go. -/
def singularize (s : String) : String :=
  match (Text.partsOn '-' s.toList).reverse with
  | [] => s
  | last :: before =>
    String.ofList (Text.join ['-'] (singularWord last :: before).reverse)

/-- The singular of the literal just before the nearest parameter that comes before the last
segment; empty if no literal stands there. -/
def Tables.actionParent (t : Tables) (segments : List String) : Except Fault String :=
  match (segments.reverse.drop 1).dropWhile (!PathTemplate.isParam ·) with
  | _ :: owner :: _ =>
    if PathTemplate.isParam owner then .ok "" else singularize <$> t.resourceName owner
  | _ => .ok ""

/-- `verb-object` with the parent in between, if the object is some kind of tags and does not name
the parent already. -/
def actionWithParent (action parent : String) : String :=
  if action = "" ∨ parent = "" then action
  else match Text.partsOn '-' action.toList with
    | verb :: next :: more =>
      let object := Text.join ['-'] (next :: more)
      let low := Text.lower object
      if !"tags".toList.isSuffixOf low then action
      else if (Text.lower parent.toList ++ ['-']).isPrefixOf low then action
      else String.ofList (verb ++ '-' :: parent.toList ++ '-' :: object)
    | _ => action

/-- The verbs an operation id may start with. -/
def verbPrefixes : List String := ["Get", "Post", "Put", "Delete", "Patch"]

/-- An operation id without the verb it starts with. -/
def withoutVerb (id : String) : String :=
  ((verbPrefixes.findSome? fun v => Text.dropPrefix? v.toList id.toList).map String.ofList).getD id

end ApiCommands
