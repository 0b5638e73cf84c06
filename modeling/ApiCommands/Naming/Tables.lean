/-
Naming tables: the vocabulary of every naming and grouping decision.

Tables are plain values handed to whoever decides; nothing is global. Keys and
members that are looked up without regard to case are stored in lower case, and
every lookup lowers its argument. Ordered lists are tried in their order.
-/
import ApiCommands.Naming.Domain
import ApiCommands.Text.LetterCase
import ApiCommands.Text.Pieces

namespace ApiCommands

/-- The vocabulary of naming and grouping. -/
structure Tables where
  /-- Domains in the order they are emitted; others follow, by name. -/
  domainOrder : List Domain
  domainDescriptions : List (Domain × String)
  /-- Tag to domain. -/
  tagDomains : List (String × Domain)
  /-- Tags whose commands attach to their domain itself. -/
  rootTags : List String
  /-- Tag to a fixed branch name. -/
  tagBranches : List (String × String)
  /-- Resource noun stripped from the front of a tag. -/
  domainPrefixes : List (Domain × String)
  /-- Plural noun stripped from the end of a tag. -/
  domainSuffixes : List (Domain × String)
  authDomain : Domain
  /-- Tag of the operations that have none. -/
  fallbackTag : String
  /-- Path segment in one word to its slug. -/
  segmentAliases : List (String × String)
  knownResources : List String
  compoundActionPrefixes : List String
  actionPrefixes : List String
  nonPluralPrefixes : List String
  /-- Final segments that address the caller. -/
  currentEntityAliases : List String
  nameParamSuffixes : List String
  idParamSuffixes : List String
  /-- Words that glued lower-case text is split into. -/
  wordFragments : List String
  unsplittableWords : List String
  /-- Replacements made before a text is split into words. -/
  wordReplacements : List (String × String)
  /-- Operation ids that say no more than the method. -/
  genericOperationIds : List String
  /-- Option names the host command line owns. -/
  reservedOptionNames : List String
  deriving DecidableEq, Repr

namespace Tables

/-- The domain of a tag, `unmapped` if no entry has it. -/
def domainOf (t : Tables) (tag : String) : Domain :=
  (t.tagDomains.lookup (Text.lowered tag)).getD .unmapped

/-- Commands with this tag attach to their domain itself. -/
def isRootTag (t : Tables) (tag : String) : Bool := t.rootTags.contains (Text.lowered tag)

/-- The fixed branch name of a tag. -/
def branchOf? (t : Tables) (tag : String) : Option String :=
  t.tagBranches.lookup (Text.lowered tag)

/-- The alias of a path segment. -/
def aliasOf? (t : Tables) (segment : String) : Option String :=
  t.segmentAliases.lookup (Text.lowered segment)

/-- The segment addresses the caller. -/
def isCurrentEntity (t : Tables) (segment : String) : Bool :=
  t.currentEntityAliases.contains (Text.lowered segment)

/-- The parameter ends in a name suffix and in no id suffix. -/
def isNameLike (t : Tables) (param : String) : Bool :=
  let ends (suffix : String) : Bool := suffix.toList.isSuffixOf (Text.lower param.toList)
  !t.idParamSuffixes.any ends && t.nameParamSuffixes.any ends

/-- The place of a domain among the others: its index in the order, then its name. -/
def sortKey (t : Tables) (d : Domain) : Nat × String :=
  ((t.domainOrder.findIdx? (· == d)).getD t.domainOrder.length, d.name)

/-- The description of a domain. -/
def describe (t : Tables) (d : Domain) : String := (t.domainDescriptions.lookup d).getD d.title

end Tables

end ApiCommands
