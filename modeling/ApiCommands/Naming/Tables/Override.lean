/-
Table overrides: a mapping laid over tables.

Tables are read from a mapping field by field. A field that is not given has a
default or must be given, and names that are no field are refused. Keys and
members that are looked up without regard to case are lowered on the way in, so
keys that differ in case only become one.

The reading itself is left to a library of data models (`ModelLibrary`). It is told
the name, the type and the default of each field, and how a value is made ready
for it; what it makes of a value, and how it writes tables, is its own matter.

An override replaces whole fields. The tables are written out as a mapping again,
the override is laid over it, and everything is read anew.
-/
import ApiCommands.Naming.Tables
import ApiCommands.Validation.Checked

namespace ApiCommands

-- ====================================================== a library of data models

/-- A type of fields, as a library of data models knows it: the check of a value against the type,
and how a value of the type is written. -/
structure FieldType (α : Type) where
  check : Value → Checked α
  written : α → Value

/-- The types that fields of tables have. -/
structure FieldTypes where
  text : FieldType String
  domain : FieldType Domain
  /-- A row of texts. -/
  textRow : FieldType (List String)
  /-- A row of domains. -/
  domainRow : FieldType (List Domain)
  /-- A set of texts. -/
  textSet : FieldType (List String)
  /-- A mapping from domains to texts. -/
  domainTexts : FieldType (List (Domain × String))
  /-- A mapping from texts to texts. -/
  textTexts : FieldType (List (String × String))
  /-- A mapping from texts to domains. -/
  textDomains : FieldType (List (String × Domain))

/-- What a library of data models does with tables: it checks values against the types of fields,
reads tables from a mapping, and writes tables as one. -/
structure ModelLibrary where
  types : FieldTypes
  validate : Entries → Except Report Tables
  dump : Tables → Entries

namespace Tables

-- ====================================================== values made ready

/-- An entry with its key in lower case; any key counts by its text. -/
def loweredKey (e : Scalar × Value) : Except Fault (Scalar × Value) :=
  return (.text (Text.lowered (← e.1.display)), e.2)

/-- A mapping with its keys in lower case; a later entry takes an earlier one's place. -/
def loweredKeys : Value → Except Fault Value
  | .map entries => return .map (Entries.ofList (← entries.mapM loweredKey))
  | v => .ok v

/-- The members of a set in lower case, each once; any member counts by its text. -/
def loweredMembers : Value → Except Fault Value
  | .list vs => return .texts ((← vs.mapM Value.display).map Text.lowered).eraseDups
  | v => .ok v

-- ====================================================== fields

/-- A field of tables: its name, its type, how a value is made ready for the check, and what the
field is where no value is given. Without that a value must be given. -/
structure Field (α : Type) where
  name : String
  type : FieldTypes → FieldType α
  prepare : Value → Except Fault Value
  default? : Option α

namespace Field

/-- The check of a value of the field. A value that cannot be made ready is an issue. -/
def check {α : Type} (f : Field α) (types : FieldTypes) (v : Value) : Checked α :=
  match f.prepare v with
  | .ok ready => (f.type types).check ready
  | .error _ => Checked.fault .valueError

/-- The field of a mapping. -/
def read {α : Type} (f : Field α) (types : FieldTypes) (es : Entries) : Checked α :=
  match f.default? with
  | none => Checked.required es f.name (f.check types)
  | some value => Checked.withDefault es f.name value (f.check types)

/-- A row of texts. -/
def row (name : String) (default : List String) : Field (List String) :=
  ⟨name, (·.textRow), .ok, some default⟩

/-- A set of texts in lower case. -/
def loweredSet (name : String) (default? : Option (List String)) : Field (List String) :=
  ⟨name, (·.textSet), loweredMembers, default?⟩

/-- Texts by domain. -/
def byDomain (name : String) : Field (List (Domain × String)) :=
  ⟨name, (·.domainTexts), .ok, some []⟩

/-- Texts by text in lower case. -/
def byLoweredText (name : String) : Field (List (String × String)) :=
  ⟨name, (·.textTexts), loweredKeys, some []⟩

def domainOrder : Field (List Domain) := ⟨"domain_order", (·.domainRow), .ok, none⟩

def domainDescriptions : Field (List (Domain × String)) := byDomain "domain_descriptions"

def tagDomains : Field (List (String × Domain)) :=
  ⟨"tag_domains", (·.textDomains), loweredKeys, none⟩

def rootTags : Field (List String) := loweredSet "root_tags" none

def tagBranches : Field (List (String × String)) := byLoweredText "tag_sub_overrides"

def domainPrefixes : Field (List (Domain × String)) := byDomain "domain_prefixes"

def domainSuffixes : Field (List (Domain × String)) := byDomain "suffix_strip_domains"

def authDomain : Field Domain := ⟨"auth_domain", (·.domain), .ok, some .auth⟩

def fallbackTag : Field String := ⟨"fallback_tag", (·.text), .ok, some "Core"⟩

def segmentAliases : Field (List (String × String)) := byLoweredText "segment_aliases"

def knownResources : Field (List String) := loweredSet "known_resources" (some [])

def compoundActionPrefixes : Field (List String) := row "compound_action_prefixes" []

def actionPrefixes : Field (List String) := row "action_prefixes" []

def nonPluralPrefixes : Field (List String) := row "non_plural_prefixes" []

def currentEntityAliases : Field (List String) :=
  loweredSet "current_entity_aliases" (some ["me"])

def nameParamSuffixes : Field (List String) := row "name_param_suffixes" ["name"]

def idParamSuffixes : Field (List String) := row "id_param_suffixes" ["id"]

def wordFragments : Field (List String) := row "word_fragments" []

def unsplittableWords : Field (List String) := loweredSet "unsplittable_words" (some [])

def wordReplacements : Field (List (String × String)) :=
  ⟨"word_replacements", (·.textTexts), .ok, some []⟩

def genericOperationIds : Field (List String) :=
  ⟨"generic_operation_ids", (·.textSet), .ok,
    some ["Get", "Post", "Put", "Delete", "Patch"]⟩

def reservedOptionNames : Field (List String) := loweredSet "reserved_option_names" (some [])

end Field

/-- A field and what tables have in it. -/
structure Column where
  {α : Type}
  field : Field α
  get : Tables → α

/-- The fields of tables, in order. -/
def columns : List Column :=
  [⟨.domainOrder, domainOrder⟩, ⟨.domainDescriptions, domainDescriptions⟩,
    ⟨.tagDomains, tagDomains⟩, ⟨.rootTags, rootTags⟩, ⟨.tagBranches, tagBranches⟩,
    ⟨.domainPrefixes, domainPrefixes⟩, ⟨.domainSuffixes, domainSuffixes⟩,
    ⟨.authDomain, authDomain⟩, ⟨.fallbackTag, fallbackTag⟩, ⟨.segmentAliases, segmentAliases⟩,
    ⟨.knownResources, knownResources⟩, ⟨.compoundActionPrefixes, compoundActionPrefixes⟩,
    ⟨.actionPrefixes, actionPrefixes⟩, ⟨.nonPluralPrefixes, nonPluralPrefixes⟩,
    ⟨.currentEntityAliases, currentEntityAliases⟩, ⟨.nameParamSuffixes, nameParamSuffixes⟩,
    ⟨.idParamSuffixes, idParamSuffixes⟩, ⟨.wordFragments, wordFragments⟩,
    ⟨.unsplittableWords, unsplittableWords⟩, ⟨.wordReplacements, wordReplacements⟩,
    ⟨.genericOperationIds, genericOperationIds⟩, ⟨.reservedOptionNames, reservedOptionNames⟩]

/-- The names of the fields. -/
def fieldNames : List String := columns.map (·.field.name)

-- ====================================================== overrides

/-- The tables with an override laid over them, all of it read anew. -/
def withOverrides (t : Tables) (lib : ModelLibrary) (o : Entries) : Except Report Tables :=
  lib.validate ((lib.dump t).insertAll o)

end Tables

end ApiCommands
