/-
Reading tables from a mapping, and writing them as one.

A library of data models that takes what can be taken for a value of a type: a text
may be given by its bytes, a set in any order and with members twice. Values that
have another type are issues, and the issues of all fields come out together.
-/
import ApiCommands.Naming.Tables.Override

namespace ApiCommands

open Checked

-- ====================================================== types

namespace FieldTypes

/-- A domain, by its name. -/
def checkDomain : Value → Checked Domain := member Domain.ofName?

/-- Pairs as a mapping of texts. -/
def writtenPairs {κ α : Type} (key : κ → String) (value : α → String) (pairs : List (κ × α)) :
    Value :=
  .map (pairs.map fun e => (.text (key e.1), .text (value e.2)))

/-- Mappings with their values, and the keys too, given by texts. -/
def pairsOf {κ α : Type} [DecidableEq κ] (checkKey : Scalar → Checked κ)
    (checkValue : Value → Checked α) (key : κ → String) (value : α → String) :
    FieldType (List (κ × α)) :=
  ⟨dict checkKey checkValue, writtenPairs key value⟩

/-- The types, each with what can be taken for a value of it. -/
def lax : FieldTypes where
  text := ⟨Checked.text, .text⟩
  domain := ⟨checkDomain, fun d => .text d.name⟩
  textRow := ⟨tuple Checked.text, .texts⟩
  domainRow := ⟨tuple checkDomain, fun ds => .texts (ds.map Domain.name)⟩
  textSet := ⟨Checked.textSet, .texts⟩
  domainTexts := pairsOf (fun k => checkDomain (.scalar k)) Checked.text Domain.name id
  textTexts := pairsOf textKey Checked.text id id
  textDomains := pairsOf textKey checkDomain id Domain.name

end FieldTypes

namespace Tables

-- ====================================================== reading and writing

/-- The tables of a mapping, if every field has a value. -/
def values? (types : FieldTypes) (es : Entries) : Option Tables := do
  return {
    domainOrder := ← (Field.domainOrder.read types es).value?
    domainDescriptions := ← (Field.domainDescriptions.read types es).value?
    tagDomains := ← (Field.tagDomains.read types es).value?
    rootTags := ← (Field.rootTags.read types es).value?
    tagBranches := ← (Field.tagBranches.read types es).value?
    domainPrefixes := ← (Field.domainPrefixes.read types es).value?
    domainSuffixes := ← (Field.domainSuffixes.read types es).value?
    authDomain := ← (Field.authDomain.read types es).value?
    fallbackTag := ← (Field.fallbackTag.read types es).value?
    segmentAliases := ← (Field.segmentAliases.read types es).value?
    knownResources := ← (Field.knownResources.read types es).value?
    compoundActionPrefixes := ← (Field.compoundActionPrefixes.read types es).value?
    actionPrefixes := ← (Field.actionPrefixes.read types es).value?
    nonPluralPrefixes := ← (Field.nonPluralPrefixes.read types es).value?
    currentEntityAliases := ← (Field.currentEntityAliases.read types es).value?
    nameParamSuffixes := ← (Field.nameParamSuffixes.read types es).value?
    idParamSuffixes := ← (Field.idParamSuffixes.read types es).value?
    wordFragments := ← (Field.wordFragments.read types es).value?
    unsplittableWords := ← (Field.unsplittableWords.read types es).value?
    wordReplacements := ← (Field.wordReplacements.read types es).value?
    genericOperationIds := ← (Field.genericOperationIds.read types es).value?
    reservedOptionNames := ← (Field.reservedOptionNames.read types es).value? }

/-- The name reports know tables by. -/
def modelName : String := "NamingTables"

/-- The tables of a mapping, with the issues of all fields and of the names that are none. -/
def checkFields (types : FieldTypes) (es : Entries) : Checked Tables :=
  ⟨columns.flatMap (fun c => (c.field.read types es).issues) ++ (noExtras es fieldNames).issues,
    values? types es⟩

/-- Tables as a mapping. -/
def dump (types : FieldTypes) (t : Tables) : Entries :=
  columns.map fun c => (.text c.field.name, (c.field.type types).written (c.get t))

end Tables

/-- The library that takes what can be taken for a value. -/
def ModelLibrary.lax : ModelLibrary where
  types := .lax
  validate es := (Tables.checkFields .lax es).result Tables.modelName
  dump t := t.dump .lax

end ApiCommands
