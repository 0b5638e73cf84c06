/-
Validation issues: what is wrong with a value that should fit a model.

An issue says where, by field names, keys and indexes from the outside in, and
what kind of fault it is. Whole numbers and truth values as keys count as
indexes, other keys by their text. A report holds the issues of one model in the order of
its fields.
-/
namespace ApiCommands

/-- A step from a value to one of its parts. -/
inductive PathStep where
  | name (s : String)
  | index (n : Int)
  deriving DecidableEq, Repr

/-- The kind of an issue. -/
inductive IssueKind where
  | missing
  | extraForbidden
  | invalidKey
  | stringType
  | stringUnicode
  | enumMember
  | dictType
  | tupleType
  | frozenSetType
  | modelType
  | boolType
  | boolParsing
  | intType
  | intParsing
  | intParsingSize
  | intFromFloat
  | finiteNumber
  | valueError
  deriving DecidableEq, Repr

/-- The code of a kind. -/
def IssueKind.code : IssueKind → String
  | missing => "missing"
  | extraForbidden => "extra_forbidden"
  | invalidKey => "invalid_key"
  | stringType => "string_type"
  | stringUnicode => "string_unicode"
  | enumMember => "enum"
  | dictType => "dict_type"
  | tupleType => "tuple_type"
  | frozenSetType => "frozen_set_type"
  | modelType => "model_type"
  | boolType => "bool_type"
  | boolParsing => "bool_parsing"
  | intType => "int_type"
  | intParsing => "int_parsing"
  | intParsingSize => "int_parsing_size"
  | intFromFloat => "int_from_float"
  | finiteNumber => "finite_number"
  | valueError => "value_error"

/-- One fault of a value. -/
structure Issue where
  path : List PathStep
  kind : IssueKind
  deriving DecidableEq, Repr

/-- The issue one step further out. -/
def Issue.under (step : PathStep) (i : Issue) : Issue := ⟨step :: i.path, i.kind⟩

/-- The issues of a value that should fit `model`. -/
structure Report where
  model : String
  issues : List Issue
  deriving DecidableEq, Repr

/-- The head line of a report. -/
def Report.title (r : Report) : String :=
  toString r.issues.length ++ (if r.issues.length = 1 then " validation error" else
    " validation errors") ++ " for " ++ r.model

end ApiCommands
