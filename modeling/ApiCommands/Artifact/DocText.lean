/-
Texts of a description inside emitted source.

A description contributes its first line that is not blank, or a fallback where
there is none. Between triple quotes, backslashes and quotes of the line are
escaped, so the line can neither end the literal nor change what follows it.
-/
import ApiCommands.Text.Blank

namespace ApiCommands.DocText

/-- The first line of a text that is not blank, trimmed, or the fallback. -/
def firstLine (text : Option String) (fallback : String) : String :=
  match Text.firstLine? (text.getD "").toList with
  | some line => String.ofList line
  | none => fallback

/-- One character between triple quotes. -/
def escapeChar (c : Char) : List Char := if c = '\\' ∨ c = '"' then ['\\', c] else [c]

/-- A line between triple quotes. -/
def escape (s : List Char) : List Char := s.flatMap escapeChar

/-- The first line of a text, or the fallback, between triple quotes. -/
def summary (text : Option String) (fallback : String) : String :=
  String.ofList (escape (firstLine text fallback).toList)

/-- A line of source that is a literal between triple quotes. -/
def quotedLine (indent body : String) : String := indent ++ "\"\"\"" ++ body ++ "\"\"\""

end ApiCommands.DocText
