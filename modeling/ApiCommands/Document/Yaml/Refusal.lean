/-
Why YAML text is refused.
-/

namespace ApiCommands.Yaml

/-- Why a text is refused. -/
inductive Refusal where
  /-- The text has no reading. -/
  | malformed
  /-- A scalar has the form of a number, a date or a character and is none. -/
  | badScalar
  /-- An escape stands for a code point beyond all numbers of 31 bits. -/
  | codePointOverflow
  /-- Nodes stand too deep one inside the other. -/
  | tooDeep
  deriving DecidableEq, Repr

end ApiCommands.Yaml
