/-
Options on a command line.

An option has a long name after two dashes, and may have a short one after one
dash. A long name takes its value after `=` or from the next word; short names
may be run together, and one that takes a value takes the rest of its word or
else the next word. A lone dash is no option, and two lone dashes end the
options. Where operands come first ends the options too, if the command leaves
what follows to a further command.
-/

namespace ApiCommands

/-- An option of a command. -/
structure OptionRule where
  name : String
  letter : Option Char
  takesValue : Bool
  deriving DecidableEq, Repr

/-- An option as it was given. -/
structure GivenOption where
  name : String
  value : String
  deriving DecidableEq, Repr

/-- A command line taken apart. -/
structure ReadLine where
  options : List GivenOption
  operands : List String
  deriving DecidableEq, Repr

namespace OptionRule

/-- The options one word gives, and the one that takes its value from the next word. -/
abbrev WordReading := List GivenOption × Option String

/-- A word of a long name, without its dashes. -/
def readLong (rules : List OptionRule) (body : List Char) : Option WordReading :=
  let name := body.takeWhile (· != '=')
  match rules.find? fun rule => rule.name == String.ofList name, body.drop name.length with
  | none, _ => none
  | some rule, [] =>
    some (if rule.takesValue then ([], some rule.name) else ([⟨rule.name, ""⟩], none))
  | some rule, _ :: value =>
    if rule.takesValue then some ([⟨rule.name, String.ofList value⟩], none) else none

/-- A word of short names, without its dash. -/
def readShort (rules : List OptionRule) : List Char → Option WordReading
  | [] => some ([], none)
  | c :: rest =>
    match rules.find? fun rule => rule.letter == some c with
    | none => none
    | some rule =>
      if rule.takesValue then
        some (if rest.isEmpty then ([], some rule.name)
          else ([⟨rule.name, String.ofList rest⟩], none))
      else (readShort rules rest).map fun (given, pending) => (⟨rule.name, ""⟩ :: given, pending)

/-- A word that starts with a dash. -/
def readWord (rules : List OptionRule) : List Char → Option WordReading
  | '-' :: '-' :: body => readLong rules body
  | '-' :: body => readShort rules body
  | _ => none

/-- A dash with something after it. -/
def isOptionWord (word : String) : Bool :=
  match word.toList with
  | '-' :: _ :: _ => true
  | _ => false

/-- The command line with options in front. -/
def ReadLine.addOptions (given : List GivenOption) (line : ReadLine) : ReadLine :=
  { line with options := given ++ line.options }

/-- A command line taken apart, unless it breaks the rules. -/
def readLine (rules : List OptionRule) (mixed : Bool) : List String → Option ReadLine
  | [] => some ⟨[], []⟩
  | word :: rest =>
    if word = "--" then some ⟨[], rest⟩
    else if isOptionWord word then
      match readWord rules word.toList, rest with
      | none, _ => none
      | some (given, none), rest => (readLine rules mixed rest).map (ReadLine.addOptions given)
      | some (_, some _), [] => none
      | some (given, some name), value :: rest =>
        (readLine rules mixed rest).map (ReadLine.addOptions (given ++ [⟨name, value⟩]))
    else if mixed then
      (readLine rules mixed rest).map fun line => { line with operands := word :: line.operands }
    else some ⟨[], word :: rest⟩

end OptionRule

namespace ReadLine

/-- The option was given. -/
def has (line : ReadLine) (name : String) : Bool := line.options.any (·.name == name)

/-- The value an option was given last. -/
def value? (line : ReadLine) (name : String) : Option String :=
  (line.options.reverse.find? (·.name == name)).map (·.value)

end ReadLine

end ApiCommands
