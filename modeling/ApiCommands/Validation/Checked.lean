/-
Checking values against models.

A check of a value gives what the value stands for, or issues; checks of the
fields of a model are combined so that the issues of all of them come out, in
the order of the fields. A text may be given by its bytes, and is made from no
other value. A truth value may also be written as one of a few words or as 0 or 1,
and an integer in digits.
-/
import ApiCommands.Document.Display
import ApiCommands.Validation.WrittenInt

namespace ApiCommands

/-- What a check finds: issues, and a value if there are none. -/
structure Checked (α : Type u) where
  issues : List Issue
  value? : Option α

namespace Checked

/-- A value without issues. -/
def valid (a : α) : Checked α := ⟨[], some a⟩

/-- An issue at the value itself. -/
def fault (kind : IssueKind) : Checked α := ⟨[⟨[], kind⟩], none⟩

instance : Functor Checked where
  map f x := ⟨x.issues, x.value?.map f⟩

instance : Applicative Checked where
  pure := valid
  seq f x :=
    let y := x ()
    ⟨f.issues ++ y.issues, f.value?.bind fun g => y.value?.map g⟩

/-- The check seen from one step further out. -/
def under (step : PathStep) (x : Checked α) : Checked α :=
  ⟨x.issues.map (·.under step), x.value?⟩

/-- The checks of all items, as one. -/
def all : List (Checked α) → Checked (List α)
  | [] => valid []
  | x :: rest => (· :: ·) <$> x <*> all rest

/-- The value, or the report on `model`. -/
def result (x : Checked α) (model : String) : Except Report α :=
  match x.issues, x.value? with
  | [], some a => .ok a
  | issues, _ => .error ⟨model, issues⟩

-- ====================================================== single values

/-- The check of the text that bytes are; bytes that are none are an issue of the given kind. -/
def ofBytes (kind : IssueKind) (check : String → Checked α) (bs : List UInt8) : Checked α :=
  match String.fromUTF8? ⟨bs.toArray⟩ with
  | some s => check s
  | none => fault kind

/-- A text. -/
def text : Value → Checked String
  | .text s => valid s
  | .scalar (.bytes bs) => ofBytes .stringUnicode valid bs
  | _ => fault .stringType

/-- A text or nothing. -/
def optionalText : Value → Checked (Option String)
  | .null => valid none
  | v => some <$> text v

/-- The check of a text that has to be read, which a half of a pair forbids. -/
def legible (check : String → Checked α) (s : String) : Checked α :=
  if Text.hasBytes s.toList then check s else fault .stringUnicode

/-- A member of a closed set, by its name. -/
def member (ofName? : String → Option α) : Value → Checked α
  | .text s => legible named s
  | .scalar (.bytes bs) => ofBytes .enumMember named bs
  | _ => fault .enumMember
where
  named (s : String) : Checked α := ((ofName? s).map valid).getD (fault .enumMember)

/-- The first integer that is too large for 64 bits. -/
def wordLimit : Int := 9223372036854775808

/-- An integer of 64 bits. -/
def isWord (n : Int) : Bool := decide (-wordLimit ≤ n) && decide (n < wordLimit)

/-- The truth value a word stands for. -/
def boolWord? (word : String) : Option Bool :=
  let low := String.ofList (word.toList.map Char.toLower)
  if ["0", "off", "f", "false", "n", "no"].contains low then some false
  else if ["1", "on", "t", "true", "y", "yes"].contains low then some true
  else none

/-- The truth value of 0 or 1. -/
def boolOfInt (n : Int) : Checked Bool :=
  if n = 0 then valid false
  else if n = 1 then valid true
  else if isWord n then fault .boolParsing
  else fault .boolType

/-- A truth value. -/
def bool : Value → Checked Bool
  | .bool b => valid b
  | .int n => boolOfInt n
  | .float x =>
    match x.toInt? with
    | some n => if n = -wordLimit then fault .boolType else boolOfInt n
    | none => fault .boolType
  | .text s => legible worded s
  | .scalar (.bytes bs) => ofBytes .boolParsing worded bs
  | _ => fault .boolType
where
  worded (s : String) : Checked Bool := ((boolWord? s).map valid).getD (fault .boolParsing)

/-- An integer that a number of limited precision stands for. -/
def intOfFloat : Binary64 → Checked Int
  | .nan => fault .finiteNumber
  | .infinity _ => fault .finiteNumber
  | x =>
    match x.toInt? with
    | some n => if isWord n && n != -wordLimit then valid n else fault .intParsingSize
    | none => fault .intFromFloat

/-- An integer. -/
def int : Value → Checked Int
  | .int n => valid n
  | .bool b => valid (if b then 1 else 0)
  | .float x => intOfFloat x
  | .text s => legible inDigits s
  | .scalar (.bytes bs) => ofBytes .intParsing inDigits bs
  | _ => fault .intType
where
  inDigits (s : String) : Checked Int :=
    match WrittenInt.read s.toList with
    | .ok n => valid n
    | .error kind => fault kind

-- ====================================================== containers

/-- Items from index `n` on, each checked under its index. -/
def itemsFrom (check : Value → Checked α) : Nat → List Value → List (Checked α)
  | _, [] => []
  | n, v :: rest => (check v).under (.index n) :: itemsFrom check (n + 1) rest

/-- The items of a list; anything else is an issue of the given kind. -/
def items (kind : IssueKind) (check : Value → Checked α) : Value → Checked (List α)
  | .list vs => all (itemsFrom check 0 vs)
  | _ => fault kind

/-- A row of values. -/
def tuple (check : Value → Checked α) : Value → Checked (List α) := items .tupleType check

/-- A set of texts, each once. -/
def textSet (v : Value) : Checked (List String) :=
  List.eraseDups <$> items .frozenSetType text v

/-- The step to an entry. -/
def keyStep : Scalar → PathStep
  | .text s => .name s
  | .bool b => .index (if b then 1 else 0)
  | .int n => if isWord n then .index n else .name (toString n)
  | k => .name (k.literal.toOption.getD "<unprintable object>")

/-- One entry of a mapping: its key, then its value. -/
def entry {κ α : Type} (checkKey : Scalar → Checked κ) (checkValue : Value → Checked α)
    (e : Scalar × Value) : Checked (κ × α) :=
  Prod.mk <$> ((checkKey e.1).under (.name "[key]")).under (keyStep e.1)
    <*> (checkValue e.2).under (keyStep e.1)

/-- The pair put among others: in place of the one with its key, else at the end. -/
def putPair {κ α : Type} [DecidableEq κ] (p : κ × α) : List (κ × α) → List (κ × α)
  | [] => [p]
  | q :: rest => if q.1 = p.1 then p :: rest else q :: putPair p rest

/-- Pairs with each key once: a later one takes the place of an earlier one. -/
def oncePerKey {κ α : Type} [DecidableEq κ] (pairs : List (κ × α)) : List (κ × α) :=
  pairs.foldl (fun kept p => putPair p kept) []

/-- The entries of a mapping. -/
def dict {κ α : Type} [DecidableEq κ] (checkKey : Scalar → Checked κ)
    (checkValue : Value → Checked α) : Value → Checked (List (κ × α))
  | .map entries => oncePerKey <$> all (entries.map (entry checkKey checkValue))
  | _ => fault .dictType

/-- A key that is a text. -/
def textKey (k : Scalar) : Checked String := text (.scalar k)

-- ====================================================== fields

/-- The value under a field name, checked. -/
def field? (entries : Entries) (name : String) (check : Value → Checked α) :
    Option (Checked α) :=
  (entries.find? (.text name)).map fun v => (check v).under (.name name)

/-- A field that has to be there. -/
def required (entries : Entries) (name : String) (check : Value → Checked α) : Checked α :=
  (field? entries name check).getD ((fault .missing).under (.name name))

/-- A field with a value to fall back on. -/
def withDefault (entries : Entries) (name : String) (default : α) (check : Value → Checked α) :
    Checked α :=
  (field? entries name check).getD (valid default)

/-- An issue for every entry that is no field. -/
def noExtras (entries : Entries) (fields : List String) : Checked Unit :=
  ⟨entries.filterMap fun (k, _) =>
    match k with
    | .text s => if fields.contains s then none else some ⟨[.name s], .extraForbidden⟩
    | k => some ⟨[keyStep k], .invalidKey⟩, some ()⟩

/-- The check of a mapping's entries; another value is an issue. -/
def model (check : Entries → Checked α) : Value → Checked α
  | .map entries => check entries
  | _ => fault .modelType

end Checked

end ApiCommands
