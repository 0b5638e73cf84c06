/-
Documents: values as read from JSON or YAML text.

A mapping keeps its entries in the order of first appearance, and a later entry
for the same key takes the earlier one's place; nothing here depends on hashing
or sorting. JSON has text keys only. YAML may key an entry by any scalar, so a
key is a `Scalar`; numbers are the same key when they are equal as numbers, and
points in time when they are the same instant.
-/
import ApiCommands.Calendar.DateTime
import ApiCommands.Number.Binary64

namespace ApiCommands

/-- A value without parts. -/
inductive Scalar where
  | null
  | bool (b : Bool)
  | int (n : Int)
  | float (x : Binary64)
  | text (s : String)
  | bytes (bs : List UInt8)
  | date (d : Calendar.Date)
  | dateTime (t : Calendar.DateTime)
  deriving DecidableEq, Repr, Inhabited

/-- A document value. -/
inductive Value where
  | scalar (s : Scalar)
  | list (items : List Value)
  | map (entries : List (Scalar × Value))
  deriving Repr, Inhabited

/-- The entries of a mapping. -/
abbrev Entries := List (Scalar × Value)

namespace Scalar

/-- The number a scalar is, truth values counting as 0 and 1. -/
def number? : Scalar → Option Int
  | bool b => some (if b then 1 else 0)
  | int n => some n
  | float x => x.toInt?
  | _ => none

/-- The two scalars are one key: equal, or equal as numbers or as points in time. -/
def sameKey (a b : Scalar) : Bool :=
  match a, b with
  | text s, text t => s == t
  | dateTime s, dateTime t => s.isSame t
  | _, _ =>
    match a.number?, b.number? with
    | some m, some n => m == n
    | none, none => decide (a = b)
    | _, _ => false

end Scalar

namespace Entries

/-- The value of the first entry with this key. -/
def find? (key : Scalar) : Entries → Option Value
  | [] => none
  | (k, v) :: rest => if k.sameKey key then some v else find? key rest

/-- The entry set: in place if the key is there, else at the end. -/
def insert (key : Scalar) (value : Value) : Entries → Entries
  | [] => [(key, value)]
  | (k, v) :: rest =>
    if k.sameKey key then (k, value) :: rest else (k, v) :: insert key value rest

/-- Entries set one after the other. -/
def insertAll (base more : Entries) : Entries :=
  more.foldl (fun entries (k, v) => insert k v entries) base

/-- A mapping read from a list of entries: one entry per key, the last value at the first place. -/
def ofList (entries : Entries) : Entries := insertAll [] entries

/-- The entries but those with this key. -/
def erase (key : Scalar) (entries : Entries) : Entries :=
  entries.filter fun (k, _) => !k.sameKey key

end Entries

namespace Value

@[match_pattern, reducible]
def null : Value := scalar .null

@[match_pattern, reducible]
def bool (b : Bool) : Value := scalar (.bool b)

@[match_pattern, reducible]
def int (n : Int) : Value := scalar (.int n)

@[match_pattern, reducible]
def float (x : Binary64) : Value := scalar (.float x)

@[match_pattern, reducible]
def text (s : String) : Value := scalar (.text s)

/-- The value under a text key of a mapping. -/
def get? (name : String) : Value → Option Value
  | map entries => Entries.find? (.text name) entries
  | _ => none

/-- The mapping has the text key. -/
def has (name : String) (v : Value) : Bool := (v.get? name).isSome

/-- The text under a key, if it is text. -/
def text? (name : String) (v : Value) : Option String :=
  match v.get? name with
  | some (text s) => some s
  | _ => none

/-- A mapping. -/
def isMap : Value → Bool
  | map _ => true
  | _ => false

/-- Neither nothing, nor zero, nor empty. -/
def isTruthy : Value → Bool
  | scalar .null => false
  | scalar (.bool b) => b
  | scalar (.int n) => n != 0
  | scalar (.float x) => !x.isZero
  | scalar (.text s) => s != ""
  | scalar (.bytes bs) => !bs.isEmpty
  | scalar (.date _) => true
  | scalar (.dateTime _) => true
  | list items => !items.isEmpty
  | map entries => !entries.isEmpty

mutual

/-- How many values stand one inside the other. -/
def depth : Value → Nat
  | scalar _ => 1
  | list items => 1 + depthOfItems items
  | map entries => 1 + depthOfEntries entries

/-- The same among the items of a list. -/
def depthOfItems : List Value → Nat
  | [] => 0
  | v :: rest => max (depth v) (depthOfItems rest)

/-- The same among the entries of a mapping. -/
def depthOfEntries : Entries → Nat
  | [] => 0
  | (_, v) :: rest => max (depth v) (depthOfEntries rest)

end

/-- A mapping with text keys. -/
def object (entries : List (String × Value)) : Value :=
  map (entries.map fun (k, v) => (.text k, v))

/-- A list of texts. -/
def texts (items : List String) : Value := list (items.map text)

/-- The text, or nothing. -/
def optional (s : Option String) : Value := (s.map text).getD null

end Value

end ApiCommands
