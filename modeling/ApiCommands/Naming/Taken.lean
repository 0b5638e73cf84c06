/-
Taken names and candidate chains.

Names are taken case-insensitively. Every choice of a free name is the walk of
a chain: a few candidates in order of preference, then a stem with the numbers
from 2 on. `Taken.claim` takes the first free one. A set of `n` taken names can
refuse at most `n` of the numbered candidates, so the walk looks at no more than
the preferred ones and `n + 1` others.

Where making a candidate can fail, it is made only when those in front of it are
taken. `Offers` are such candidates, and `Taken.claimOffered` fails only if it
comes to one that cannot be made.
-/
import ApiCommands.Text.LetterCase

namespace ApiCommands

/-- A chain of candidates: the preferred ones, then `stem2`, `stem3`, … -/
structure Candidates where
  preferred : List String
  stem : String
  deriving DecidableEq, Repr

namespace Candidates

/-- `base`, then `base` with the separator and a number from 2 on. -/
def numbered (base separator : String) : Candidates := ⟨[base], base ++ separator⟩

/-- The numbered candidate at place `i` of the tail. -/
def tailAt (c : Candidates) (i : Nat) : String := c.stem ++ toString (i + 2)

/-- The preferred candidates and the first `n` numbered ones. -/
def withTail (c : Candidates) (n : Nat) : List String :=
  c.preferred ++ (List.range n).map c.tailAt

/-- The first `n` candidates. -/
def take (c : Candidates) (n : Nat) : List String := (c.withTail n).take n

end Candidates

/-- A chain of candidates that are made one after the other. One may be missing, and making one may
fail. Then come `stem2`, `stem3`, … -/
structure Offers (ε : Type) where
  offers : List (Except ε (Option String))
  stem : String

namespace Offers

/-- The offers that are made before one fails. -/
def made : List (Except ε (Option String)) → List String
  | [] => []
  | .error _ :: _ => []
  | .ok offer :: rest => offer.toList ++ made rest

/-- The candidates up to the first that cannot be made. -/
def candidates (o : Offers ε) : Candidates := ⟨made o.offers, o.stem⟩

end Offers

/-- Names in use, by their lower-case forms. -/
structure Taken where
  keys : List String
  deriving DecidableEq, Repr

namespace Taken

/-- The names taken from the start. -/
def ofList (names : List String) : Taken := ⟨(names.map Text.lowered).eraseDups⟩

/-- Nothing taken. -/
def empty : Taken := ⟨[]⟩

/-- The name is taken, in this case or another. -/
def contains (t : Taken) (name : String) : Bool := t.keys.contains (Text.lowered name)

/-- The name taken as well. -/
def insert (t : Taken) (name : String) : Taken :=
  if t.contains name then t else ⟨Text.lowered name :: t.keys⟩

/-- The name tried: whether it was free, and the names taken then. -/
def add (t : Taken) (name : String) : Bool × Taken :=
  if t.contains name then (false, t) else (true, ⟨Text.lowered name :: t.keys⟩)

/-- The candidates of a list tried one after the other: the first that is free, if there is one, and
the names taken then. -/
def tryEach (t : Taken) : List String → Option String × Taken
  | [] => (none, t)
  | name :: rest =>
    match t.add name with
    | (true, t) => (some name, t)
    | (false, t) => t.tryEach rest

/-- The first free name of a list, with it taken. -/
def claimFrom? (t : Taken) (names : List String) : Option (String × Taken) :=
  (names.find? (!t.contains ·)).map fun name => (name, t.insert name)

/-- How many candidates of a chain are looked at, at most. -/
def reach (t : Taken) (c : Candidates) : List String := c.withTail (t.keys.length + 1)

/-- The first free candidate of a chain, with it taken. -/
def claim (t : Taken) (c : Candidates) : String × Taken :=
  (t.claimFrom? (t.reach c)).getD (c.stem, t)

/-- Free candidates for a list of chains, one after the other. -/
def claimAll (t : Taken) : List Candidates → List String
  | [] => []
  | c :: rest =>
    let (name, t) := t.claim c
    name :: claimAll t rest

/-- The first free one of several offers, with it taken; behind them the numbers of a stem. -/
def tryOffers (t : Taken) (stem : String) :
    List (Except ε (Option String)) → Except ε (String × Taken)
  | [] => .ok (t.claim ⟨[], stem⟩)
  | .error e :: _ => .error e
  | .ok none :: rest => t.tryOffers stem rest
  | .ok (some name) :: rest =>
    if t.contains name then t.tryOffers stem rest else .ok (name, t.insert name)

/-- The first free candidate of a chain that is made on the way, with it taken. -/
def claimOffered (t : Taken) (o : Offers ε) : Except ε (String × Taken) :=
  t.tryOffers o.stem o.offers

/-- Free candidates for a list of such chains, one after the other. -/
def claimAllOffered (t : Taken) : List (Offers ε) → Except ε (List String)
  | [] => .ok []
  | o :: rest => do
    let (name, t) ← t.claimOffered o
    return name :: (← claimAllOffered t rest)

end Taken

end ApiCommands
