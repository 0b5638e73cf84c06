/-
Groups in order of first appearance.

`grouped key xs` pairs every key that occurs with its items; keys stand in the
order they first occur in, and so do the items of each.
-/

namespace ApiCommands

/-- The keys that occur, each once, at its first place. -/
def keysOf [BEq κ] (key : α → κ) (xs : List α) : List κ := (xs.map key).eraseDups

/-- Each key with its items. -/
def grouped [BEq κ] (key : α → κ) (xs : List α) : List (κ × List α) :=
  (keysOf key xs).map fun k => (k, xs.filter fun x => key x == k)

/-- The order by a first text, and by a second one where the first are equal. -/
def pairLe (a b : String × String) : Bool :=
  decide (a.1 < b.1) || (a.1 == b.1 && decide (a.2 ≤ b.2))

end ApiCommands
