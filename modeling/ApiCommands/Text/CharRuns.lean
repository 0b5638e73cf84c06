/-
Runs of code points: how the tables of character properties are written.

A property of characters is a finite set of code points, and a case mapping is
a finite function on them. Both are stored as short lists of runs with a
constant step, since letters come either side by side or with upper and lower
case alternating. ASCII is decided by the property itself, so the runs here
start beyond it and closed examples over ASCII never walk a table.
-/

namespace ApiCommands.Text

/-- The code points `first`, `first + step`, … up to `last`. -/
structure CharRun where
  first : Nat
  last : Nat
  step : Nat

/-- The code point `n` belongs to the run. -/
def CharRun.has (r : CharRun) (n : Nat) : Bool :=
  decide (r.first ≤ n) && decide (n ≤ r.last) && (n - r.first) % r.step == 0

/-- Some run of the table has the code point `n`. -/
def inRuns (runs : List CharRun) (n : Nat) : Bool :=
  runs.any (·.has n)

/-- A run whose members are moved by a constant distance, the first of them to `target`. -/
structure ShiftRun where
  first : Nat
  last : Nat
  step : Nat
  target : Nat

/-- Where the run moves `n`, if `n` belongs to it. -/
def ShiftRun.move? (r : ShiftRun) (n : Nat) : Option Nat :=
  if r.first ≤ n ∧ n ≤ r.last ∧ (n - r.first) % r.step = 0 then some (r.target + (n - r.first))
  else none

end ApiCommands.Text
