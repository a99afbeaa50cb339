import ConstraintSearch.Search.Engine

/-!
Puzzles: the structure of a problem together with the assignment that is displayed.
-/

namespace ConstraintSearch

/-- What every kind of puzzle offers. Searching never changes a puzzle; applying a report does. -/
class Puzzle (P : Type) (V : outParam Type) where
  model : P → Model V
  /-- Where a search starts: the givens, and neither edits nor an earlier solution. -/
  initial : P → Except Failure (Assignment V)
  displayed : P → Assignment V
  /-- The counters of the report that was applied last. -/
  stats : P → Stats
  /-- Displays a solution, or the givens alone when there is none. -/
  apply : P → Report V → Except Failure P
  /-- Takes back everything but the givens and zeroes the counters. -/
  reset : P → Except Failure P

namespace Puzzle
variable {P V σ : Type} [Puzzle P V]

def search (p : P) (e : Engine σ V) : Except Failure (Search σ V) := do
  e.search (model p) (← initial p)

/-- Searches to the end and applies the report. A refused request changes nothing. -/
def solve (p : P) (e : Engine σ V) : Except Failure (Report V × P × Engine σ V) := do
  let (report, e) ← e.solve (model p) (← initial p)
  return (report, ← apply p report, e)

/-- The same as solving, with every event told on the way. -/
def solveTracing (p : P) (e : Engine σ V) :
    Except Failure (List (Event V × Nat) × Report V × P × Engine σ V) := do
  let first ← search p e
  let (events, last) := Search.trace (model p) e.order [] first
  return (events, last.report, ← apply p last.report, e.resume last)

end Puzzle

end ConstraintSearch
