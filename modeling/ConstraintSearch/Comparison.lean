import ConstraintSearch.Decimal.Layout
import ConstraintSearch.Failure
import ConstraintSearch.Stats
import ConstraintSearch.Text.Ruled

/-!
Searches compared: a table with a row for each.
-/

namespace ConstraintSearch

structure Comparison where
  label : String
  solved : Bool
  stats : Stats

namespace Comparison

def header : List String := ["Instance", "Result", "Nodes", "Checks", "Backtracks", "Time (ms)"]

/-- Whole microseconds in milliseconds, with three places. The quotient is rounded to a binary
number before its digits are. -/
def milliseconds (d : Duration) : String :=
  Decimal.fixedText 3 ((Binary64.ofNat d.microseconds).div (.ofNat 1000))

def cells (c : Comparison) : List String :=
  [c.label, if c.solved then "solved" else "no solution", toString c.stats.nodes,
    toString c.stats.checks, toString c.stats.backtracks, milliseconds c.stats.elapsed]

/-- The table fails for a label that hides more columns than it takes. -/
def table (rows : List Comparison) : Except Failure String :=
  match Text.ruledTable? (header :: rows.map cells) with
  | some text => .ok text
  | none => .error .overflow

end Comparison

end ConstraintSearch
