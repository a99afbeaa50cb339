import ConstraintSearch.Puzzle
import ConstraintSearch.Queens.Model

/-!
Boards of queens as puzzles. There are no givens.
-/

namespace ConstraintSearch.Queens

def leastSize : Nat := 4

def mostSize : Nat := 12

structure Board where
  size : Nat
  queens : Assignment Nat
  stats : Stats
deriving DecidableEq

namespace Board

def ofSize (n : Nat) : Except Failure Board :=
  if leastSize ≤ n ∧ n ≤ mostSize then .ok ⟨n, .blank n, {}⟩
  else .error (.boardSize n leastSize mostSize)

/-- Displays a solution or an empty board. The length of a solution is not checked. -/
def apply (b : Board) (report : Report Nat) : Board :=
  { b with
    queens := report.outcome.solution?.getD (.blank b.size)
    stats := report.stats }

def reset (b : Board) : Board := { b with queens := b.queens.clear, stats := {} }

instance : Puzzle Board Nat where
  model b := model b.size
  initial b := .ok (.blank b.size)
  displayed := queens
  stats := stats
  apply b report := .ok (b.apply report)
  reset b := .ok b.reset

/-- The row of the queen in each column, once every column has one. -/
def rows? (b : Board) : Option (List Nat) := b.queens.values?

/-- Draws a row to a line, with `Q` for a queen and `.` for an empty square. -/
def render (b : Board) : String :=
  String.join <| (List.range b.size).map fun row =>
    let squares := (List.range b.size).map fun col =>
      if b.queens.get? col = some row then "Q" else "."
    " ".intercalate squares ++ "\n"

end Board

end ConstraintSearch.Queens
