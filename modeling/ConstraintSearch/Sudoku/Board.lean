import ConstraintSearch.Puzzle
import ConstraintSearch.Sudoku.Model

/-!
Grids to be filled in, as puzzles. The cells that are filled from the start are the givens.
-/

namespace ConstraintSearch.Sudoku

structure Board where
  cells : Assignment Nat
  givens : Vector Bool 81
  stats : Stats
deriving DecidableEq

namespace Board

/-- Every cell that is not empty becomes a given. -/
def ofGrid (g : Grid) : Except Failure Board := do
  return ⟨← g.toAssignment, g.cells.map (· != 0), {}⟩

def isGivenCell (b : Board) (cell : Nat) : Bool := b.givens[cell]?.getD false

/-- The givens alone. A value in a slot beyond the grid is refused. -/
def initial (b : Board) : Except Failure (Assignment Nat) :=
  match b.cells.assigned.find? fun (cell, _) => cellCount ≤ cell with
  | some (cell, _) => .error (.noSlot cell cellCount)
  | none =>
    .ok ⟨b.cells.slots.mapIdx fun cell slot => if b.isGivenCell cell then slot else none⟩

/-- Displays a solution as it is, or else the givens alone. -/
def apply (b : Board) (report : Report Nat) : Except Failure Board := do
  match report.outcome with
  | .solved solution => return { b with cells := solution, stats := report.stats }
  | .unsatisfiable => return { b with cells := ← b.initial, stats := report.stats }

def reset (b : Board) : Except Failure Board := do
  return { b with cells := ← b.initial, stats := {} }

instance : Puzzle Board Nat where
  model _ := model
  initial := initial
  displayed := cells
  stats := stats
  apply := apply
  reset := reset

def grid (b : Board) : Grid := .ofAssignment b.cells

def onGrid (row col : Nat) : Bool := row < 9 && col < 9

/-- The digit displayed in a cell. Nothing is displayed beyond the grid. -/
def value? (b : Board) (row col : Nat) : Option Nat :=
  if onGrid row col then b.cells.get? (cellAt row col) else none

def isGiven (b : Board) (row col : Nat) : Bool :=
  onGrid row col && b.isGivenCell (cellAt row col)

def givenCount (b : Board) : Nat := b.givens.toArray.countP id

def givenRows (b : Board) : List (List Bool) :=
  (List.range 9).map fun row => (rowCells row).map b.isGivenCell

/-- Contents of cells are bytes. -/
def contentLimit : Nat := 256

/-- What follows in a cell's cycle: empty, the digits in turn, empty again. Contents that are no
digits go up without end, and nothing follows the largest one. -/
def nextContent : Option Nat → Except Failure Nat
  | none => .ok 1
  | some 9 => .ok 0
  | some value => if value + 1 < contentLimit then .ok (value + 1) else .error .overflow

/-- Moves a cell on in its cycle and answers the new content. The rules are not checked. -/
def edit (b : Board) (row col : Nat) : Except Failure (Nat × Board) :=
  if !onGrid row col then .error (.cellOutOfBounds row col)
  else if b.isGiven row col then .error (.fixedCell row col)
  else do
    let content ← nextContent (b.cells.get? (cellAt row col))
    let slot := if content = 0 then none else some content
    let (_, cells) ← b.cells.exchange (cellAt row col) slot
    return (content, { b with cells })

end Board

end ConstraintSearch.Sudoku
