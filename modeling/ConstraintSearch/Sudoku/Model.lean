import ConstraintSearch.Model
import ConstraintSearch.Sudoku.Grid

/-!
The rules of the puzzle: a digit stands once in every row, column and box.
-/

namespace ConstraintSearch.Sudoku

/-- The other cells of a cell's row, column and box. Those of the box that also share a line
come twice. -/
def peers (cell : Nat) : List Nat :=
  let row := rowOf cell
  let col := colOf cell
  (rowCells row ++ colCells col ++ boxCells (row / 3 * 3) (col / 3 * 3)).filter (· != cell)

def peerTable : Vector (List Nat) 81 := Vector.ofFn fun cell => peers cell

/-- The peers of a cell, read from the table where it has them. -/
def peersOf (cell : Nat) : List Nat := if h : cell < 81 then peerTable[cell] else peers cell

theorem peersOf_eq (cell : Nat) : peersOf cell = peers cell := by
  by_cases h : cell < 81 <;> simp [peersOf, peerTable, h]

/-- Whether all peers that decide about a digit have numbers that fit a word: each of them up to the
first that holds the digit. -/
def peersFit (a : Assignment Nat) (digit : Nat) : List Nat → Bool
  | [] => true
  | peer :: rest =>
    peer < wordLimit && (a.get? peer == some digit || peersFit a digit rest)

def model : Model Nat where
  name := "Sudoku"
  description := "81 cells, row/column/box all-different"
  count := cellCount
  domain _ := digits
  consistent a cell digit := (peersOf cell).all fun peer => a.get? peer != some digit
  checkable a cell digit := peersFit a digit (peers cell)

theorem peersFit_of_forall_lt (a : Assignment Nat) (digit : Nat) {cells : List Nat}
    (h : ∀ cell ∈ cells, cell < wordLimit) : peersFit a digit cells = true := by
  induction cells with
  | nil => rfl
  | cons cell rest ih =>
    simp [peersFit, h cell (by simp), ih fun other hother => h other (by simp [hother])]

theorem lt_of_mem_peers {cell peer : Nat} (h : cell < cellCount) (hp : peer ∈ peers cell) :
    peer < cellCount := by
  simp only [peers, rowCells, colCells, boxCells, List.mem_filter, List.mem_append, List.mem_map,
    List.mem_range, cellAt, rowOf, colOf] at hp
  simp only [cellCount] at h ⊢
  omega

/-- The check goes through for every cell of the grid. -/
theorem checkable_of_lt (a : Assignment Nat) (digit : Nat) {cell : Nat} (h : cell < cellCount) :
    model.checkable a cell digit = true :=
  peersFit_of_forall_lt a digit fun _ hp =>
    Nat.lt_trans (lt_of_mem_peers h hp) (by decide)

end ConstraintSearch.Sudoku
