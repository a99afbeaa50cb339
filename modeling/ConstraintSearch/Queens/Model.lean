import ConstraintSearch.Model

/-!
Queens on a square board, one to a column: the variable is the column and the value its row.
-/

namespace ConstraintSearch.Queens

def distance (a b : Nat) : Nat := (a - b) + (b - a)

/-- A queen attacks along her row and both diagonals. Columns are apart by construction. -/
def attacks (col row col' row' : Nat) : Bool :=
  row' == row || distance row' row == distance col' col

/-- Boards of any size, also those too small for a solution. -/
def model (n : Nat) : Model Nat where
  name := "NQueens"
  description := s!"{n}x{n} board"
  count := n
  domain _ := List.range n
  consistent a col row := a.assigned.all fun (col', row') =>
    col' == col || !attacks col row col' row'

/-- A list of more rows could not be held. -/
def rowLimit : Nat := Nat.pow 2 60

def modelOf (n : Nat) : Except Failure (Model Nat) :=
  if n < rowLimit then .ok (model n) else .error .overflow

/-- Whether a list of rows, one to a column, stays on the board and no two queens attack each
other. -/
def isPlacement (rows : List Nat) : Bool :=
  rows.all (· < rows.length) &&
    rows.zipIdx.all fun (row, col) => rows.zipIdx.all fun (row', col') =>
      col' ≤ col || !attacks col row col' row'

end ConstraintSearch.Queens
