import ConstraintSearch.Assignment
import ConstraintSearch.Text.Blank

/-!
Grids of nine by nine cells. A cell holds a number, zero for an empty one. Cells are numbered row
by row, and these numbers are also the variables of the search.
-/

namespace ConstraintSearch.Sudoku

def cellCount : Nat := 81

def cellAt (row col : Nat) : Nat := row * 9 + col

def rowOf (cell : Nat) : Nat := cell / 9

def colOf (cell : Nat) : Nat := cell % 9

def rowCells (i : Nat) : List Nat := (List.range 9).map (cellAt i)

def colCells (i : Nat) : List Nat := (List.range 9).map (cellAt · i)

/-- The cells of the box whose upper left corner is given, row by row. -/
def boxCells (row col : Nat) : List Nat :=
  (List.range 9).map fun i => cellAt (row + i / 3) (col + i % 3)

def digits : List Nat := [1, 2, 3, 4, 5, 6, 7, 8, 9]

structure Grid where
  cells : Vector Nat 81
deriving DecidableEq

namespace Grid

def empty : Grid := ⟨Vector.replicate 81 0⟩

/-- The content of a cell; beyond the grid there is nothing. -/
def get (g : Grid) (cell : Nat) : Nat := g.cells[cell]?.getD 0

def ofCells? (cells : List Nat) : Option Grid :=
  if h : cells.length = 81 then some ⟨⟨cells.toArray, by simpa using h⟩⟩ else none

def rows (g : Grid) : List (List Nat) :=
  (List.range 9).map fun row => (rowCells row).map g.get

/-- The lowest cell that holds more than a digit, if any. -/
def largeCell? (g : Grid) : Option Nat := (List.range cellCount).find? fun cell => 9 < g.get cell

/-- The assignment of a grid: empty cells are variables without a value. -/
def toAssignment (g : Grid) : Except Failure (Assignment Nat) :=
  match g.largeCell? with
  | some cell => .error (.invalidGrid (.cellValue (rowOf cell) (colOf cell) (g.get cell)))
  | none => .ok ⟨g.cells.toArray.map fun value => if value = 0 then none else some value⟩

/-- The grid of an assignment of any size. Slots beyond the grid are left out, and cells without
a slot are empty. -/
def ofAssignment (a : Assignment Nat) : Grid := ⟨Vector.ofFn fun cell => (a.get? cell).getD 0⟩

/-- Whether every row, column and box holds each digit once. -/
def isSolution (g : Grid) : Bool :=
  (List.range 9).all fun i =>
    [rowCells i, colCells i, boxCells (i / 3 * 3) (i % 3 * 3)].all fun unit =>
      (unit.map g.get).mergeSort == digits

/-- Characters between cells that mean nothing. -/
def isSeparator (c : Char) : Bool := Text.isBlank c || c == '|' || c == '-' || c == '+'

def contentOf? (c : Char) : Option Nat :=
  if c = '.' then some 0 else if c.isDigit then some (c.toNat - '0'.toNat) else none

/-- Reads 81 cells, digits or dots, with separators anywhere between them. -/
def parse (text : String) : Except Failure Grid :=
  let marks := text.toList.filter fun c => !isSeparator c
  match marks.find? fun c => (contentOf? c).isNone with
  | some c => .error (.invalidGrid (.strayCharacter c))
  | none =>
    match ofCells? (marks.filterMap contentOf?) with
    | some g => .ok g
    | none => .error (.invalidGrid (.cellCount marks.length))

def cellText (value : Nat) : List Char := if value = 0 then ['.'] else Nat.toDigits 10 value

/-- What stands before a cell of a row: a blank between cells, and a bar between boxes. -/
def gapBefore (col : Nat) : List Char :=
  if col = 0 then [] else if col % 3 = 0 then [' ', '|', ' '] else [' ']

def rowText (values : List Nat) : List Char :=
  values.zipIdx.flatMap (fun (value, col) => gapBefore col ++ cellText value) ++ ['\n']

/-- What stands before a row: a rule between boxes. -/
def ruleBefore (row : Nat) : List Char :=
  if row ≠ 0 ∧ row % 3 = 0 then "------+-------+------\n".toList else []

/-- A row to a line, with dots for empty cells. -/
def render (g : Grid) : String :=
  String.ofList (g.rows.zipIdx.flatMap fun (values, row) => ruleBefore row ++ rowText values)

/-- A classic puzzle with one solution. -/
def classic : Grid := ⟨#v[
  5, 3, 0, 0, 7, 0, 0, 0, 0,
  6, 0, 0, 1, 9, 5, 0, 0, 0,
  0, 9, 8, 0, 0, 0, 0, 6, 0,
  8, 0, 0, 0, 6, 0, 0, 0, 3,
  4, 0, 0, 8, 0, 3, 0, 0, 1,
  7, 0, 0, 0, 2, 0, 0, 0, 6,
  0, 6, 0, 0, 0, 0, 2, 8, 0,
  0, 0, 0, 4, 1, 9, 0, 0, 5,
  0, 0, 0, 0, 8, 0, 0, 7, 9]⟩

/-- The solution of the classic puzzle, which stands in where no grid can be generated. -/
def fallback : Grid := ⟨#v[
  5, 3, 4, 6, 7, 8, 9, 1, 2,
  6, 7, 2, 1, 9, 5, 3, 4, 8,
  1, 9, 8, 3, 4, 2, 5, 6, 7,
  8, 5, 9, 7, 6, 1, 4, 2, 3,
  4, 2, 6, 8, 5, 3, 7, 9, 1,
  7, 1, 3, 9, 2, 4, 8, 5, 6,
  9, 6, 1, 5, 3, 7, 2, 8, 4,
  2, 8, 7, 4, 1, 9, 6, 3, 5,
  3, 4, 5, 2, 8, 6, 1, 7, 9]⟩

end Grid

end ConstraintSearch.Sudoku
