import ConstraintSearch.Text.Measured
import ConstraintSearch.Text.Padding

/-!
Tables with rules around every row and bars around every cell.
-/

namespace ConstraintSearch.Text

/-- Lines end at a line feed, with or without a carriage return before it. A line feed at the end
starts no further line. -/
def linesOf (text : String) : List String :=
  let pieces := text.splitOn "\n"
  let last := pieces.getLastD ""
  let ended := pieces.dropLast.map fun line =>
    if line.endsWith "\r" then String.ofList line.toList.dropLast else line
  if last.isEmpty then ended else ended ++ [last]

/-- How far a character is into a control sequence, which starts with an escape and a bracket and
ends with a letter. -/
inductive Sequence where
  | outside
  | escape
  | inside
  | closing
deriving DecidableEq

def Sequence.next : Sequence → Char → Sequence
  | .outside, c | .closing, c => if c = '\x1b' then .escape else .outside
  | .escape, c => if c = '[' then .inside else .outside
  | .inside, c => if c = 'm' then .closing else .inside

def isControl (c : Char) : Bool := c.toNat < 0x20 || (0x7f ≤ c.toNat && c.toNat < 0xa0)

def isVisible (c : Char) : Bool := !isControl c && 0 < charColumns c

/-- How many visible characters belong to control sequences. Each hides one column, however wide it
is. The escape itself is not among them. -/
def hiddenColumns : Sequence → List Char → Nat
  | _, [] => 0
  | state, c :: rest =>
    let state := state.next c
    let inSequence := state = .inside || state = .closing
    (if inSequence && isVisible c then 1 else 0) + hiddenColumns state rest

structure Line where
  text : String
  columns : Nat

/-- A line cannot be shown if its control sequences hide more than its characters take, as they may
when characters inside them share their columns. -/
def Line.ofText? (text : String) : Option Line :=
  let taken := lineColumns text.toList
  let hidden := hiddenColumns .outside text.toList
  if hidden ≤ taken then some ⟨text, taken - hidden⟩ else none

/-- A cell is at least one line tall, though it may be empty. -/
structure Cell where
  lines : List Line

def Cell.ofText? (text : String) : Option Cell := ((linesOf text).mapM Line.ofText?).map .mk

def Cell.width (c : Cell) : Nat := (c.lines.map Line.columns).foldl max 0

def rowHeight (row : List Cell) : Nat := (row.map fun c => c.lines.length).foldl max 1

def columnWidths : List (List Cell) → List Nat
  | [] => []
  | [row] => row.map Cell.width
  | row :: rest => List.zipWith max (row.map Cell.width) (columnWidths rest)

def rule (widths : List Nat) : String :=
  "+" ++ String.join (widths.map fun width => repeated '-' (width + 2) ++ "+") ++ "\n"

/-- One line of a row. Cells are set to the left, with a blank on either side. -/
def rowLine (widths : List Nat) (row : List Cell) (number : Nat) : String :=
  "|" ++ String.join ((row.zip widths).map fun (cell, width) =>
    let line := cell.lines.getD number ⟨"", 0⟩
    " " ++ line.text ++ repeated ' ' (width - line.columns) ++ " |") ++ "\n"

def rowText (widths : List Nat) (row : List Cell) : String :=
  String.join ((List.range (rowHeight row)).map (rowLine widths row))

/-- All rows have equally many cells. There is no table if a line of a cell cannot be shown. -/
def ruledTable? (rows : List (List String)) : Option String := do
  let rows ← rows.mapM fun row => row.mapM Cell.ofText?
  let widths := columnWidths rows
  return rule widths ++ String.join (rows.map fun row => rowText widths row ++ rule widths)

end ConstraintSearch.Text
