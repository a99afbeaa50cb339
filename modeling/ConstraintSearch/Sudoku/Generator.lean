import ConstraintSearch.Sudoku.Board

/-!
Random full grids, and puzzles carved out of them.
-/

namespace ConstraintSearch.Sudoku
open Chance

structure Settings where
  /-- The chance of each cell to be cleared. -/
  clearChance : Binary64 := .ofDecimal false 7 (-1)
deriving DecidableEq

def Settings.validate (s : Settings) : Except Failure Unit :=
  if Binary64.zero.le s.clearChance && s.clearChance.le (.ofNat 1) then .ok ()
  else .error (.config (.clearChance s.clearChance))

def fillBox (g : Grid) (band : Nat) (values : List Nat) : Grid :=
  ⟨((boxCells (band * 3) (band * 3)).zip values).foldl
    (fun cells (cell, value) => cells.setIfInBounds cell value) g.cells⟩

/-- Three boxes that share no row, column or box, each a random arrangement of the digits. -/
def diagonalBoxes (generator : Generator) : Grid × Generator :=
  (List.range 3).foldl (fun (g, generator) band =>
    let (values, generator) := shuffle digits generator
    (fillBox g band values, generator)) (.empty, generator)

/-- The solved grid of an attempt to fill one. Without it there is still a valid grid. -/
def gridOrFallback : Except Failure (Report Nat) → Grid
  | .ok ⟨.solved solution, _⟩ => .ofAssignment solution
  | _ => .fallback

/-- A random full grid. A search in random order, seeded by one more draw, fills what the
diagonal boxes leave open. -/
def fullGrid (generator : Generator) : Grid × Generator :=
  let (boxes, generator) := diagonalBoxes generator
  match boxes.toAssignment with
  | .error failure => (gridOrFallback (.error failure), generator)
  | .ok givens =>
    let (seed, generator) := generator.next64
    let engine : Engine Generator Nat := ⟨.shuffled, .ofSeed seed⟩
    (gridOrFallback ((engine.solve model givens).map Prod.fst), generator)

/-- Clears each cell with the given chance, in order. Every cell takes a draw, also one that is
empty already. -/
def clearCells (chance : Binary64) : List Nat → Generator → List Nat × Generator
  | [], generator => ([], generator)
  | value :: rest, generator =>
    let (cleared, generator) := coin chance generator
    let (rest, generator) := clearCells chance rest generator
    ((if cleared then 0 else value) :: rest, generator)

theorem length_clearCells (chance : Binary64) (values : List Nat) (generator : Generator) :
    (clearCells chance values generator).1.length = values.length := by
  induction values generalizing generator with
  | nil => rfl
  | cons value rest ih => simp [clearCells, ih]

def clear (g : Grid) (chance : Binary64) (generator : Generator) : Grid × Generator :=
  (⟨⟨(clearCells chance g.cells.toList generator).1.toArray, by simp [length_clearCells]⟩⟩,
    (clearCells chance g.cells.toList generator).2)

/-- A puzzle whose givens are the cells of a grid that were not cleared. A chance outside its
range draws nothing. -/
def carve (full : Grid) (chance : Binary64) : Draw Board := do
  Settings.validate ⟨chance⟩
  let cleared ← Draw.sure (clear full chance)
  Board.ofGrid cleared

/-- A random puzzle. The full grid is drawn before the chance is looked at. -/
def generate (settings : Settings) : Draw Board := do
  let full ← Draw.sure fullGrid
  carve full settings.clearChance

end ConstraintSearch.Sudoku
