import ConstraintSearch.Colouring.Colour
import ConstraintSearch.Colouring.Region
import ConstraintSearch.Colouring.Settings
import ConstraintSearch.Puzzle

/-!
Maps as puzzles: regions that border each other must differ in colour. There are no givens.
-/

namespace ConstraintSearch.Colouring
open Chance

/-- For each region the regions it borders, in ascending order. -/
abbrev Adjacency := Array (List Nat)

/-- Puts a number into an ascending list, once. -/
def insertAscending (n : Nat) : List Nat → List Nat
  | [] => [n]
  | m :: rest =>
    if n < m then n :: m :: rest
    else if n = m then m :: rest
    else m :: insertAscending n rest

namespace Adjacency

/-- The neighbours of a region. A region that does not exist has none. -/
def neighbours (adjacency : Adjacency) (id : Nat) : List Nat := adjacency[id]?.getD []

/-- Every border once, from the lower region to the higher. -/
def edges (adjacency : Adjacency) : List (Nat × Nat) :=
  adjacency.toList.zipIdx.flatMap fun (neighbours, id) =>
    (neighbours.filter (id < ·)).map (id, ·)

def insertEdge (adjacency : Adjacency) (a b : Nat) : Adjacency :=
  (adjacency.modify a (insertAscending b)).modify b (insertAscending a)

/-- The adjacency of a list of borders, which may come in any order and direction and more than
once. The first one that does not join two regions is refused. -/
def ofEdges (count : Nat) (edges : List (Nat × Nat)) : Except Failure Adjacency :=
  edges.foldlM (fun adjacency (a, b) =>
    if a < count ∧ b < count ∧ a ≠ b then .ok (adjacency.insertEdge a b)
    else .error (.invalidBorder a b count)) (Array.replicate count [])

def ofRegions (margin : Binary64) (regions : List Region) : Adjacency :=
  (regions.map fun region =>
    (regions.filter fun other => other.id != region.id && region.borders margin other).map
      Region.id).toArray

end Adjacency

def model (adjacency : Adjacency) (palette : List Colour) : Model Colour where
  name := "MapColouring"
  description :=
    let borders := (adjacency.toList.map List.length).foldl (· + ·) 0 / 2
    s!"{adjacency.size} regions, {borders} borders, {palette.length} colours"
  count := adjacency.size
  domain _ := palette
  consistent a id colour := (adjacency.neighbours id).all fun other => a.get? other != some colour

structure Map where
  regions : List Region
  adjacency : Adjacency
  colouring : Assignment Colour
  paletteSize : Nat
  stats : Stats
deriving DecidableEq

namespace Map

def blank (regions : List Region) (adjacency : Adjacency) : Map :=
  ⟨regions, adjacency, .blank regions.length, Colour.palette.length, {}⟩

/-- A map of regions, which are renumbered by their places in the list. -/
def ofRegions (regions : List Region) (margin : Binary64) : Map :=
  let regions := regions.zipIdx.map fun (region, id) => { region with id }
  blank regions (.ofRegions margin regions)

/-- A map of borders alone. Its regions are points on a line. -/
def ofEdges (count : Nat) (edges : List (Nat × Nat)) : Except Failure Map := do
  let adjacency ← Adjacency.ofEdges count edges
  let regions := (List.range count).map fun id => ⟨id, .ofNat id, .zero, .zero⟩
  return blank regions adjacency

def drawRegion (s : Settings) (id : Nat) : Draw Region := do
  let radius ← Draw.within s.leastRadius s.mostRadius
  let x ← Draw.within radius (s.width.sub radius)
  let y ← Draw.within radius (s.height.sub radius)
  return ⟨id, x, y, radius⟩

def generate (s : Settings) : Draw Map := do
  s.validate
  let count ← Draw.sure (between s.leastRegions s.mostRegions)
  let regions ← (List.range count).mapM (drawRegion s)
  return ofRegions regions s.margin

def reset (m : Map) : Map := { m with colouring := m.colouring.clear, stats := {} }

/-- Leaves only the first colours of the palette to choose from, and takes all colours away. -/
def withPaletteSize (m : Map) (size : Nat) : Except Failure Map :=
  if size = 0 ∨ Colour.palette.length < size then
    .error (.config (.paletteSize size Colour.palette.length))
  else .ok ({ m with paletteSize := size } : Map).reset

def palette (m : Map) : List Colour := Colour.palette.take m.paletteSize

def neighbours (m : Map) (id : Nat) : List Nat := m.adjacency.neighbours id

def edges (m : Map) : List (Nat × Nat) := m.adjacency.edges

def colourOf? (m : Map) (id : Nat) : Option Colour := m.colouring.get? id

/-- Whether every slot has a colour of the palette and the two ends of every border differ. -/
def isProper (m : Map) : Bool :=
  m.colouring.isComplete && m.colouring.assigned.all (fun (_, colour) => m.palette.contains colour)
    && m.edges.all fun (a, b) => m.colourOf? a != m.colourOf? b

/-- Displays a solution, or no colours. The length of a solution is not checked. -/
def apply (m : Map) (report : Report Colour) : Map :=
  { m with
    colouring := report.outcome.solution?.getD (.blank m.regions.length)
    stats := report.stats }

instance : Puzzle Map Colour where
  model m := model m.adjacency m.palette
  initial m := .ok (.blank m.regions.length)
  displayed := colouring
  stats := stats
  apply m report := .ok (m.apply report)
  reset m := .ok m.reset

end Map

end ConstraintSearch.Colouring
