import ConstraintSearch.Colouring.Map
import ConstraintSearch.CommandLine.Arguments
import ConstraintSearch.CommandLine.FileTrouble
import ConstraintSearch.Comparison
import ConstraintSearch.Exchange
import ConstraintSearch.Queens.Board
import ConstraintSearch.Sudoku.Generator

/-!
What the program prints for each command. Nothing here reads a file, a clock or the environment:
those come as arguments.
-/

namespace ConstraintSearch.CommandLine
open Text

def versionText : String := "csp-lab 0.1.0\n"

/-- Printing that may fail. What has been printed before a failure stays. -/
abbrev Session (α : Type) := ExceptT Failure (StateM String) α

def print (text : String) : Session Unit := modify (· ++ text)

def printLine (text : String) : Session Unit := print (text ++ "\n")

def statusLabel : Status → String
  | .running => "Running"
  | .solved => "Solved"
  | .unsatisfiable => "Unsatisfiable"

def eventLine {V : Type} (form : V → String) (number depth : Nat) : Event V → String
  | .assigned var value =>
    pad .right ' ' 6 (toString number) ++ "  depth " ++ pad .right ' ' 2 (toString depth) ++
      s!"  ?{var} = " ++ form value
  | .rejected var value =>
    pad .right ' ' 6 (toString number) ++ s!"  ?{var} != " ++ form value
  | .backtracked var => pad .right ' ' 6 (toString number) ++ s!"  undo ?{var}"
  | .finished status => pad .right ' ' 6 (toString number) ++ "  " ++ statusLabel status

/-- Solves a puzzle in natural order and shows the events if asked to. -/
def solve {P V : Type} [Puzzle P V] (options : Options) (form : V → String)
    (engine : Engine Unit V) (p : P) : Session (Report V × P) := do
  if options.animate then
    let (events, report, p, _) ← Puzzle.solveTracing p engine
    for ((event, depth), place) in events.zipIdx do
      printLine (eventLine form (place + 1) depth event)
    return (report, p)
  else
    let (report, p, _) ← Puzzle.solve p engine
    return (report, p)

def printStats (label : String) (solved : Bool) (stats : Stats) : Session Unit := do
  printLine (← Comparison.table [⟨label, solved, stats⟩])

/-- A number with one place, filled up from the left. -/
def measure (width : Nat) (x : Binary64) : String :=
  pad .right ' ' width (Decimal.fixedText 1 x)

def regionLine (m : Colouring.Map) (r : Colouring.Region) : String :=
  let colour := match m.colourOf? r.id with
    | some c => c.name ++ " (" ++ c.hex ++ ")"
    | none => "-"
  "region " ++ pad .right ' ' 2 (toString r.id) ++ " at (" ++ measure 5 r.x ++ ", " ++
    measure 5 r.y ++ ") r=" ++ measure 4 r.radius ++ ": " ++ colour ++ "  borders [" ++
    ", ".intercalate ((m.neighbours r.id).map toString) ++ "]"

def colourMap (options : Options) (colours : Nat) (settings : Colouring.Settings)
    (generator : Chance.Generator) : Session Unit := do
  let drawn ← (Colouring.Map.generate settings generator).1
  let m ← drawn.withPaletteSize colours
  let engine ← options.algorithm.engine .natural ()
  let (report, m) ← solve options Colouring.Colour.label engine m
  if options.json then printLine m.toJson.pretty
  else for r in m.regions do printLine (regionLine m r)
  printStats s!"map, {m.regions.length} regions" report.outcome.isSolved m.stats

def fillGrid (options : Options) (board : Sudoku.Board) : Session Unit := do
  printLine board.grid.render
  let engine ← options.algorithm.engine .natural ()
  let (report, board) ← solve options (fun digit : Nat => toString digit) engine board
  if options.json then printLine board.toJson.pretty
  else if report.outcome.isSolved then printLine board.grid.render
  else printLine "No solution found."
  printStats s!"sudoku, {board.givenCount} givens" report.outcome.isSolved board.stats

def placeQueens (options : Options) (size : Nat) : Session Unit := do
  let board ← Queens.Board.ofSize size
  let engine ← options.algorithm.engine .natural ()
  let (report, board) ← solve options (fun row : Nat => toString row) engine board
  if options.json then printLine board.toJson.pretty
  else if report.outcome.isSolved then print board.render
  else printLine "No solution found."
  printStats s!"N={size}" report.outcome.isSolved board.stats

def sweepRows (engine : Engine Unit Nat) : List Nat → Except Failure (List Comparison)
  | [] => .ok []
  | size :: rest => do
    let board ← Queens.Board.ofSize size
    let (report, _, engine) ← Puzzle.solve board engine
    return ⟨s!"N={size}", report.outcome.isSolved, report.stats⟩ :: (← sweepRows engine rest)

/-- Sizes that boards do not have are left out. -/
def sweep (options : Options) (least most : Nat) : Session Unit := do
  let engine ← options.algorithm.engine .natural ()
  let least := max least Queens.leastSize
  let most := min most Queens.mostSize
  let rows ← sweepRows engine (List.range' least (most + 1 - least))
  printLine (← Comparison.table rows)

def listAlgorithms : Session Unit :=
  for algorithm in Algorithm.all do
    let status := if algorithm.isImplemented then "available" else "description only"
    printLine (pad .left ' ' 18 algorithm.name ++ " " ++ pad .left ' ' 17 status ++ " " ++
      algorithm.description)

/-- Settings from a file, given how the text of a file is read. -/
def settingsOf (textOfFile : String → Except FileTrouble String) :
    Option String → Except Failure Colouring.Settings
  | none => .ok {}
  | some path =>
    match textOfFile path with
    | .ok text => Colouring.Settings.ofText text
    | .error trouble => .error (.config (.described (path ++ ": " ++ trouble.reason)))

/-- Carries out a command. The seed is for what is random. -/
def perform (textOfFile : String → Except FileTrouble String) (seed : UInt64) (options : Options) :
    Command → Session Unit
  | .map colours config => do
    colourMap options colours (← settingsOf textOfFile config) (.ofSeed seed)
  | .sudoku (some text) _ => do
    fillGrid options (← Sudoku.Board.ofGrid (← Sudoku.Grid.parse text))
  | .sudoku none clearChance => do
    fillGrid options (← (Sudoku.generate ⟨clearChance⟩ (.ofSeed seed)).1)
  | .queens size => placeQueens options size
  | .queensSweep least most => sweep options least most
  | .algorithms => listAlgorithms

/-- The text printed and the failure that ended it, if one did. -/
def transcript (session : Session Unit) : String × Option Failure :=
  let (result, printed) := session ""
  (printed, match result with
    | .ok () => none
    | .error failure => some failure)

end ConstraintSearch.CommandLine
