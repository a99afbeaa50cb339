import ConstraintSearch.Colouring.Map
import ConstraintSearch.Json.Reader
import ConstraintSearch.Json.Record
import ConstraintSearch.Json.Writer
import ConstraintSearch.Queens.Board
import ConstraintSearch.Sudoku.Generator

/-!
The JSON forms of puzzles, their parts and their settings.
-/

namespace ConstraintSearch

def Duration.toJson (d : Duration) : Json :=
  .record [("secs", .natural d.seconds), ("nanos", .natural d.nanoseconds)]

def Stats.toJson (s : Stats) : Json :=
  .record [("nodes_visited", .natural s.nodes), ("constraint_checks", .natural s.checks),
    ("backtracks", .natural s.backtracks), ("elapsed", s.elapsed.toJson)]

def Assignment.toJson {V : Type} (encode : V → Json) (a : Assignment V) : Json :=
  .record [("slots", .array (a.toList.map (.ofOption encode)))]

def Algorithm.toJson (a : Algorithm) : Json := .text a.key

def Algorithm.ofJson? (json : Json) : Option Algorithm := json.name?.bind ofKey?

namespace Queens

def Board.toJson (b : Board) : Json :=
  .record [("n", .natural b.size), ("queens", b.queens.toJson .natural), ("stats", b.stats.toJson)]

end Queens

namespace Sudoku

def Board.toJson (b : Board) : Json :=
  .record [("cells", b.cells.toJson .natural),
    ("fixed", .array (b.givenRows.map fun row => .array (row.map .bool))),
    ("stats", b.stats.toJson)]

def Settings.toJson (s : Settings) : Json :=
  .record [("clear_probability", .ofBinary64 s.clearChance)]

def Settings.ofJson? (json : Json) : Option Settings := do
  match ← json.recordFields? ["clear_probability"] with
  | [chance] => return ⟨← Json.fieldOr Json.binary64? (Settings.clearChance {}) chance⟩
  | _ => none

/-- Settings from the text of a file, checked. -/
def Settings.ofText (text : String) : Except Failure Settings :=
  match (Json.read? text).bind Settings.ofJson? with
  | some s => s.validate.map fun _ => s
  | none => .error .unreadable

end Sudoku

namespace Colouring

def Colour.toJson (c : Colour) : Json := .text c.name

def Colour.ofJson? (json : Json) : Option Colour := json.name?.bind ofName?

def Region.toJson (r : Region) : Json :=
  .record [("id", .natural r.id), ("x", .ofBinary64 r.x), ("y", .ofBinary64 r.y),
    ("radius", .ofBinary64 r.radius)]

/-- A region in data lacks nothing. -/
def Region.ofJson? (json : Json) : Option Region := do
  match ← json.recordFields? ["id", "x", "y", "radius"] with
  | [some id, some x, some y, some radius] =>
    return ⟨← id.natural?, ← x.binary64?, ← y.binary64?, ← radius.binary64?⟩
  | _ => none

def Settings.toJson (s : Settings) : Json :=
  .record [("width", .ofBinary64 s.width), ("height", .ofBinary64 s.height),
    ("min_regions", .natural s.leastRegions), ("max_regions", .natural s.mostRegions),
    ("min_radius", .ofBinary64 s.leastRadius), ("max_radius", .ofBinary64 s.mostRadius),
    ("overlap_margin", .ofBinary64 s.margin)]

def Settings.ofJson? (json : Json) : Option Settings := do
  let default : Settings := {}
  let number := Json.fieldOr Json.binary64?
  let count := Json.fieldOr Json.natural?
  match ← json.recordFields? ["width", "height", "min_regions", "max_regions", "min_radius",
      "max_radius", "overlap_margin"] with
  | [width, height, leastRegions, mostRegions, leastRadius, mostRadius, margin] =>
    return {
      width := ← number default.width width
      height := ← number default.height height
      leastRegions := ← count default.leastRegions leastRegions
      mostRegions := ← count default.mostRegions mostRegions
      leastRadius := ← number default.leastRadius leastRadius
      mostRadius := ← number default.mostRadius mostRadius
      margin := ← number default.margin margin }
  | _ => none

/-- Settings from the text of a file, checked. -/
def Settings.ofText (text : String) : Except Failure Settings :=
  match (Json.read? text).bind Settings.ofJson? with
  | some s => s.validate.map fun _ => s
  | none => .error .unreadable

def Map.toJson (m : Map) : Json :=
  .record [("regions", .array (m.regions.map Region.toJson)),
    ("adjacency", .array (m.adjacency.toList.map fun ids => .array (ids.map .natural))),
    ("colouring", m.colouring.toJson Colour.toJson), ("palette_size", .natural m.paletteSize),
    ("stats", m.stats.toJson)]

end Colouring

end ConstraintSearch
