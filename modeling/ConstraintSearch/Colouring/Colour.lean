/-!
The colours of a map.
-/

namespace ConstraintSearch.Colouring

inductive Colour where
  | red
  | green
  | blue
  | yellow
  | purple
  | orange
deriving DecidableEq, Inhabited

namespace Colour

/-- All colours, in the order in which they are tried. -/
def palette : List Colour := [.red, .green, .blue, .yellow, .purple, .orange]

def index : Colour → Nat
  | .red => 0
  | .green => 1
  | .blue => 2
  | .yellow => 3
  | .purple => 4
  | .orange => 5

def name : Colour → String
  | .red => "red"
  | .green => "green"
  | .blue => "blue"
  | .yellow => "yellow"
  | .purple => "purple"
  | .orange => "orange"

def label : Colour → String
  | .red => "Red"
  | .green => "Green"
  | .blue => "Blue"
  | .yellow => "Yellow"
  | .purple => "Purple"
  | .orange => "Orange"

/-- Red, green and blue parts in hexadecimal. -/
def hex : Colour → String
  | .red => "#e74c3c"
  | .green => "#2ecc71"
  | .blue => "#3498db"
  | .yellow => "#f1c40f"
  | .purple => "#9b59b6"
  | .orange => "#e67e22"

def ofName? (name : String) : Option Colour := palette.find? fun c => c.name == name

end Colour

end ConstraintSearch.Colouring
