/-!
Filling text up to a width that is counted in characters. Longer text is left as it is.
-/

namespace ConstraintSearch.Text

/-- Both sides of a centred text share the filling; an odd one out goes to the right. -/
inductive Side where
  | left
  | right
  | centre
deriving DecidableEq

def repeated (c : Char) (n : Nat) : String := String.ofList (List.replicate n c)

def pad (side : Side) (fill : Char) (width : Nat) (text : String) : String :=
  let missing := width - text.length
  match side with
  | .left => text ++ repeated fill missing
  | .right => repeated fill missing ++ text
  | .centre => repeated fill (missing / 2) ++ text ++ repeated fill (missing - missing / 2)

def truncate (count : Nat) (text : String) : String := String.ofList (text.toList.take count)

/-- Widths and counts of fields are words of 16 bits. -/
def fieldLimit : Nat := Nat.pow 2 16

/-- A text cut to a count of characters and filled up to a width. -/
def field? (side : Side) (fill : Char) (width count : Nat) (text : String) : Option String :=
  if width < fieldLimit ∧ count < fieldLimit then some (pad side fill width (truncate count text))
  else none

end ConstraintSearch.Text
