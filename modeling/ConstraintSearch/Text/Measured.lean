import ConstraintSearch.Text.Ligature
import ConstraintSearch.Text.Picture

/-!
The columns that a line of text takes on a terminal. A line is read from its end, since what a
character adds depends on the text to its right.
-/

namespace ConstraintSearch.Text

/-- What the text to the right makes of the next character to the left. -/
inductive Awaited where
  | nothing
  | letter (l : Ligature)
  | picture (p : Picture)
deriving DecidableEq

/-- A selector asks that the character before it is drawn as a picture or as text. -/
inductive Selector where
  | picture
  | text
deriving DecidableEq

structure Beginning where
  awaited : Awaited
  selector : Option Selector := none
deriving DecidableEq

namespace Awaited

/-- What is left of it beyond a selector that was of no use. -/
def beyondSelector : Awaited → Awaited
  | .letter l => letter l
  | _ => nothing

/-- What is left of it beyond a selector for pictures: besides letters, a joiner. -/
def beyondPictureSelector : Awaited → Awaited
  | .picture p => if p.isJoined then picture p else nothing
  | a => a

/-- The columns of a character that nothing to its right cares about. -/
def alone (c : Char) : Int × Awaited :=
  (charColumns c, match Ligature.of? c, Picture.of? c with
    | some l, _ => letter l
    | none, some p => picture p
    | none, none => nothing)

def before (a : Awaited) (c : Char) : Int × Awaited :=
  let shared? : Option (Int × Awaited) := match a with
    | .nothing => none
    | .letter l => (l.before? c).map fun (columns, l?) => (columns, (l?.map letter).getD nothing)
    | .picture p => (p.before? c).map fun (columns, p) => (columns, picture p)
  shared?.getD (alone c)

end Awaited

def pictureSelector : Char := '\ufe0f'

def textSelector : Char := '\ufe0e'

/-- The columns that a character adds to a text that begins without a pending selector. -/
def addedPlain (a : Awaited) (c : Char) : Int × Beginning :=
  if c = pictureSelector then (0, ⟨a.beyondPictureSelector, some .picture⟩)
  else if c = textSelector then (0, ⟨a.beyondSelector, some .text⟩)
  else if c.toNat ≤ 0xa0 then (1, ⟨.nothing, none⟩)
  else
    let (columns, a) := a.before c
    (columns, ⟨a, none⟩)

def addedColumns (c : Char) (right : Beginning) : Int × Beginning :=
  match right.selector with
  | none => addedPlain right.awaited c
  | some .picture =>
    if selectableRanges.has c then
      let tied := right.awaited = .picture .joined || right.awaited = .picture .key
      (if tied then 0 else 2, ⟨.picture .whole, none⟩)
    else addedPlain right.awaited.beyondSelector c
  | some .text =>
    if isTextPicture c then (1, ⟨.nothing, none⟩) else addedPlain right.awaited.beyondSelector c

/-- The columns of a line of text. What a sequence takes back it has added before. -/
def lineColumns (line : List Char) : Nat :=
  (line.foldr (fun c (total, right) =>
    let (added, right) := addedColumns c right
    (total + added, right)) ((0 : Int), ⟨Awaited.nothing, none⟩)).1.toNat

end ConstraintSearch.Text
