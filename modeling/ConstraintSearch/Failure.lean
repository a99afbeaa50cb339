import ConstraintSearch.Algorithm
import ConstraintSearch.Decimal.Layout
import ConstraintSearch.Text.Quoted

/-!
What can be wrong with a request. A problem without a solution is not a failure: searches report
it as an ordinary outcome.
-/

namespace ConstraintSearch

/-- Why a grid cannot be used. -/
inductive GridFlaw where
  /-- A cell holds more than a digit. -/
  | cellValue (row col value : Nat)
  /-- The text of a grid holds a character that is no cell and no separator. -/
  | strayCharacter (c : Char)
  /-- The text of a grid has another number of cells. -/
  | cellCount (count : Nat)
  | described (text : String)
deriving DecidableEq

/-- Why settings cannot be used. -/
inductive ConfigFlaw where
  | regionRange (least most : Nat)
  | tooManyRegions (limit most : Nat)
  | radiusRange (least most : Binary64)
  | canvasTooSmall (width height radius : Binary64)
  | negativeMargin (margin : Binary64)
  | clearChance (chance : Binary64)
  | paletteSize (size limit : Nat)
  | described (text : String)
deriving DecidableEq

inductive Failure where
  | noVariables
  | emptyDomain (var : Nat)
  | assignmentSize (expected actual : Nat)
  | unsupportedAlgorithm (algorithm : Algorithm)
  | boardSize (size least most : Nat)
  | cellOutOfBounds (row col : Nat)
  | fixedCell (row col : Nat)
  | invalidGrid (flaw : GridFlaw)
  | config (flaw : ConfigFlaw)
  /-- A border joins a region with itself or names one that does not exist. -/
  | invalidBorder (first second count : Nat)
  | described (text : String)
  /-- A text of settings or data does not have the required form. -/
  | unreadable
  /-- An assignment has no slot for a variable, or its owner has no cell for a slot. -/
  | noSlot (var count : Nat)
  /-- A random number was asked for from a range that is unordered or not finite. -/
  | unusableRange (low high : Binary64)
  /-- A number does not fit the word that is to hold it. -/
  | overflow
deriving DecidableEq

def GridFlaw.message : GridFlaw → String
  | .cellValue row col value => s!"cell ({row}, {col}) holds {value}"
  | .strayCharacter c => "unexpected character " ++ Text.quoteChar c
  | .cellCount count => s!"expected 81 cells, found {count}"
  | .described text => text

def ConfigFlaw.message : ConfigFlaw → String
  | .regionRange least most =>
    s!"region count range {least}..={most} is empty or starts at zero"
  | .tooManyRegions limit most => s!"at most {limit} regions are supported, got {most}"
  | .radiusRange least most =>
    "radius range " ++ Decimal.text .plain least ++ "..=" ++ Decimal.text .plain most ++
      " is not positive and ordered"
  | .canvasTooSmall width height radius =>
    "a " ++ Decimal.text .plain width ++ "x" ++ Decimal.text .plain height ++
      " canvas cannot fit regions of radius " ++ Decimal.text .plain radius
  | .negativeMargin margin =>
    "overlap margin " ++ Decimal.text .plain margin ++ " is negative"
  | .clearChance chance =>
    "clear probability " ++ Decimal.text .plain chance ++ " is outside 0..=1"
  | .paletteSize size limit => s!"palette size {size} is outside 1..={limit}"
  | .described text => text

namespace Failure

/-- The text of a failure that is none of the standard kinds. -/
def borderText (first second count : Nat) : String :=
  s!"border ({first}, {second}) does not join two distinct regions of {count}"

def unreadableText : String := "the text is not of the required form"

def noSlotText (var count : Nat) : String := s!"there is no slot {var} among {count}"

def unusableRangeText (low high : Binary64) : String :=
  "cannot draw from " ++ Decimal.text .plain low ++ "..=" ++ Decimal.text .plain high

def overflowText : String := "a number is too large"

/-- What a user is told. -/
def message : Failure → String
  | .noVariables => "the problem has no variables"
  | .emptyDomain var => s!"variable ?{var} has an empty domain"
  | .assignmentSize expected actual =>
    s!"assignment has {actual} slots but the model has {expected} variables"
  | .unsupportedAlgorithm algorithm =>
    algorithm.name ++ " is descriptive only and has no solver behind it"
  | .boardSize size least most => s!"board size {size} is outside {least}..={most}"
  | .cellOutOfBounds row col => s!"cell ({row}, {col}) is outside the 9x9 grid"
  | .fixedCell row col => s!"cell ({row}, {col}) is a given and cannot be edited"
  | .invalidGrid flaw => "invalid grid: " ++ flaw.message
  | .config flaw => "invalid configuration: " ++ flaw.message
  | .invalidBorder first second count => borderText first second count
  | .described text => text
  | .unreadable => "invalid configuration: " ++ unreadableText
  | .noSlot var count => noSlotText var count
  | .unusableRange low high => unusableRangeText low high
  | .overflow => overflowText

def kind : Failure → String
  | .noVariables => "NoVariables"
  | .emptyDomain _ => "EmptyDomain"
  | .assignmentSize .. => "AssignmentSize"
  | .unsupportedAlgorithm _ => "UnsupportedAlgorithm"
  | .boardSize .. => "BoardSize"
  | .cellOutOfBounds .. => "CellOutOfBounds"
  | .fixedCell .. => "FixedCell"
  | .invalidGrid _ => "InvalidGrid"
  | .config _ | .unreadable => "Config"
  | .invalidBorder .. | .described _ | .noSlot .. | .unusableRange .. | .overflow => "Custom"

def braced (parts : List (String × Nat)) : String :=
  " \x7b " ++ ", ".intercalate (parts.map fun (name, value) => s!"{name}: {value}") ++ " \x7d"

def inParentheses (text : String) : String := "(" ++ text ++ ")"

def parts : Failure → String
  | .noVariables => ""
  | .emptyDomain var => braced [("variable", var)]
  | .assignmentSize expected actual => braced [("expected", expected), ("actual", actual)]
  | .unsupportedAlgorithm algorithm => inParentheses algorithm.label
  | .boardSize size least most => braced [("n", size), ("min", least), ("max", most)]
  | .cellOutOfBounds row col => braced [("row", row), ("col", col)]
  | .fixedCell row col => braced [("row", row), ("col", col)]
  | .invalidGrid flaw => inParentheses (Text.quoteString flaw.message)
  | .config flaw => inParentheses (Text.quoteString flaw.message)
  | .unreadable => inParentheses (Text.quoteString unreadableText)
  | .invalidBorder first second count =>
    inParentheses (Text.quoteString (borderText first second count))
  | .described text => inParentheses (Text.quoteString text)
  | .noSlot var count => inParentheses (Text.quoteString (noSlotText var count))
  | .unusableRange low high => inParentheses (Text.quoteString (unusableRangeText low high))
  | .overflow => inParentheses (Text.quoteString overflowText)

def diagnostic (failure : Failure) : String := failure.kind ++ failure.parts

/-- A failure as a program reports it to its caller. No trace of calls is recorded. -/
def report (failure : Failure) : String :=
  "Inner: " ++ failure.message ++ "\ndisabled backtrace"

def reportDiagnostic (failure : Failure) : String :=
  "Inner \x7b inner: " ++ failure.diagnostic ++ ", backtrace: <disabled> \x7d"

theorem ok_bind {α β : Type} (a : α) (next : α → Except Failure β) : (.ok a >>= next) = next a := rfl

theorem bind_eq_ok {α β : Type} {first : Except Failure α} {next : α → Except Failure β} {answer : β}
    (h : first >>= next = .ok answer) : ∃ a, first = .ok a ∧ next a = .ok answer := by
  cases first with
  | error failure => cases h
  | ok a => exact ⟨a, rfl, h⟩

end Failure

end ConstraintSearch
