import ConstraintSearch.Decimal.Shortest
import ConstraintSearch.Text.Padding

/-!
How a number is written: where positional notation ends, whether a whole number keeps a
fraction, and how many places a rounded one has.
-/

namespace ConstraintSearch.Decimal
open Binary64

/-- The decisions of one style of writing the shortest digits. Positions are those of the
decimal point, counted from the first digit: `0.5` has position 0 and `5` position 1. -/
structure Layout where
  /-- The positions written without an exponent; none means all of them. -/
  positional : Option (Int × Int)
  /-- Whether a positional whole number ends in `.0`. -/
  wholeFraction : Bool
  tie : Tie

def Layout.plain : Layout := ⟨none, false, .away⟩

def positionalText (layout : Layout) (digits : String) (position : Int) : String :=
  let count : Int := digits.length
  if position ≤ 0 then "0." ++ Text.repeated '0' (-position).toNat ++ digits
  else if count ≤ position then
    digits ++ Text.repeated '0' (position - count).toNat ++ if layout.wholeFraction then ".0" else ""
  else
    String.ofList (digits.toList.take position.toNat) ++ "." ++
      String.ofList (digits.toList.drop position.toNat)

/-- One digit before the point, and an exponent that always has a sign. -/
def exponentText (digits : String) (position : Int) : String :=
  let exponent := position - 1
  let head := String.ofList (digits.toList.take 1)
  let rest := String.ofList (digits.toList.drop 1)
  head ++ (if rest.isEmpty then "" else "." ++ rest) ++
    (if exponent < 0 then "e-" else "e+") ++ toString exponent.natAbs

def magnitudeText (layout : Layout) (units : Nat) : String :=
  if units = 0 then if layout.wholeFraction then "0.0" else "0"
  else
    let decimal := shortest layout.tie units
    let digits := toString decimal.digits
    let position := decimal.exponent + digits.length
    match layout.positional with
    | none => positionalText layout digits position
    | some (least, most) =>
      if least ≤ position ∧ position ≤ most then positionalText layout digits position
      else exponentText digits position

def signText (negative : Bool) : String := if negative then "-" else ""

/-- A number in a layout; a zero keeps its sign. -/
def text (layout : Layout) : Binary64 → String
  | .nan => "NaN"
  | .infinite negative => signText negative ++ "inf"
  | .finite negative units => signText negative ++ magnitudeText layout units

/-- A number rounded to a fixed count of places, an exact half to the even digit. -/
def fixedText (places : Nat) : Binary64 → String
  | .nan => "NaN"
  | .infinite negative => signText negative ++ "inf"
  | .finite negative units =>
    let scaled := nearestEven (units * Nat.pow 10 places) unitsPerOne
    let fraction := toString (scaled % Nat.pow 10 places)
    signText negative ++ toString (scaled / Nat.pow 10 places) ++
      if places = 0 then "" else "." ++ Text.pad .right '0' places fraction

end ConstraintSearch.Decimal
