import ConstraintSearch.Binary64

/-!
The fewest decimal digits that read back as a given number, and of those the nearest ones.
-/

namespace ConstraintSearch.Decimal
open Binary64

inductive Tie where
  | toEven
  | away
deriving DecidableEq

structure Scientific where
  digits : Nat
  exponent : Int
deriving DecidableEq

/-- Numerator and denominator of a count of units in steps of `10 ^ exponent`. -/
def inSteps (units : Nat) (exponent : Int) : Nat × Nat :=
  if 0 ≤ exponent then (units, unitsPerOne * Nat.pow 10 exponent.toNat)
  else (units * Nat.pow 10 (-exponent).toNat, unitsPerOne)

/-- Whether `digits * 10 ^ exponent` reads back as `units`: it lies between the midpoints to
both neighbours, the midpoints themselves included when the significand is even. -/
def readsBack (units digits : Nat) (exponent : Int) : Bool :=
  let candidate := if 0 ≤ exponent then digits * unitsPerOne * Nat.pow 10 exponent.toNat
    else digits * unitsPerOne
  let scale := if 0 ≤ exponent then 1 else Nat.pow 10 (-exponent).toNat
  let low := (2 * units - spacing (units - 1)) * scale
  let high := (2 * units + spacing units) * scale
  if units / spacing units % 2 = 0 then low ≤ 2 * candidate && 2 * candidate ≤ high
  else low < 2 * candidate && 2 * candidate < high

def onGrid (tie : Tie) (units : Nat) (exponent : Int) : Option Nat :=
  let (numerator, denominator) := inSteps units exponent
  let below := numerator / denominator
  let rest := 2 * (numerator % denominator)
  match readsBack units below exponent, readsBack units (below + 1) exponent with
  | false, false => none
  | true, false => some below
  | false, true => some (below + 1)
  | true, true =>
    if rest < denominator then some below
    else if denominator < rest then some (below + 1)
    else match tie with
      | .toEven => some (below + below % 2)
      | .away => some (below + 1)

/-- Tries ever finer grids. The finest one allowed answers with its floor. -/
def search (tie : Tie) (units : Nat) : (grids : Nat) → (exponent : Int) → Scientific
  | 0, exponent =>
    let (numerator, denominator) := inSteps units exponent
    ⟨numerator / denominator, exponent⟩
  | grids + 1, exponent =>
    match onGrid tie units exponent with
    | some digits => ⟨digits, exponent⟩
    | none => search tie units grids (exponent - 1)

/-- The shortest decimal of a count of units. The first grid is coarser than the number itself,
and seventeen digits always suffice, so twenty grids reach an answer. -/
def shortest (tie : Tie) (units : Nat) : Scientific :=
  if units = 0 then ⟨0, 0⟩
  else search tie units 20 (((units.log2 : Int) + 1 - 1074) * 30103 / 100000 + 1)

end ConstraintSearch.Decimal
