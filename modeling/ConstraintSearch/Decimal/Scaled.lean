import ConstraintSearch.Decimal.Reader

/-!
Reading decimals in constant space: the leading digits become a significand of 64 bits, which is
then scaled by powers of ten. Every step rounds, so the result may miss the nearest number by a
few places. It is exact for short decimals: a significand of at most 53 bits, and a power of ten
that is itself a number.
-/

namespace ConstraintSearch.Decimal

def significandLimit : Nat := Nat.pow 2 64

/-- Takes in as many leading digits as fit. Gives the significand and how many digits are left. -/
def takeDigits (significand : Nat) : List Char → Nat × Nat
  | [] => (significand, 0)
  | c :: rest =>
    let next := 10 * significand + digitValue c
    if next < significandLimit then takeDigits next rest else (significand, rest.length + 1)

def largestPower : Nat := 308

def powerOfTen (exponent : Nat) : Binary64 := .ofNat (Nat.pow 10 exponent)

/-- Multiplies by a power of ten. Nothing but zero reaches beyond the finite range. -/
def scaleUp? (x : Binary64) (exponent : Nat) : Option Binary64 :=
  if exponent ≤ largestPower then (some (x.mul (powerOfTen exponent))).filter Binary64.isFinite
  else if x.isZero then some x
  else none

/-- Divides by a power of ten, a part of it at a time when it is not itself a number. -/
def scaleDown (x : Binary64) (exponent : Nat) : Binary64 :=
  if exponent ≤ largestPower then x.div (powerOfTen exponent)
  else if x.isZero then x
  else scaleDown (x.div (powerOfTen largestPower)) (exponent - largestPower)
termination_by exponent
decreasing_by simp_all [largestPower]; omega

/-- The significand, scaled. Digits of the whole part that did not fit count as places; those of
the fraction are dropped. -/
def Parts.scaled? (p : Parts) : Option Binary64 :=
  let (significand, extra) := takeDigits 0 p.whole
  let (significand, dropped) := takeDigits significand p.fraction
  let exponent := p.exponent + extra - (p.fraction.length - dropped : Nat)
  let x := Binary64.ofNat significand
  if 0 ≤ exponent then scaleUp? x exponent.toNat else some (scaleDown x (-exponent).toNat)

/-- Special values have no decimal. -/
def readScaled? (text : String) : Option Binary64 :=
  let (negative, rest) := splitSign text.toList
  (parts? rest).bind fun p => p.scaled?.map fun x => if negative then x.neg else x

end ConstraintSearch.Decimal
