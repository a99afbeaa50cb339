/-!
Binary floating point with 53 significant bits. Every operation takes the exact result of its
finite operands and rounds it once, to the nearest representable number, a half to the even one.
-/

namespace ConstraintSearch

/-- A finite number is a sign and a count of steps of 2⁻¹⁰⁷⁴, the gap between the smallest
numbers. Both zeros are finite, and there is one value for all that is not a number. -/
inductive Binary64 where
  | nan
  | infinite (negative : Bool)
  | finite (negative : Bool) (units : Nat)
deriving DecidableEq, Inhabited

namespace Binary64

def unitsPerOne : Nat := Nat.pow 2 1074

/-- The least count of units that is too large for a finite number. -/
def unitLimit : Nat := Nat.pow 2 2098

/-- The gap from a count of units up to the next representable count. -/
def spacing (units : Nat) : Nat := Nat.pow 2 (units.log2 - 52)

def nearestEven (numerator denominator : Nat) : Nat :=
  let quotient := numerator / denominator
  let rest := 2 * (numerator % denominator)
  if rest < denominator then quotient
  else if denominator < rest then quotient + 1
  else quotient + quotient % 2

/-- The representable count nearest to a quotient of units, before any overflow. -/
def roundUnits (numerator denominator : Nat) : Nat :=
  let gap := spacing (numerator / denominator)
  nearestEven numerator (denominator * gap) * gap

/-- The number nearest to a quotient of units; infinite when that exceeds the finite range. -/
def ofUnits (negative : Bool) (numerator denominator : Nat) : Binary64 :=
  let units := roundUnits numerator denominator
  if units < unitLimit then .finite negative units else .infinite negative

def zero : Binary64 := .finite false 0

def ofNat (n : Nat) : Binary64 := ofUnits false (n * unitsPerOne) 1

/-- The number nearest to `digits * 10 ^ exponent`. Exponents so far out that the answer is
zero or infinite whatever the digits say are settled without computing the power. -/
def ofDecimal (negative : Bool) (digits : Nat) (exponent : Int) : Binary64 :=
  if digits = 0 then .finite negative 0
  else
    let magnitude := exponent + (digits.log2 : Int) * 30103 / 100000
    if 400 < magnitude then .infinite negative
    else if magnitude < -400 then .finite negative 0
    else if 0 ≤ exponent then
      ofUnits negative (digits * Nat.pow 10 exponent.toNat * unitsPerOne) 1
    else
      ofUnits negative (digits * unitsPerOne) (Nat.pow 10 (-exponent).toNat)

def signedUnits (negative : Bool) (units : Nat) : Int :=
  if negative then -(units : Int) else units

def neg : Binary64 → Binary64
  | .nan => .nan
  | .infinite negative => .infinite (!negative)
  | .finite negative units => .finite (!negative) units

/-- A sum of opposite numbers is the positive zero; only two negative zeros add to one. -/
def add : Binary64 → Binary64 → Binary64
  | .nan, _ => .nan
  | _, .nan => .nan
  | .infinite s, .infinite t => if s = t then .infinite s else .nan
  | .infinite s, .finite .. => .infinite s
  | .finite .., .infinite t => .infinite t
  | .finite s a, .finite t b =>
    let sum := signedUnits s a + signedUnits t b
    if sum = 0 then .finite (s && t) 0 else ofUnits (decide (sum < 0)) sum.natAbs 1

def sub (x y : Binary64) : Binary64 := x.add y.neg

def mul : Binary64 → Binary64 → Binary64
  | .nan, _ => .nan
  | _, .nan => .nan
  | .infinite s, .infinite t => .infinite (s != t)
  | .infinite s, .finite t b => if b = 0 then .nan else .infinite (s != t)
  | .finite s a, .infinite t => if a = 0 then .nan else .infinite (s != t)
  | .finite s a, .finite t b => ofUnits (s != t) (a * b) unitsPerOne

def div : Binary64 → Binary64 → Binary64
  | .nan, _ => .nan
  | _, .nan => .nan
  | .infinite _, .infinite _ => .nan
  | .infinite s, .finite t _ => .infinite (s != t)
  | .finite s _, .infinite t => .finite (s != t) 0
  | .finite s a, .finite t b =>
    if b = 0 then if a = 0 then .nan else .infinite (s != t)
    else ofUnits (s != t) (a * unitsPerOne) b

/-- The floor of the square root of a number below `4 ^ digits`. -/
def floorRoot : (digits : Nat) → Nat → Nat
  | 0, _ => 0
  | digits + 1, n =>
    let root := 2 * floorRoot digits (n / 4)
    if (root + 1) * (root + 1) ≤ n then root + 1 else root

/-- The square root of a count, as a quotient by four that rounds like the root itself. Only the
leading 60 digits are extracted; what is left below them stays as a quarter or three quarters of
the last one, on the root's side of every number that could be a half. -/
def rootQuarters (n : Nat) : Nat :=
  let shift := n.log2 / 2 - 60
  let head := n >>> (2 * shift)
  let root := floorRoot (head.log2 / 2 + 1) head
  let exact := head = root * root ∧ head <<< (2 * shift) = n
  let quarters := if exact then 0 else if head ≤ root * root + root then 1 else 3
  (4 * root + quarters) <<< shift

/-- The square root, which has half as many steps per unit as its square. -/
def sqrt : Binary64 → Binary64
  | .nan => .nan
  | .infinite negative => if negative then .nan else .infinite false
  | .finite negative units =>
    if units = 0 then .finite negative 0
    else if negative then .nan
    else ofUnits false (rootQuarters (units * unitsPerOne)) 4

def abs : Binary64 → Binary64
  | .nan => .nan
  | .infinite _ => .infinite false
  | .finite _ units => .finite false units

/-- The order of numbers. The two zeros are equal, and nothing compares with what is not a
number. -/
def lt : Binary64 → Binary64 → Bool
  | .nan, _ => false
  | _, .nan => false
  | .infinite s, .infinite t => s && !t
  | .infinite s, .finite .. => s
  | .finite .., .infinite t => !t
  | .finite s a, .finite t b => decide (signedUnits s a < signedUnits t b)

def le : Binary64 → Binary64 → Bool
  | .nan, _ => false
  | _, .nan => false
  | .infinite s, .infinite t => s || !t
  | .infinite s, .finite .. => s
  | .finite .., .infinite t => !t
  | .finite s a, .finite t b => decide (signedUnits s a ≤ signedUnits t b)

def isFinite : Binary64 → Bool
  | .finite .. => true
  | _ => false

def isZero : Binary64 → Bool
  | .finite _ units => units == 0
  | _ => false

def powerOfTwo (exponent : Int) : Binary64 := .finite false (Nat.pow 2 (exponent + 1074).toNat)

/-- The next number toward zero. Zero, infinities and what is not a number stay. -/
def towardZero : Binary64 → Binary64
  | .finite negative units => .finite negative (units - spacing (units - 1))
  | x => x

def units : Binary64 → Nat
  | .finite _ units => units
  | _ => 0

theorem units_towardZero_lt (x : Binary64) (h : x.towardZero ≠ x) : x.towardZero.units < x.units := by
  cases x with
  | nan => exact absurd rfl h
  | infinite negative => exact absurd rfl h
  | finite negative count =>
    have hgap : 0 < spacing (count - 1) := Nat.pow_pos (by decide)
    have hcount : 0 < count := by
      refine Nat.pos_of_ne_zero fun h0 => h ?_
      rw [h0, towardZero, Nat.zero_sub]
    exact Nat.sub_lt hcount hgap

/-- The 64 bits of the interchange format; what is not a number gets the quiet pattern. -/
def toBits : Binary64 → Nat
  | .nan => 0x7ff8000000000000
  | .infinite negative => negative.toNat <<< 63 + 0x7ff0000000000000
  | .finite negative units =>
    negative.toNat <<< 63 +
      if units < Nat.pow 2 52 then units
      else (units.log2 - 51) <<< 52 + units / spacing units - Nat.pow 2 52

end Binary64

end ConstraintSearch
