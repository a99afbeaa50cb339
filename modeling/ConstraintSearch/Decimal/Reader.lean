import ConstraintSearch.Binary64

/-!
Reading decimal text: digits with an optional point, exponent and sign, or a named special
value. The result is the nearest number.
-/

namespace ConstraintSearch.Decimal

def digitValue (c : Char) : Nat := c.toNat - '0'.toNat

def naturalOf (digits : List Char) : Nat :=
  digits.foldl (fun total c => 10 * total + digitValue c) 0

/-- Splits off an optional sign; true means negative. -/
def splitSign : List Char → Bool × List Char
  | '-' :: rest => (true, rest)
  | '+' :: rest => (false, rest)
  | text => (false, text)

def exponentOf? : List Char → Option Int
  | [] => some 0
  | c :: rest =>
    let (negative, digits) := splitSign rest
    if (c = 'e' ∨ c = 'E') ∧ digits ≠ [] ∧ digits.all Char.isDigit then
      some (if negative then -(naturalOf digits : Int) else naturalOf digits)
    else none

/-- An unsigned decimal: the digits before and after the point, and the power of ten. -/
structure Parts where
  whole : List Char
  fraction : List Char
  exponent : Int

/-- Digits before or after the point may be missing, but not both. -/
def parts? (text : List Char) : Option Parts :=
  let whole := text.takeWhile Char.isDigit
  let rest := text.dropWhile Char.isDigit
  let (fraction, tail) := match rest with
    | '.' :: rest => (rest.takeWhile Char.isDigit, rest.dropWhile Char.isDigit)
    | rest => ([], rest)
  if whole.isEmpty && fraction.isEmpty then none
  else (exponentOf? tail).map fun exponent => { whole, fraction, exponent }

def Parts.nearest (p : Parts) (negative : Bool) : Binary64 :=
  .ofDecimal negative (naturalOf (p.whole ++ p.fraction)) (p.exponent - p.fraction.length)

/-- Special values may be written in either case. -/
def read? (text : String) : Option Binary64 :=
  let (negative, rest) := splitSign text.toList
  match String.ofList (rest.map Char.toLower) with
  | "nan" => some .nan
  | "inf" => some (.infinite negative)
  | "infinity" => some (.infinite negative)
  | _ => (parts? rest).map fun p => p.nearest negative

/-- A natural number below a bound: digits, with at most a plus sign before them. -/
def readNatural? (bound : Nat) (text : String) : Option Nat :=
  let digits := match text.toList with
    | '+' :: rest => rest
    | rest => rest
  if digits ≠ [] ∧ digits.all Char.isDigit ∧ naturalOf digits < bound then some (naturalOf digits)
  else none

end ConstraintSearch.Decimal
