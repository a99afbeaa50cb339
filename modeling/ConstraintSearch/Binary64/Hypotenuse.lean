import ConstraintSearch.Binary64

/-!
The hypotenuse of a right triangle. The root of the sum of squares is taken first and then
corrected once by the error of its square, so the last place is right for nearly all sides.
-/

namespace ConstraintSearch.Binary64

/-- The hypotenuse of sides whose squares neither overflow nor underflow, the longer one first.
The error of the square is taken from whichever difference of lengths is exact. -/
def correctedRoot (long short : Binary64) : Binary64 :=
  let two := ofNat 2
  let root := ((long.mul long).add (short.mul short)).sqrt
  let (first, second) :=
    if root.le (two.mul short) then
      let rest := root.sub short
      (long.mul ((two.mul rest).sub long), (rest.sub (two.mul (long.sub short))).mul rest)
    else
      let rest := root.sub long
      ((two.mul rest).mul (long.sub (two.mul short)),
        (((ofNat 4).mul rest).sub short).mul short |>.add (rest.mul rest))
  root.sub ((first.add second).div (two.mul root))

/-- A side this much shorter than the other one only rounds the sum. -/
def negligible : Binary64 := powerOfTwo (-54)

/-- Sides outside the middle range are scaled by this or its inverse, which is exact. -/
def sideScale : Binary64 := powerOfTwo (-600)

/-- The hypotenuse of finite sides without signs, the longer one first. -/
def finiteHypot (long short : Binary64) : Binary64 :=
  if (powerOfTwo 511).lt long then
    if short.le (long.mul negligible) then long.add short
    else (correctedRoot (long.mul sideScale) (short.mul sideScale)).div sideScale
  else if short.lt (powerOfTwo (-459)) then
    if (short.div negligible).le long then long.add short
    else (correctedRoot (long.div sideScale) (short.div sideScale)).mul sideScale
  else if short.le (long.mul negligible) then long.add short
  else correctedRoot long short

/-- The length of the hypotenuse. An infinite side makes it infinite even when the other side is
not a number. -/
def hypot (x y : Binary64) : Binary64 :=
  match x.abs, y.abs with
  | .infinite _, _ => .infinite false
  | _, .infinite _ => .infinite false
  | .nan, _ => .nan
  | _, .nan => .nan
  | x, y => if x.lt y then finiteHypot y x else finiteHypot x y

end ConstraintSearch.Binary64
