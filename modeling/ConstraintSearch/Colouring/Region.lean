import ConstraintSearch.Binary64.Hypotenuse

/-!
Round regions on a canvas.
-/

namespace ConstraintSearch.Colouring

structure Region where
  id : Nat
  x : Binary64
  y : Binary64
  radius : Binary64
deriving DecidableEq, Inhabited

namespace Region

def distance (a b : Region) : Binary64 := (a.x.sub b.x).hypot (a.y.sub b.y)

/-- Two regions border each other when their centres are nearer than both radii and a margin
together. The sum is rounded after each addition. -/
def borders (margin : Binary64) (a b : Region) : Bool :=
  (a.distance b).lt ((a.radius.add b.radius).add margin)

end Region

end ConstraintSearch.Colouring
