import ConstraintSearch.Colouring.Region

/-! Bordering is mutual: differences taken either way round differ in sign alone, sums do not
depend on the order, and a hypotenuse has no use for signs. -/
namespace ConstraintSearch

namespace Binary64

private theorem signedUnits_not (negative : Bool) (units : Nat) :
    signedUnits (!negative) units = -signedUnits negative units := by
  cases negative <;> simp [signedUnits]

theorem add_comm (x y : Binary64) : x.add y = y.add x := by
  cases x with
  | nan => cases y <;> rfl
  | infinite s =>
    cases y with
    | nan => rfl
    | infinite t => cases s <;> cases t <;> rfl
    | finite t b => rfl
  | finite s a =>
    cases y with
    | nan => rfl
    | infinite t => rfl
    | finite t b => simp only [add, Int.add_comm, Bool.and_comm]

private theorem abs_ofUnits (s t : Bool) (numerator denominator : Nat) :
    (ofUnits s numerator denominator).abs = (ofUnits t numerator denominator).abs := by
  rw [ofUnits, ofUnits]
  split <;> rfl

/-- A difference taken the other way round has the same size. -/
theorem abs_sub_comm (x y : Binary64) : (x.sub y).abs = (y.sub x).abs := by
  cases x with
  | nan => cases y <;> rfl
  | infinite s =>
    cases y with
    | nan => rfl
    | infinite t => cases s <;> cases t <;> rfl
    | finite t b => rfl
  | finite s a =>
    cases y with
    | nan => rfl
    | infinite t => rfl
    | finite t b =>
      have hneg : signedUnits t b + signedUnits (!s) a = -(signedUnits s a + signedUnits (!t) b) := by
        rw [signedUnits_not, signedUnits_not]
        omega
      simp only [sub, neg, add, hneg, Int.neg_eq_zero, Int.natAbs_neg]
      split
      · rfl
      · exact abs_ofUnits ..

private theorem hypot_congr {x x' y y' : Binary64} (hx : x.abs = x'.abs) (hy : y.abs = y'.abs) :
    x.hypot y = x'.hypot y' := by
  rw [hypot, hypot, hx, hy]

end Binary64

namespace Colouring.Region

theorem distance_comm (r s : Region) : r.distance s = s.distance r :=
  Binary64.hypot_congr (Binary64.abs_sub_comm ..) (Binary64.abs_sub_comm ..)

theorem borders_comm (margin : Binary64) (r s : Region) :
    r.borders margin s = s.borders margin r := by
  rw [borders, borders, distance_comm, Binary64.add_comm r.radius]

end Colouring.Region

end ConstraintSearch
