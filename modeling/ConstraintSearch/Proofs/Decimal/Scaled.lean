import ConstraintSearch.Decimal.Scaled
import ConstraintSearch.Proofs.Binary64.Arithmetic

/-! Numbers that are read from a text. They are rounded at every step, so the format holds them. -/
namespace ConstraintSearch.Decimal
open Binary64
variable {x y : Binary64} {exponent : Nat}

attribute [local irreducible] unitLimit unitsPerOne

private theorem wellFormed_scaleUp (hx : x.WellFormed) (h : scaleUp? x exponent = some y) :
    y.WellFormed := by
  rw [scaleUp?] at h
  split at h
  · obtain ⟨hy, _⟩ := Option.filter_eq_some_iff.mp h
    cases hy
    exact wellFormed_mul _ _
  · split at h
    · cases h
      exact hx
    · cases h

private theorem wellFormed_scaleDown (hx : x.WellFormed) : (scaleDown x exponent).WellFormed := by
  induction x, exponent using scaleDown.induct with
  | case1 x exponent hle =>
    rw [scaleDown, if_pos hle]
    exact wellFormed_div _ _
  | case2 x exponent hle hzero =>
    rw [scaleDown, if_neg hle, if_pos hzero]
    exact hx
  | case3 x exponent hle hzero ih =>
    rw [scaleDown, if_neg hle, if_neg hzero]
    exact ih (wellFormed_div _ _)

private theorem wellFormed_scaled {p : Parts} (h : p.scaled? = some x) : x.WellFormed := by
  simp only [Parts.scaled?] at h
  split at h
  · exact wellFormed_scaleUp (wellFormed_ofNat _) h
  · cases h
    exact wellFormed_scaleDown (wellFormed_ofNat _)

theorem wellFormed_readScaled {text : String} (h : readScaled? text = some x) : x.WellFormed := by
  have hsigned (negative : Bool) {y : Binary64} (hy : y.WellFormed) :
      (if negative then y.neg else y).WellFormed := by
    cases negative with
    | true => exact hy.neg
    | false => exact hy
  obtain ⟨p, _, h⟩ := Option.bind_eq_some_iff.mp h
  obtain ⟨y, hy, h⟩ := Option.map_eq_some_iff.mp h
  exact h ▸ hsigned _ (wellFormed_scaled hy)

end ConstraintSearch.Decimal
