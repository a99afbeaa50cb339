import ConstraintSearch.Proofs.Binary64.Rounding

/-! Numbers that can be held, and what the operations make of them. -/
namespace ConstraintSearch.Binary64
variable {a b n d : Nat}

theorem unitLimit_pos : 0 < unitLimit := by decide +kernel

theorem unitsPerOne_pos : 0 < unitsPerOne := by decide +kernel

-- these powers are never to be computed
attribute [local irreducible] unitLimit unitsPerOne

/-- The numbers that the format holds. -/
def WellFormed : Binary64 → Prop
  | .finite _ units => Representable units ∧ units < unitLimit
  | _ => True

theorem ofUnits_of_lt (negative : Bool) (h : roundUnits n d < unitLimit) :
    ofUnits negative n d = .finite negative (roundUnits n d) :=
  if_pos h

theorem ofUnits_of_le (negative : Bool) (h : unitLimit ≤ roundUnits n d) :
    ofUnits negative n d = .infinite negative :=
  if_neg (Nat.not_lt.mpr h)

@[simp] theorem isFinite_ofUnits (negative : Bool) :
    (ofUnits negative n d).isFinite = true ↔ roundUnits n d < unitLimit := by
  rw [ofUnits]
  split <;> simp [isFinite, *]

theorem wellFormed_ofUnits (negative : Bool) (n : Nat) (hd : 0 < d) :
    (ofUnits negative n d).WellFormed := by
  rw [ofUnits]
  split
  · rename_i h
    exact ⟨representable_roundUnits n hd, h⟩
  · trivial

private theorem wellFormed_zero (negative : Bool) : (finite negative 0).WellFormed :=
  ⟨Nat.dvd_zero _, unitLimit_pos⟩

/-! Whatever the operands are, results can be held. -/

theorem wellFormed_ofNat (n : Nat) : (ofNat n).WellFormed := wellFormed_ofUnits false _ Nat.one_pos

theorem WellFormed.neg {x : Binary64} (h : x.WellFormed) : x.neg.WellFormed := by
  cases x <;> exact h

theorem wellFormed_mul (x y : Binary64) : (x.mul y).WellFormed := by
  cases x with
  | nan => trivial
  | infinite s =>
    cases y with
    | nan => trivial
    | infinite t => trivial
    | finite t b =>
      simp only [mul]
      split <;> trivial
  | finite s a =>
    cases y with
    | nan => trivial
    | infinite t =>
      simp only [mul]
      split <;> trivial
    | finite t b => exact wellFormed_ofUnits _ _ unitsPerOne_pos

theorem wellFormed_div (x y : Binary64) : (x.div y).WellFormed := by
  cases x with
  | nan => trivial
  | infinite s => cases y <;> trivial
  | finite s a =>
    cases y with
    | nan => trivial
    | infinite t => exact wellFormed_zero _
    | finite t b =>
      simp only [div]
      split
      · split <;> trivial
      · rename_i hb
        exact wellFormed_ofUnits _ _ (Nat.pos_of_ne_zero hb)

/-! Operations on numbers that are not below zero, in units. -/

theorem le_finite_iff : (finite false a).le (finite false b) = true ↔ a ≤ b := by
  simp [le, signedUnits]

theorem lt_finite_iff : (finite false a).lt (finite false b) = true ↔ a < b := by
  simp [lt, signedUnits]

theorem le_negative_iff : (finite false a).le (finite true b) = true ↔ a = 0 ∧ b = 0 := by
  simp only [le, signedUnits, decide_eq_true_eq, Bool.false_eq_true, if_false, if_true]
  omega

theorem negative_lt_iff : (finite true a).lt (finite false b) = true ↔ 0 < a + b := by
  simp only [lt, signedUnits, decide_eq_true_eq, Bool.false_eq_true, if_false, if_true]
  omega

private theorem ofUnits_zero : ofUnits false 0 1 = finite false 0 := by
  have hzero : roundUnits 0 1 = 0 := roundUnits_zero Nat.one_pos
  rw [ofUnits_of_lt false (hzero ▸ unitLimit_pos), hzero]

theorem add_finite (a b : Nat) :
    (finite false a).add (finite false b) = ofUnits false (a + b) 1 := by
  simp only [add, signedUnits, Bool.false_eq_true, if_false]
  split
  · rename_i h
    have hsum : a + b = 0 := by omega
    rw [hsum, ofUnits_zero]
    rfl
  · have hsign : decide ((a : Int) + b < 0) = false := decide_eq_false (by omega)
    rw [hsign, ← Int.natCast_add, Int.natAbs_natCast]

theorem sub_finite (h : b ≤ a) :
    (finite false a).sub (finite false b) = ofUnits false (a - b) 1 := by
  simp only [sub, neg, add, signedUnits, Bool.not_false, Bool.false_eq_true, if_false, if_true]
  have hsum : (a : Int) + -b = ((a - b : Nat) : Int) := by omega
  rw [hsum]
  split
  · rename_i h0
    rw [Int.natCast_eq_zero.mp h0, ofUnits_zero]
    rfl
  · have hsign : decide (((a - b : Nat) : Int) < 0) = false := decide_eq_false (by omega)
    rw [hsign, Int.natAbs_natCast]

theorem mul_finite (a b : Nat) :
    (finite false a).mul (finite false b) = ofUnits false (a * b) unitsPerOne := rfl

theorem div_finite (a : Nat) (hb : 0 < b) :
    (finite false a).div (finite false b) = ofUnits false (a * unitsPerOne) b :=
  if_neg (Nat.ne_of_gt hb)

end ConstraintSearch.Binary64
