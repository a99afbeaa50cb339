import ConstraintSearch.Chance.Draw
import ConstraintSearch.Proofs.Binary64.Arithmetic
import ConstraintSearch.Proofs.InPlace

/-! Numbers that are drawn from a range. A usable range always gives one of its numbers: the scale
is lowered until its largest product is not above the range, and rounding keeps the order of the
others. -/
namespace ConstraintSearch.Chance
open Binary64
variable {a b c d : Nat} {low high : Binary64} {generator later : Generator}

attribute [local irreducible] unitLimit unitsPerOne

/-- A range that is ordered and has a finite width, also when that is scaled. -/
def Usable (low high : Binary64) : Prop :=
  low.le high = true ∧ ((high.sub low).div unitMax).isFinite = true

instance (low high : Binary64) : Decidable (Usable low high) :=
  inferInstanceAs (Decidable (_ ∧ _))

/-- The units in the largest value of the unit draw. -/
def topUnits : Nat := unitsPerOne - unitsPerOne / Nat.pow 2 52

theorem unitMax_eq : unitMax = .finite false topUnits := by decide +kernel

theorem topUnits_pos : 0 < topUnits := by decide +kernel

private theorem representable_topUnits : Representable topUnits := by
  unfold Representable
  decide +kernel

private theorem topUnits_mul : topUnits * 2 ^ 52 = (2 ^ 52 - 1) * unitsPerOne := by decide +kernel

attribute [local irreducible] topUnits

theorem usable_finite_iff : Usable (.finite false a) (.finite false b) ↔
    a ≤ b ∧ roundUnits (b - a) 1 < unitLimit ∧
      roundUnits (roundUnits (b - a) 1 * unitsPerOne) topUnits < unitLimit := by
  rw [Usable, le_finite_iff]
  refine and_congr_right fun hab => ?_
  rw [sub_finite hab, unitMax_eq]
  by_cases hw : roundUnits (b - a) 1 < unitLimit
  · rw [ofUnits_of_lt false hw, div_finite _ topUnits_pos, isFinite_ofUnits, and_iff_right hw]
  · rw [ofUnits_of_le false (Nat.le_of_not_lt hw)]
    exact iff_of_false (fun h => (nomatch h)) fun h => hw h.1

theorem Usable.mono (h : Usable (.finite false a) (.finite false b)) (hac : a ≤ c) (hcd : c ≤ d)
    (hdb : d ≤ b) : Usable (.finite false c) (.finite false d) := by
  obtain ⟨_, hwidth, hscale⟩ := usable_finite_iff.mp h
  have hle : roundUnits (d - c) 1 ≤ roundUnits (b - a) 1 :=
    roundUnits_le_roundUnits Nat.one_pos Nat.one_pos (by omega)
  refine usable_finite_iff.mpr ⟨hcd, Nat.lt_of_le_of_lt hle hwidth, Nat.lt_of_le_of_lt ?_ hscale⟩
  exact roundUnits_le_roundUnits topUnits_pos topUnits_pos
    (Nat.mul_le_mul_right _ (Nat.mul_le_mul_right _ hle))

theorem Usable.exists_high (h : Usable (.finite false a) high) (ha : 0 < a) :
    ∃ b, high = .finite false b := by
  obtain ⟨hle, hfinite⟩ := h
  rw [unitMax_eq] at hfinite
  cases high with
  | nan => cases hle
  | infinite s => cases s <;> cases hfinite
  | finite s b =>
    cases s with
    | false => exact ⟨b, rfl⟩
    | true => exact absurd (le_negative_iff.mp hle).1 (Nat.ne_of_gt ha)

/-- The scale keeps the largest product, with the start of the range added to it, in the range. -/
structure Fits (a b scale : Nat) : Prop where
  product_lt : roundUnits (scale * topUnits) unitsPerOne < unitLimit
  sum_lt : roundUnits (roundUnits (scale * topUnits) unitsPerOne + a) 1 < unitLimit
  sum_le : roundUnits (roundUnits (scale * topUnits) unitsPerOne + a) 1 ≤ b

private theorem fits_of_not_lt {scale : Nat}
    (h : ¬ (finite false b).lt (((finite false scale).mul unitMax).add (.finite false a)) = true) :
    Fits a b scale := by
  rw [unitMax_eq, mul_finite] at h
  by_cases hp : roundUnits (scale * topUnits) unitsPerOne < unitLimit
  · rw [ofUnits_of_lt false hp, add_finite] at h
    by_cases hs : roundUnits (roundUnits (scale * topUnits) unitsPerOne + a) 1 < unitLimit
    · rw [ofUnits_of_lt false hs, lt_finite_iff] at h
      exact ⟨hp, hs, Nat.le_of_not_lt h⟩
    · rw [ofUnits_of_le false (Nat.le_of_not_lt hs)] at h
      exact absurd rfl h
  · rw [ofUnits_of_le false (Nat.le_of_not_lt hp)] at h
    exact absurd rfl h

private theorem fits_zero (ha : (finite false a).WellFormed) (hab : a ≤ b) : Fits a b 0 := by
  have hproduct : roundUnits (0 * topUnits) unitsPerOne = 0 := by
    rw [Nat.zero_mul, roundUnits_zero unitsPerOne_pos]
  have hsum : roundUnits (roundUnits (0 * topUnits) unitsPerOne + a) 1 = a := by
    rw [hproduct, Nat.zero_add, roundUnits_of_representable ha.1]
  refine ⟨?_, ?_, ?_⟩
  · rw [hproduct]
    exact unitLimit_pos
  · rw [hsum]
    exact ha.2
  · rw [hsum]
    exact hab

private theorem exists_fitScale (ha : (finite false a).WellFormed) (hab : a ≤ b) (scale : Nat) :
    ∃ t, fitScale (.finite false a) (.finite false b) (.finite false scale) = .finite false t ∧
      Fits a b t := by
  induction scale using Nat.strong_induction_on with
  | _ scale ih =>
    rw [fitScale]
    split
    · rename_i h
      exact ih _ (units_towardZero_lt _ h.2)
    · rename_i h
      refine ⟨scale, rfl, ?_⟩
      rcases not_and_or.mp h with hlt | hzero
      · exact fits_of_not_lt hlt
      · -- only zero cannot be lowered
        have hscale : scale = 0 := by
          have hunits := congrArg units (not_not.mp hzero)
          have hgap := spacing_pos (scale - 1)
          simp only [towardZero, units] at hunits
          omega
        exact hscale ▸ fits_zero ha hab

private theorem exists_unit (generator : Generator) :
    ∃ f, (unit generator).1 = .finite false f ∧ f ≤ topUnits := by
  have hword : (generator.next64.1 >>> 12).toNat ≤ 2 ^ 52 - 1 := by
    have hlt := generator.next64.1.toNat_lt
    rw [UInt64.toNat_shiftRight, Nat.shiftRight_eq_div_pow]
    change generator.next64.1.toNat / 2 ^ 12 ≤ _
    omega
  have hle : roundUnits ((generator.next64.1 >>> 12).toNat * unitsPerOne) (Nat.pow 2 52) ≤
      topUnits := by
    refine roundUnits_le (by decide) representable_topUnits ?_
    exact Nat.le_trans (Nat.mul_le_mul_right _ hword) (Nat.le_of_eq topUnits_mul.symm)
  have hlt : topUnits < unitLimit := by decide +kernel
  exact ⟨_, ofUnits_of_lt false (Nat.lt_of_le_of_lt hle hlt), hle⟩

private theorem unit_of_zero (h : generator.next64 = (0, later)) :
    unit generator = (.finite false 0, later) := by
  have hzero : ofUnits false (0 * unitsPerOne) (Nat.pow 2 52) = .finite false 0 := by decide +kernel
  rw [unit, h]
  exact congrArg (·, later) hzero

private theorem scaleOf?_of_usable (h : Usable low high) :
    scaleOf? low high = some (fitScale low high ((high.sub low).div unitMax)) :=
  if_pos (Bool.and_eq_true_iff.mpr h)

private theorem scaleOf?_of_not_usable (h : ¬ Usable low high) : scaleOf? low high = none :=
  if_neg fun hb => h (Bool.and_eq_true_iff.mp hb)

namespace Draw

private theorem within_of_not_usable (h : ¬ Usable low high) (generator : Generator) :
    within low high generator = (.error (.unusableRange low high), generator) := by
  rw [within, scaleOf?_of_not_usable h]
  rfl

theorem usable_of_within {value : Binary64} (h : within low high generator = (.ok value, later)) :
    Usable low high := by
  by_contra hn
  rw [within_of_not_usable hn] at h
  cases h

theorem within_of_usable (h : Usable low high) (generator : Generator) :
    within low high generator = (.ok (((unit generator).1.mul
      (fitScale low high ((high.sub low).div unitMax))).add low), (unit generator).2) := by
  rw [within, scaleOf?_of_usable h]
  rfl

/-- A draw from a usable range gives one of its numbers, and the least one without a fraction. -/
theorem exists_within (h : Usable (.finite false a) (.finite false b))
    (ha : (finite false a).WellFormed) (generator : Generator) :
    ∃ c, (within (.finite false a) (.finite false b) generator) =
      (.ok (.finite false c), (unit generator).2) ∧ a ≤ c ∧ c ≤ b ∧
        (finite false c).WellFormed ∧ ((unit generator).1 = .finite false 0 → c = a) := by
  obtain ⟨hab, hwidth, hscale⟩ := usable_finite_iff.mp h
  obtain ⟨f, hf, hle⟩ := exists_unit generator
  rw [within_of_usable h, hf, sub_finite hab, ofUnits_of_lt false hwidth, unitMax_eq,
    div_finite _ topUnits_pos, ofUnits_of_lt false hscale]
  obtain ⟨t, ht, hfits⟩ := exists_fitScale ha hab _
  have hproduct : roundUnits (f * t) unitsPerOne ≤ roundUnits (t * topUnits) unitsPerOne := by
    rw [Nat.mul_comm f]
    exact roundUnits_le_roundUnits unitsPerOne_pos unitsPerOne_pos
      (Nat.mul_le_mul_right _ (Nat.mul_le_mul_left t hle))
  have hsum : roundUnits (roundUnits (f * t) unitsPerOne + a) 1 ≤
      roundUnits (roundUnits (t * topUnits) unitsPerOne + a) 1 :=
    roundUnits_le_roundUnits Nat.one_pos Nat.one_pos (by omega)
  have hlt := Nat.lt_of_le_of_lt hsum hfits.sum_lt
  rw [ht, mul_finite, ofUnits_of_lt false (Nat.lt_of_le_of_lt hproduct hfits.product_lt), add_finite,
    ofUnits_of_lt false hlt]
  refine ⟨_, rfl, le_roundUnits Nat.one_pos ha.1 (by omega), Nat.le_trans hsum hfits.sum_le,
    ⟨representable_roundUnits _ Nat.one_pos, hlt⟩, fun h0 => ?_⟩
  cases h0
  rw [Nat.zero_mul, roundUnits_zero unitsPerOne_pos, Nat.zero_add, roundUnits_of_representable ha.1]

/-- Zero bits draw the least number of the range. -/
theorem within_of_zero (h : Usable (.finite false a) (.finite false b))
    (ha : (finite false a).WellFormed) (hg : generator.next64 = (0, later)) :
    within (.finite false a) (.finite false b) generator = (.ok (.finite false a), later) := by
  have hunit := unit_of_zero hg
  obtain ⟨c, hw, _, _, _, hc⟩ := exists_within h ha generator
  rw [hunit] at hw hc
  rw [hw, hc rfl]

/-- Nothing but a range that cannot be drawn from makes the draw fail. -/
def FailsOnRange {α : Type} (draw : Draw α) : Prop :=
  ∀ generator failure later, draw generator = (.error failure, later) →
    ∃ low high, failure = .unusableRange low high ∧ ¬ Usable low high

namespace FailsOnRange
variable {α β : Type}

theorem within (low high : Binary64) : FailsOnRange (Draw.within low high) := by
  intro generator failure later h
  by_cases hu : Usable low high
  · rw [within_of_usable hu] at h
    cases h
  · rw [within_of_not_usable hu] at h
    cases h
    exact ⟨low, high, rfl, hu⟩

theorem sure (draw : Generator → α × Generator) : FailsOnRange (Draw.sure draw) :=
  fun _ _ _ h => nomatch h

theorem pure (a : α) : FailsOnRange (Pure.pure a) := fun _ _ _ h => nomatch h

theorem bind {first : Draw α} {next : α → Draw β} (hfirst : FailsOnRange first)
    (hnext : ∀ a, FailsOnRange (next a)) : FailsOnRange (first >>= next) := by
  intro generator failure later h
  rcases InPlace.bind_eq_error h with h | ⟨a, _, _, h⟩
  · exact hfirst _ _ _ h
  · exact hnext a _ _ _ h

theorem mapM {draw : α → Draw β} (h : ∀ a, FailsOnRange (draw a)) (items : List α) :
    FailsOnRange (items.mapM draw) := by
  induction items with
  | nil => exact pure []
  | cons a items ih =>
    rw [List.mapM_cons]
    exact (h a).bind fun b => ih.bind fun bs => pure (b :: bs)

end FailsOnRange

end Draw

/-- A generator whose next words are zeros. -/
def zeros (count : Nat) : Generator := ⟨.replicate 8 0, 0, .replicate count 0⟩

theorem next64_zeros (count : Nat) : (zeros (count + 2)).next64 = (0, zeros count) := by
  rw [zeros, List.replicate_succ, List.replicate_succ]
  rfl

theorem between_zeros (least most count : Nat) :
    between least most (zeros (count + 2)) = (least, zeros count) := by
  have hsource : source64 (zeros (count + 2)) = (0, zeros count) := by
    rw [source64, next64_zeros]
    rfl
  have hzone : 0 * (most - least + 1) % Nat.pow 2 64 <
      (most - least + 1) * Nat.pow 2 (64 - 1 - (most - least + 1).log2) := by
    rw [Nat.zero_mul, Nat.zero_mod]
    exact Nat.mul_pos (Nat.succ_pos _) (Nat.pow_pos Nat.two_pos)
  have hbelow : below 64 source64 (most - least + 1) (zeros (count + 2)) = (0, zeros count) := by
    rw [below, scaled, hsource]
    refine (if_pos hzone).trans ?_
    rw [Nat.zero_mul, Nat.zero_div]
  rw [between, hbelow]
  rfl

theorem le_between (least most : Nat) (generator : Generator) :
    least ≤ (between least most generator).1 := by
  rw [between]
  exact Nat.le_add_right _ _

end ConstraintSearch.Chance
