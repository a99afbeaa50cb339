import ConstraintSearch.Exchange
import ConstraintSearch.Proofs.Decimal.Scaled

/-! Settings for random maps that pass the check. The radii are positive and in order, and a side is
at least twice as long as the largest of them. But this is asked for by a comparison that also goes
through for what is not a number. -/
namespace ConstraintSearch.Colouring
open Binary64
variable {s : Settings} {side : Binary64}

attribute [local irreducible] unitLimit unitsPerOne

private theorem ofNat_two : Binary64.ofNat 2 = .finite false (2 * unitsPerOne) := by decide +kernel

theorem zero_lt_iff {x : Binary64} : Binary64.zero.lt x = true ↔
    x = .infinite false ∨ ∃ a, 0 < a ∧ x = .finite false a := by
  cases x with
  | nan => simp [Binary64.zero, lt]
  | infinite s => cases s <;> simp [Binary64.zero, lt]
  | finite s a =>
    cases s with
    | false => simp [Binary64.zero, lt, signedUnits]
    | true => simp [Binary64.zero, lt, signedUnits]

private theorem diameter_cases {least most : Binary64} (hpos : Binary64.zero.lt least = true)
    (hle : least.le most = true) (hmost : most.WellFormed) :
    (Binary64.ofNat 2).mul most = .infinite false ∨
      ∃ a b d, 0 < a ∧ a ≤ b ∧ least = .finite false a ∧ most = .finite false b ∧
        (Binary64.ofNat 2).mul most = .finite false d ∧ 2 * b ≤ d := by
  have hinfinite : (finite false (2 * unitsPerOne)).mul (.infinite false) = .infinite false :=
    if_neg (Nat.ne_of_gt (Nat.mul_pos Nat.two_pos unitsPerOne_pos))
  rw [ofNat_two]
  cases most with
  | nan => cases least <;> cases hle
  | infinite r =>
    cases r with
    | false => exact .inl hinfinite
    | true => rcases zero_lt_iff.mp hpos with rfl | ⟨a, _, rfl⟩ <;> cases hle
  | finite r b =>
    rcases zero_lt_iff.mp hpos with rfl | ⟨a, ha, rfl⟩
    · cases hle
    · obtain ⟨rfl, hab⟩ : r = false ∧ a ≤ b := by
        cases r with
        | false => exact ⟨rfl, le_finite_iff.mp hle⟩
        | true => exact absurd (le_negative_iff.mp hle).1 (Nat.ne_of_gt ha)
      have hdiameter : 2 * b ≤ roundUnits (2 * unitsPerOne * b) unitsPerOne := by
        refine le_roundUnits unitsPerOne_pos (representable_two_mul hmost.1) (Nat.le_of_eq ?_)
        ring
      rw [mul_finite]
      by_cases hd : roundUnits (2 * unitsPerOne * b) unitsPerOne < unitLimit
      · rw [ofUnits_of_lt false hd]
        exact .inr ⟨a, b, _, ha, hab, rfl, rfl, rfl, hdiameter⟩
      · exact .inl (ofUnits_of_le false (Nat.le_of_not_lt hd))

private theorem side_cases {least most : Binary64} (hpos : Binary64.zero.lt least = true)
    (hle : least.le most = true) (hmost : most.WellFormed)
    (hside : side.lt ((Binary64.ofNat 2).mul most) = false) :
    side = .nan ∨ side = .infinite false ∨
      ∃ a b w, 0 < a ∧ a ≤ b ∧ least = .finite false a ∧ most = .finite false b ∧
        side = .finite false w ∧ 2 * b ≤ w := by
  have hd := diameter_cases hpos hle hmost
  cases side with
  | nan => exact .inl rfl
  | infinite t =>
    cases t with
    | false => exact .inr (.inl rfl)
    | true => rcases hd with hd | ⟨_, _, _, _, _, _, _, hd, _⟩ <;> rw [hd] at hside <;> cases hside
  | finite t w =>
    rcases hd with hd | ⟨a, b, d, ha, hab, hleast, hmost, hd, hbd⟩ <;> rw [hd] at hside
    · cases hside
    · cases t with
      | false =>
        rw [Bool.eq_false_iff, Ne, lt_finite_iff] at hside
        exact .inr (.inr ⟨a, b, w, ha, hab, hleast, hmost, rfl, by omega⟩)
      | true => exact absurd (negative_lt_iff.mpr (by omega)) (Bool.eq_false_iff.mp hside)

namespace Settings

/-- What the check makes sure of. The sides are not said to be numbers. -/
structure Checked (s : Settings) : Prop where
  least_pos : 0 < s.leastRegions
  least_le_most : s.leastRegions ≤ s.mostRegions
  radius_pos : Binary64.zero.lt s.leastRadius = true
  radius_le : s.leastRadius.le s.mostRadius = true
  width_ge : s.width.lt ((Binary64.ofNat 2).mul s.mostRadius) = false
  height_ge : s.height.lt ((Binary64.ofNat 2).mul s.mostRadius) = false

theorem checked_of_validate (h : s.validate = .ok ()) : s.Checked := by
  have hflaw : s.flaw? = none := by
    rw [validate] at h
    cases hf : s.flaw? with
    | none => rfl
    | some flaw =>
      rw [hf] at h
      cases h
  rw [flaw?] at hflaw
  split_ifs at hflaw with hregions hmany hradius hside hmargin
  rw [Bool.or_eq_true, decide_eq_true_eq, decide_eq_true_eq, not_or] at hregions
  rw [Bool.not_eq_true, Bool.not_eq_false', Bool.and_eq_true] at hradius
  rw [Bool.or_eq_true, not_or, Bool.not_eq_true, Bool.not_eq_true] at hside
  exact ⟨Nat.pos_of_ne_zero hregions.1, Nat.le_of_not_lt hregions.2, hradius.1, hradius.2, hside.1,
    hside.2⟩

/-- The numbers of the settings are such as the format holds. -/
def WellFormed (s : Settings) : Prop :=
  ∀ x ∈ [s.width, s.height, s.leastRadius, s.mostRadius, s.margin], x.WellFormed

private theorem wellFormed_of_fieldOr {x default : Binary64} {field : Option Json}
    (hd : default.WellFormed) (h : Json.fieldOr Json.binary64? default field = some x) :
    x.WellFormed := by
  cases field with
  | none =>
    cases h
    exact hd
  | some value =>
    change value.binary64? = some x at h
    cases value with
    | number text => exact Decimal.wellFormed_readScaled h
    | null => cases h
    | bool value => cases h
    | string text => cases h
    | array items => cases h
    | object fields => cases h

private theorem wellFormed_of_ofJson {json : Json} (h : ofJson? json = some s) : s.WellFormed := by
  unfold ofJson? at h
  obtain ⟨fields, _, h⟩ := Option.bind_eq_some_iff.mp h
  split at h
  · obtain ⟨width, hwidth, h⟩ := Option.bind_eq_some_iff.mp h
    obtain ⟨height, hheight, h⟩ := Option.bind_eq_some_iff.mp h
    obtain ⟨_, _, h⟩ := Option.bind_eq_some_iff.mp h
    obtain ⟨_, _, h⟩ := Option.bind_eq_some_iff.mp h
    obtain ⟨leastRadius, hleast, h⟩ := Option.bind_eq_some_iff.mp h
    obtain ⟨mostRadius, hmost, h⟩ := Option.bind_eq_some_iff.mp h
    obtain ⟨margin, hmargin, h⟩ := Option.bind_eq_some_iff.mp h
    cases h
    intro x hx
    simp only [List.mem_cons, List.not_mem_nil, or_false] at hx
    rcases hx with rfl | rfl | rfl | rfl | rfl
    · exact wellFormed_of_fieldOr (wellFormed_ofNat _) hwidth
    · exact wellFormed_of_fieldOr (wellFormed_ofNat _) hheight
    · exact wellFormed_of_fieldOr (wellFormed_ofNat _) hleast
    · exact wellFormed_of_fieldOr (wellFormed_ofNat _) hmost
    · exact wellFormed_of_fieldOr (wellFormed_ofNat _) hmargin
  · cases h

/-- Settings that are read from a text are such as the format holds, and they are checked. -/
theorem of_ofText {text : String} (h : ofText text = .ok s) :
    s.WellFormed ∧ s.validate = .ok () := by
  rw [ofText] at h
  split at h
  · rename_i read hread
    obtain ⟨json, _, hjson⟩ := Option.bind_eq_some_iff.mp hread
    cases hv : read.validate with
    | error failure =>
      rw [hv] at h
      cases h
    | ok u =>
      rw [hv] at h
      cases h
      exact ⟨wellFormed_of_ofJson hjson, hv⟩
  · cases h

structure InUnits (s : Settings) (a b w v : Nat) : Prop where
  pos : 0 < a
  le : a ≤ b
  leastRadius_eq : s.leastRadius = .finite false a
  mostRadius_eq : s.mostRadius = .finite false b
  width_eq : s.width = .finite false w
  height_eq : s.height = .finite false v
  width_ge : 2 * b ≤ w
  height_ge : 2 * b ≤ v

theorem Checked.exists_inUnits (hs : s.Checked) (hmost : s.mostRadius.WellFormed)
    (hwidth : s.width ≠ .nan ∧ s.width ≠ .infinite false)
    (hheight : s.height ≠ .nan ∧ s.height ≠ .infinite false) : ∃ a b w v, s.InUnits a b w v := by
  obtain ⟨a, b, w, ha, hab, hleast, hradius, hw, hbw⟩ :=
    ((side_cases hs.radius_pos hs.radius_le hmost hs.width_ge).resolve_left hwidth.1).resolve_left
      hwidth.2
  obtain ⟨_, b', v, _, _, _, hradius', hv, hbv⟩ :=
    ((side_cases hs.radius_pos hs.radius_le hmost hs.height_ge).resolve_left hheight.1).resolve_left
      hheight.2
  rw [hradius] at hradius'
  cases hradius'
  exact ⟨a, b, w, v, ha, hab, hleast, hradius, hw, hv, hbw, hbv⟩

end Settings

end ConstraintSearch.Colouring
