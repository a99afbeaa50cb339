import ConstraintSearch.Binary64
import Mathlib.Data.Nat.Log
import Mathlib.Tactic.Ring
import Mathlib.Tactic.SplitIfs

/-! Rounding. It keeps the order of what is rounded and does not change what is representable, so a
result stays within any representable bounds that the exact one has. -/
namespace ConstraintSearch.Binary64

/-! Rounding to integers. -/

private theorem nearestEven_mul_right (n d : Nat) {k : Nat} (hk : 0 < k) :
    nearestEven (n * k) (d * k) = nearestEven n d := by
  have hrest : 2 * (n * k % (d * k)) = 2 * (n % d) * k := by
    rw [Nat.mul_mod_mul_right, Nat.mul_assoc]
  simp only [nearestEven, hrest, Nat.mul_div_mul_right _ _ hk, Nat.mul_lt_mul_right hk]

private theorem nearestEven_le_nearestEven_left {n n' : Nat} (d : Nat) (h : n ≤ n') :
    nearestEven n d ≤ nearestEven n' d := by
  have hle (n : Nat) : n / d ≤ nearestEven n d ∧ nearestEven n d ≤ n / d + 1 := by
    simp only [nearestEven]
    split_ifs <;> omega
  rcases Nat.eq_or_lt_of_le (Nat.div_le_div_right (c := d) h) with hq | hq
  · have hrest : n % d ≤ n' % d := by
      have hn := Nat.div_add_mod n d
      have hn' := Nat.div_add_mod n' d
      rw [hq] at hn
      omega
    simp only [nearestEven, hq]
    split_ifs <;> omega
  · have hn := (hle n).2
    have hn' := (hle n').1
    omega

theorem nearestEven_le_nearestEven {n n' d d' : Nat} (hd : 0 < d) (hd' : 0 < d')
    (h : n * d' ≤ n' * d) : nearestEven n d ≤ nearestEven n' d' := by
  rw [← nearestEven_mul_right n d hd', ← nearestEven_mul_right n' d' hd, Nat.mul_comm d' d]
  exact nearestEven_le_nearestEven_left _ h

@[simp] private theorem nearestEven_mul_self (k : Nat) {d : Nat} (hd : 0 < d) :
    nearestEven (k * d) d = k := by
  simp [nearestEven, Nat.mul_div_cancel k hd, hd]

/-! Rounding to units. -/

theorem spacing_pos (u : Nat) : 0 < spacing u := Nat.pow_pos (by decide)

private theorem spacing_dvd_spacing {u v : Nat} (h : u.log2 ≤ v.log2) : spacing u ∣ spacing v :=
  Nat.pow_dvd_pow 2 (Nat.sub_le_sub_right h 52)

private theorem spacing_dvd_pow {u e : Nat} (h : u.log2 ≤ e) : spacing u ∣ 2 ^ e :=
  Nat.pow_dvd_pow 2 (Nat.le_trans (Nat.sub_le u.log2 52) h)

private theorem log2_le_log2 {u v : Nat} (h : u ≤ v) : u.log2 ≤ v.log2 := by
  simp only [Nat.log2_eq_log_two]
  exact Nat.log_mono_right h

variable {n n' d d' b : Nat}

/-- A multiple of the gap that is not below the quotient is not below the result. -/
theorem roundUnits_le_of_dvd (hd : 0 < d) (hb : spacing (n / d) ∣ b) (h : n ≤ b * d) :
    roundUnits n d ≤ b := by
  obtain ⟨k, rfl⟩ := hb
  have hgap := spacing_pos (n / d)
  have hle : nearestEven n (d * spacing (n / d)) ≤ k := by
    rw [← nearestEven_mul_self k (Nat.mul_pos hd hgap)]
    refine nearestEven_le_nearestEven_left _ (Nat.le_trans h (Nat.le_of_eq ?_))
    ring
  rw [roundUnits, Nat.mul_comm (spacing _) k]
  exact Nat.mul_le_mul_right _ hle

theorem le_roundUnits_of_dvd (hd : 0 < d) (hb : spacing (n / d) ∣ b) (h : b * d ≤ n) :
    b ≤ roundUnits n d := by
  obtain ⟨k, rfl⟩ := hb
  have hgap := spacing_pos (n / d)
  have hle : k ≤ nearestEven n (d * spacing (n / d)) := by
    rw [← nearestEven_mul_self k (Nat.mul_pos hd hgap)]
    refine nearestEven_le_nearestEven_left _ (Nat.le_trans (Nat.le_of_eq ?_) h)
    ring
  rw [roundUnits, Nat.mul_comm (spacing _) k]
  exact Nat.mul_le_mul_right _ hle

private theorem le_pow_log2_mul (n : Nat) (hd : 0 < d) : n ≤ 2 ^ ((n / d).log2 + 1) * d := by
  have hlt : n / d < 2 ^ ((n / d).log2 + 1) := Nat.lt_log2_self
  exact Nat.le_of_lt ((Nat.div_lt_iff_lt_mul hd).mp hlt)

/-- Rounding keeps the order. With different gaps there is a power of two in between. -/
theorem roundUnits_le_roundUnits (hd : 0 < d) (hd' : 0 < d') (h : n * d' ≤ n' * d) :
    roundUnits n d ≤ roundUnits n' d' := by
  have hfloor : n / d ≤ n' / d' := by
    rw [Nat.le_div_iff_mul_le hd']
    refine Nat.le_of_mul_le_mul_right ?_ hd
    calc n / d * d' * d = n / d * d * d' := by ring
      _ ≤ n * d' := Nat.mul_le_mul_right d' (Nat.div_mul_le_self n d)
      _ ≤ n' * d := h
  have hlog := log2_le_log2 hfloor
  rcases Nat.eq_or_lt_of_le hlog with hlog | hlog
  · have hgap : spacing (n / d) = spacing (n' / d') := by rw [spacing, spacing, hlog]
    have hpos := spacing_pos (n' / d')
    rw [roundUnits, roundUnits, hgap]
    refine Nat.mul_le_mul_right _
      (nearestEven_le_nearestEven (Nat.mul_pos hd hpos) (Nat.mul_pos hd' hpos) ?_)
    calc n * (d' * spacing (n' / d')) = n * d' * spacing (n' / d') := by ring
      _ ≤ n' * d * spacing (n' / d') := Nat.mul_le_mul_right _ h
      _ = n' * (d * spacing (n' / d')) := by ring
  · have hpos : n' / d' ≠ 0 := by
      intro h0
      rw [h0] at hlog
      exact absurd hlog (Nat.not_lt_zero _)
    refine Nat.le_trans (m := 2 ^ (n' / d').log2) ?_ ?_
    · refine roundUnits_le_of_dvd hd (spacing_dvd_pow (Nat.le_of_lt hlog)) ?_
      refine Nat.le_trans (le_pow_log2_mul n hd) (Nat.mul_le_mul_right d ?_)
      exact Nat.pow_le_pow_right (by decide) hlog
    · refine le_roundUnits_of_dvd hd' (spacing_dvd_pow (Nat.le_refl _)) ?_
      exact (Nat.le_div_iff_mul_le hd').mp (Nat.log2_self_le hpos)

/-- Counts of units that need no rounding. -/
def Representable (units : Nat) : Prop := spacing units ∣ units

@[simp] theorem roundUnits_of_representable (h : Representable b) : roundUnits b 1 = b := by
  refine Nat.le_antisymm ?_ ?_
  · exact roundUnits_le_of_dvd Nat.one_pos (by rwa [Nat.div_one]) (Nat.le_of_eq (Nat.mul_one b).symm)
  · exact le_roundUnits_of_dvd Nat.one_pos (by rwa [Nat.div_one]) (Nat.le_of_eq (Nat.mul_one b))

theorem roundUnits_le (hd : 0 < d) (hb : Representable b) (h : n ≤ b * d) : roundUnits n d ≤ b := by
  rw [← roundUnits_of_representable hb]
  exact roundUnits_le_roundUnits hd Nat.one_pos (by rwa [Nat.mul_one])

theorem le_roundUnits (hd : 0 < d) (hb : Representable b) (h : b * d ≤ n) : b ≤ roundUnits n d := by
  rw [← roundUnits_of_representable hb]
  exact roundUnits_le_roundUnits Nat.one_pos hd (by rwa [Nat.mul_one])

@[simp] theorem roundUnits_zero (hd : 0 < d) : roundUnits 0 d = 0 :=
  Nat.le_zero.mp (roundUnits_le hd (Nat.dvd_zero _) (Nat.zero_le _))

/-- What is rounded once need not be rounded again. -/
theorem representable_roundUnits (n : Nat) (hd : 0 < d) : Representable (roundUnits n d) := by
  have hpow : roundUnits n d ≤ 2 ^ ((n / d).log2 + 1) :=
    roundUnits_le_of_dvd hd (spacing_dvd_pow (Nat.le_succ _)) (le_pow_log2_mul n hd)
  rcases Nat.eq_or_lt_of_le hpow with he | hlt
  · rw [Representable, he]
    exact spacing_dvd_pow (Nat.le_of_eq Nat.log2_two_pow)
  · have hlog : (roundUnits n d).log2 ≤ (n / d).log2 := by
      by_cases h0 : roundUnits n d = 0
      · simp [h0]
      · exact Nat.le_of_lt_succ ((Nat.log2_lt h0).mpr hlt)
    exact Nat.dvd_trans (spacing_dvd_spacing hlog) (Nat.dvd_mul_left _ _)

theorem representable_two_mul (h : Representable b) : Representable (2 * b) := by
  by_cases h0 : b = 0
  · rw [h0]
    exact Nat.dvd_zero _
  · have hgap : spacing (2 * b) ∣ 2 * spacing b := by
      rw [spacing, spacing, Nat.log2_two_mul h0, Nat.mul_comm 2]
      exact Nat.pow_dvd_pow 2 (by omega : b.log2 + 1 - 52 ≤ b.log2 - 52 + 1)
    exact Nat.dvd_trans hgap (Nat.mul_dvd_mul_left 2 h)

end ConstraintSearch.Binary64
