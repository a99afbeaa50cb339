import ConstraintSearch.Proofs.Chance.Within
import ConstraintSearch.Proofs.Colouring.Settings

/-! Random maps. A radius is drawn first, and then a place for its centre on either side of the
canvas, which is all the narrower the larger the radius is. So the smallest radius decides whether all
these ranges can be drawn from, and the check of the settings does not ask for it. -/
namespace ConstraintSearch.Colouring
open Chance Binary64
variable {s : Settings} {low high : Binary64} {a b c w : Nat}

attribute [local irreducible] unitLimit unitsPerOne topUnits

private theorem finite_of_usable (hlow : Binary64.zero.lt low = true) (h : Usable low high) :
    ∃ a b, 0 < a ∧ a ≤ b ∧ low = .finite false a ∧ high = .finite false b := by
  rcases zero_lt_iff.mp hlow with rfl | ⟨a, ha, rfl⟩
  · obtain ⟨hle, hfinite⟩ := h
    cases high with
    | nan => cases hle
    | infinite t =>
      cases t with
      | false => cases hfinite
      | true => cases hle
    | finite t b => cases hle
  · obtain ⟨b, rfl⟩ := h.exists_high ha
    exact ⟨a, b, ha, (usable_finite_iff.mp h).1, rfl, rfl⟩

section
variable (h : Usable (.finite false a) ((finite false w).sub (.finite false a)))
include h

private theorem usable_rest (haw : a ≤ w) : roundUnits (w - a) 1 < unitLimit ∧
    Usable (.finite false a) (.finite false (roundUnits (w - a) 1)) := by
  rw [sub_finite haw] at h
  by_cases hlt : roundUnits (w - a) 1 < unitLimit
  · rw [ofUnits_of_lt false hlt] at h
    exact ⟨hlt, h⟩
  · rw [ofUnits_of_le false (Nat.le_of_not_lt hlt)] at h
    obtain ⟨_, hfinite⟩ := h
    rw [unitMax_eq] at hfinite
    cases hfinite

private theorem usable_centre (hac : a ≤ c) (hcw : 2 * c ≤ w) (hc : (finite false c).WellFormed) :
    Usable (.finite false c) ((finite false w).sub (.finite false c)) := by
  obtain ⟨hlt, hrest⟩ := usable_rest h (by omega)
  have hle : roundUnits (w - c) 1 ≤ roundUnits (w - a) 1 :=
    roundUnits_le_roundUnits Nat.one_pos Nat.one_pos (by omega)
  rw [sub_finite (by omega), ofUnits_of_lt false (Nat.lt_of_le_of_lt hle hlt)]
  exact hrest.mono hac (le_roundUnits Nat.one_pos hc.1 (by omega)) hle

private theorem usable_radii (hab : a ≤ b) (hbw : 2 * b ≤ w) (hb : (finite false b).WellFormed) :
    Usable (.finite false a) (.finite false b) := by
  obtain ⟨_, hrest⟩ := usable_rest h (by omega)
  exact hrest.mono (Nat.le_refl a) hab (le_roundUnits Nat.one_pos hb.1 (by omega))

end

/-- The units in 2¹⁰²³, half of what is too large for a number. -/
def sideLimit : Nat := Nat.pow 2 2097

private theorem powerOfTwo_eq : powerOfTwo 1023 = .finite false sideLimit := by decide +kernel

private theorem representable_sideLimit : Representable sideLimit := by
  unfold Representable
  decide +kernel

private theorem representable_scaledLimit : Representable (sideLimit + sideLimit / 2) := by
  unfold Representable
  decide +kernel

private theorem scaledLimit_lt : sideLimit + sideLimit / 2 < unitLimit := by decide +kernel

private theorem sideLimit_mul :
    sideLimit * unitsPerOne ≤ (sideLimit + sideLimit / 2) * topUnits := by decide +kernel

attribute [local irreducible] sideLimit

private theorem usable_of_le (ha : (finite false a).WellFormed) (haw : 2 * a ≤ w)
    (hw : w ≤ sideLimit) : Usable (.finite false a) ((finite false w).sub (.finite false a)) := by
  have hlimit : sideLimit < unitLimit := Nat.lt_of_le_of_lt (Nat.le_add_right _ _) scaledLimit_lt
  have hrest : roundUnits (w - a) 1 ≤ sideLimit :=
    roundUnits_le Nat.one_pos representable_sideLimit (by omega)
  have hwidth : roundUnits (roundUnits (w - a) 1 - a) 1 ≤ sideLimit :=
    roundUnits_le Nat.one_pos representable_sideLimit (by omega)
  rw [sub_finite (by omega), ofUnits_of_lt false (Nat.lt_of_le_of_lt hrest hlimit)]
  refine usable_finite_iff.mpr ⟨le_roundUnits Nat.one_pos ha.1 (by omega),
    Nat.lt_of_le_of_lt hwidth hlimit, Nat.lt_of_le_of_lt ?_ scaledLimit_lt⟩
  exact roundUnits_le topUnits_pos representable_scaledLimit
    (Nat.le_trans (Nat.mul_le_mul_right _ hwidth) sideLimit_mul)

namespace Settings

/-- A radius leaves a range for the centre on either side. -/
def LeavesRoom (s : Settings) (radius : Binary64) : Prop :=
  Usable radius (s.width.sub radius) ∧ Usable radius (s.height.sub radius)

instance (s : Settings) (radius : Binary64) : Decidable (s.LeavesRoom radius) :=
  inferInstanceAs (Decidable (_ ∧ _))

private theorem LeavesRoom.exists_inUnits {radius : Binary64} (h : s.LeavesRoom radius)
    (hs : s.Checked) (hmost : s.mostRadius.WellFormed) (hpos : Binary64.zero.lt radius = true) :
    ∃ a b w v, s.InUnits a b w v := by
  have hside {side : Binary64} (hu : Usable radius (side.sub radius)) :
      side ≠ .nan ∧ side ≠ .infinite false := by
    obtain ⟨a, b, _, _, hlow, hhigh⟩ := finite_of_usable hpos hu
    rw [hlow] at hhigh
    constructor <;> rintro rfl <;> cases hhigh
  exact hs.exists_inUnits hmost (hside h.1) (hside h.2)

private theorem Checked.leavesRoom (hs : s.Checked) (hleast : s.leastRadius.WellFormed)
    (hmost : s.mostRadius.WellFormed) (hwidth : s.width.le (powerOfTwo 1023) = true)
    (hheight : s.height.le (powerOfTwo 1023) = true) : s.LeavesRoom s.leastRadius := by
  rw [powerOfTwo_eq] at hwidth hheight
  have hside {side : Binary64} (h : side.le (.finite false sideLimit) = true) :
      side ≠ .nan ∧ side ≠ .infinite false := by
    constructor <;> rintro rfl <;> cases h
  obtain ⟨a, b, w, v, hu⟩ := hs.exists_inUnits hmost (hside hwidth) (hside hheight)
  rw [hu.width_eq, le_finite_iff] at hwidth
  rw [hu.height_eq, le_finite_iff] at hheight
  rw [hu.leastRadius_eq] at hleast
  have hab := Nat.mul_le_mul_left 2 hu.le
  rw [LeavesRoom, hu.leastRadius_eq, hu.width_eq, hu.height_eq]
  exact ⟨usable_of_le hleast (Nat.le_trans hab hu.width_ge) hwidth,
    usable_of_le hleast (Nat.le_trans hab hu.height_ge) hheight⟩

end Settings

namespace Map

private theorem exists_drawRegion (hs : s.Checked) (hleast : s.leastRadius.WellFormed)
    (hmost : s.mostRadius.WellFormed) (hroom : s.LeavesRoom s.leastRadius) (id : Nat)
    (generator : Generator) : ∃ region later, drawRegion s id generator = (.ok region, later) := by
  obtain ⟨a, b, w, v, hu⟩ := hroom.exists_inUnits hs hmost hs.radius_pos
  obtain ⟨hwidth, hheight⟩ := hroom
  rw [hu.leastRadius_eq, hu.width_eq] at hwidth
  rw [hu.leastRadius_eq, hu.height_eq] at hheight
  rw [hu.leastRadius_eq] at hleast
  rw [hu.mostRadius_eq] at hmost
  have hradii := usable_radii hwidth hu.le hu.width_ge hmost
  obtain ⟨c, hradius, hac, hcb, hc, _⟩ := Draw.exists_within hradii hleast generator
  -- both ranges for the centre depend on the radius that was drawn
  have hx := usable_centre hwidth hac (Nat.le_trans (Nat.mul_le_mul_left 2 hcb) hu.width_ge) hc
  have hy := usable_centre hheight hac (Nat.le_trans (Nat.mul_le_mul_left 2 hcb) hu.height_ge) hc
  rw [drawRegion, hu.leastRadius_eq, hu.mostRadius_eq, hu.width_eq, hu.height_eq,
    InPlace.bind_of_ok hradius, InPlace.bind_of_ok (Draw.within_of_usable hx _),
    InPlace.bind_of_ok (Draw.within_of_usable hy _)]
  exact ⟨_, _, rfl⟩

private theorem generate_of_validate (hv : s.validate = .ok ()) (generator : Generator) :
    Map.generate s generator = (do
      let count ← Draw.sure (between s.leastRegions s.mostRegions)
      let regions ← (List.range count).mapM (drawRegion s)
      return ofRegions regions s.margin : Draw Map) generator := by
  exact InPlace.bind_of_ok (InPlace.lift_eq hv generator)

/-- If the smallest radius leaves room, a map can be drawn whatever the generator is. -/
theorem exists_generate (hv : s.validate = .ok ()) (hleast : s.leastRadius.WellFormed)
    (hmost : s.mostRadius.WellFormed) (hroom : s.LeavesRoom s.leastRadius)
    (generator : Generator) : ∃ m later, Map.generate s generator = (.ok m, later) := by
  have hregion := exists_drawRegion (Settings.checked_of_validate hv) hleast hmost hroom
  have hcount := Draw.sure_eq (between s.leastRegions s.mostRegions) generator
  obtain ⟨regions, last, hregions⟩ := InPlace.exists_mapM hregion
    (List.range (between s.leastRegions s.mostRegions generator).1)
    (between s.leastRegions s.mostRegions generator).2
  rw [generate_of_validate hv, InPlace.bind_of_ok hcount, InPlace.bind_of_ok hregions]
  exact ⟨_, last, rfl⟩

section
variable {generator later : Generator} {m : Map} (hv : s.validate = .ok ())
  (h : Map.generate s generator = (.ok m, later))
include hv h

private theorem leavesRoom_of_generate : ∃ radius g,
    Draw.within s.leastRadius s.mostRadius (between s.leastRegions s.mostRegions generator).2 =
      (.ok radius, g) ∧ s.LeavesRoom radius := by
  have hs := Settings.checked_of_validate hv
  rw [generate_of_validate hv] at h
  obtain ⟨count, _, hcount, h⟩ := InPlace.bind_eq_ok h
  obtain ⟨_, _, hregions, _⟩ := InPlace.bind_eq_ok h
  rw [Draw.sure_eq] at hcount
  cases hcount
  have hpos := Nat.lt_of_lt_of_le hs.least_pos
    (le_between s.leastRegions s.mostRegions generator)
  obtain ⟨rest, hrest⟩ := Nat.exists_eq_succ_of_ne_zero (Nat.ne_of_gt hpos)
  rw [hrest, List.range_succ_eq_map, List.mapM_cons] at hregions
  obtain ⟨_, _, hregion, _⟩ := InPlace.bind_eq_ok hregions
  obtain ⟨radius, g, hradius, hregion⟩ := InPlace.bind_eq_ok hregion
  obtain ⟨_, _, hx, hregion⟩ := InPlace.bind_eq_ok hregion
  obtain ⟨_, _, hy, _⟩ := InPlace.bind_eq_ok hregion
  exact ⟨radius, g, hradius, Draw.usable_of_within hx, Draw.usable_of_within hy⟩

/-- No map is drawn unless the largest radius leaves room, drawn or not. -/
theorem leavesRoom_most (hleast : s.leastRadius.WellFormed) (hmost : s.mostRadius.WellFormed) :
    s.LeavesRoom s.mostRadius := by
  have hs := Settings.checked_of_validate hv
  obtain ⟨radius, _, hradius, hroom⟩ := leavesRoom_of_generate hv h
  have hradii := Draw.usable_of_within hradius
  obtain ⟨a, b, ha, _, hlow, hhigh⟩ := finite_of_usable hs.radius_pos hradii
  rw [hlow, hhigh] at hradius hradii
  rw [hlow] at hleast
  rw [hhigh] at hmost
  obtain ⟨c, hc, hac, hcb, _⟩ := Draw.exists_within hradii hleast
    (between s.leastRegions s.mostRegions generator).2
  rw [hc] at hradius
  cases hradius
  -- the radius that left room is not above the largest, which then leaves room as well
  have hpos := zero_lt_iff.mpr (.inr ⟨c, Nat.lt_of_lt_of_le ha hac, rfl⟩)
  obtain ⟨a', b', w, v, hu⟩ := hroom.exists_inUnits hs (hhigh ▸ hmost) hpos
  obtain ⟨hx, hy⟩ := hroom
  obtain rfl : b' = b := by
    have hb := hu.mostRadius_eq.symm.trans hhigh
    cases hb
    rfl
  rw [hu.width_eq] at hx
  rw [hu.height_eq] at hy
  rw [Settings.LeavesRoom, hhigh, hu.width_eq, hu.height_eq]
  exact ⟨usable_centre hx hcb hu.width_ge hmost, usable_centre hy hcb hu.height_ge hmost⟩

end

private theorem leavesRoom_least (hv : s.validate = .ok ()) (hleast : s.leastRadius.WellFormed)
    {m : Map} {later : Generator} (h : Map.generate s (zeros 8) = (.ok m, later)) :
    s.LeavesRoom s.leastRadius := by
  obtain ⟨radius, _, hradius, hroom⟩ := leavesRoom_of_generate hv h
  -- zeros draw the smallest radius for the first region
  rw [between_zeros] at hradius
  have hradii := Draw.usable_of_within hradius
  obtain ⟨a, b, _, _, hlow, hhigh⟩ :=
    finite_of_usable (Settings.checked_of_validate hv).radius_pos hradii
  rw [hlow, hhigh] at hradius hradii
  rw [hlow] at hleast
  rw [Draw.within_of_zero hradii hleast (next64_zeros 4)] at hradius
  cases hradius
  rwa [hlow]

private theorem failsOnRange_drawRegion (s : Settings) (id : Nat) :
    Draw.FailsOnRange (drawRegion s id) :=
  (Draw.FailsOnRange.within _ _).bind fun _ => (Draw.FailsOnRange.within _ _).bind fun _ =>
    (Draw.FailsOnRange.within _ _).bind fun _ => Draw.FailsOnRange.pure _

private theorem failsOnRange_generate (hv : s.validate = .ok ()) :
    Draw.FailsOnRange (Map.generate s) := by
  intro generator failure later h
  rw [generate_of_validate hv] at h
  have hdraw : Draw.FailsOnRange (do
      let count ← Draw.sure (between s.leastRegions s.mostRegions)
      let regions ← (List.range count).mapM (drawRegion s)
      return ofRegions regions s.margin : Draw Map) :=
    (Draw.FailsOnRange.sure _).bind fun _ =>
      (Draw.FailsOnRange.mapM (failsOnRange_drawRegion s) _).bind fun _ =>
        Draw.FailsOnRange.pure _
  exact hdraw _ _ _ h

/-- Settings that pass the check allow a map to be drawn with every generator exactly if the smallest
radius leaves a range for the centre on either side. So it does on sides up to 2¹⁰²³, which the check
does not ask for; and unless the largest radius does so too, no map is drawn at all. What fails then is
a draw from a range without order or of infinite width. -/
theorem generate_succeeds_iff (hs : s.WellFormed) (hv : s.validate = .ok ()) :
    ((∀ generator, ∃ m later, Map.generate s generator = (.ok m, later)) ↔
      s.LeavesRoom s.leastRadius) ∧
    (s.width.le (powerOfTwo 1023) = true → s.height.le (powerOfTwo 1023) = true →
      s.LeavesRoom s.leastRadius) ∧
    (∀ generator m later, Map.generate s generator = (.ok m, later) →
      s.LeavesRoom s.mostRadius) ∧
    Draw.FailsOnRange (Map.generate s) := by
  have hleast : s.leastRadius.WellFormed := hs _ (by simp)
  have hmost : s.mostRadius.WellFormed := hs _ (by simp)
  refine ⟨⟨fun h => ?_, exists_generate hv hleast hmost⟩,
    (Settings.checked_of_validate hv).leavesRoom hleast hmost,
    fun generator m later h => leavesRoom_most hv h hleast hmost, failsOnRange_generate hv⟩
  obtain ⟨m, later, hm⟩ := h (zeros 8)
  exact leavesRoom_least hv hleast hm

/-- A canvas that is wider than usual. -/
theorem generate_succeeds_iff_of_wide_canvas :
    let s : Settings := { width := .ofNat 800 }
    Settings.ofText "\x7b\"width\": 800\x7d" = .ok s ∧ s.WellFormed ∧ s.validate = .ok () ∧
      s.LeavesRoom s.leastRadius ∧
      ∀ generator, ∃ m later, Map.generate s generator = (.ok m, later) := by
  intro s
  have htext : Settings.ofText "\x7b\"width\": 800\x7d" = .ok s := by decide +kernel
  obtain ⟨hs, hv⟩ := Settings.of_ofText htext
  have hwidth : s.width.le (powerOfTwo 1023) = true := by decide +kernel
  have hheight : s.height.le (powerOfTwo 1023) = true := by decide +kernel
  obtain ⟨hiff, hroom, _⟩ := generate_succeeds_iff hs hv
  have hleast := hroom hwidth hheight
  exact ⟨htext, hs, hv, hleast, hiff.mpr hleast⟩

/-- Settings that pass the check although no map can be drawn: the canvas is as wide as the largest
number. -/
theorem generate_fails_of_largest_width :
    let text := "\x7b\"width\": 1.7976931348623157e308, \"min_regions\": 1, \"max_regions\": 1\x7d"
    ∃ s, Settings.ofText text = .ok s ∧ s.validate = .ok () ∧
      ∀ generator, ∃ failure later, Map.generate s generator = (.error failure, later) := by
  intro text
  let s : Settings := { width := .finite false (unitLimit - Nat.pow 2 2045), leastRegions := 1,
                        mostRegions := 1 }
  have htext : Settings.ofText text = .ok s := by decide +kernel
  have hroom : ¬ s.LeavesRoom s.mostRadius := by decide +kernel
  obtain ⟨_, hv⟩ := Settings.of_ofText htext
  refine ⟨s, htext, hv, fun generator => ?_⟩
  rcases hg : Map.generate s generator with ⟨failure | m, later⟩
  · exact ⟨failure, later, rfl⟩
  · exact absurd (leavesRoom_most hv hg (wellFormed_ofNat _) (wellFormed_ofNat _)) hroom

end Map

end ConstraintSearch.Colouring
