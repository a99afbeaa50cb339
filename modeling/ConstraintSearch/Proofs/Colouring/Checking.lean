import ConstraintSearch.Proofs.Colouring.History
import ConstraintSearch.Proofs.Colouring.Operations
import ConstraintSearch.Proofs.Colouring.Solving

/-! What the checker of colourings finds out. It looks at the slots that are displayed, and these are
not the regions when a report has brought more of them or fewer. -/
namespace ConstraintSearch.Colouring.Map
open Puzzle (reports_of_solve)
variable {borders : Nat → Nat → Prop} {first m m' : Map} {count other : Nat}

/-- So many of the first regions have colours of the palette, and the two ends of a border do not
agree. -/
structure Coloured (borders : Nat → Nat → Prop) (m : Map) (count : Nat) : Prop where
  mem_palette : ∀ id < count, ∃ colour ∈ m.palette, m.colourOf? id = some colour
  apart : ∀ a b, borders a b → m.colourOf? a ≠ m.colourOf? b

private theorem Coloured.of_le (h : m.Coloured borders count) (hle : other ≤ count) :
    m.Coloured borders other :=
  ⟨fun id hid => h.mem_palette id (Nat.lt_of_lt_of_le hid hle), h.apart⟩

private theorem Coloured.le_size (h : m.Coloured borders count) : count ≤ m.colouring.size := by
  refine Nat.le_of_not_lt fun hlt => ?_
  obtain ⟨_, _, hc⟩ := h.mem_palette _ hlt
  exact Nat.lt_irrefl _ (Assignment.lt_size_of_get? hc)

/-- The checker takes the slots for the regions. -/
theorem Bordered.isProper_iff_coloured (h : m.Bordered borders) :
    m.isProper = true ↔ m.Coloured borders m.colouring.size := by
  rw [h.isProper_iff, Assignment.isComplete_iff_exists]
  constructor
  · rintro ⟨hcomplete, hpalette, hapart⟩
    refine ⟨fun id hid => ?_, hapart⟩
    obtain ⟨colour, hc⟩ := hcomplete id hid
    exact ⟨colour, hpalette id colour hc, hc⟩
  · rintro ⟨hcoloured, hapart⟩
    refine ⟨fun id hid => ?_, fun id colour hc => ?_, hapart⟩
    · obtain ⟨colour, _, hc⟩ := hcoloured id hid
      exact ⟨colour, hc⟩
    · obtain ⟨_, hmem, hc'⟩ := hcoloured id (Assignment.lt_size_of_get? hc)
      cases hc.symm.trans hc'
      exact hmem

/-- There is a slot for each region and no other. -/
def Fitted (m : Map) : Prop := m.colouring.size = m.regions.length

/-- The report of a search over as many regions. -/
def FittingReport (m : Map) (report : Report Colour) : Prop := report.Fits m.regions.length

private theorem New.fitted (h : first.New) : first.Fitted := h.clear.kept.size_eq

private theorem Operation.fitted (h : Operation FittingReport m m') (hm : m.Fitted) :
    m'.Fitted := by
  cases h with
  | solve h =>
    obtain ⟨hr, ha⟩ := reports_of_solve h
    cases ha
    -- the search starts from a slot for each region, whatever is displayed
    have hfits := hr.fits rfl
    rw [Assignment.size_blank] at hfits
    exact Report.size_shown_eq_iff.mpr hfits
  | apply h => exact Report.size_shown_eq_iff.mpr h
  | reset => exact (Assignment.size_blank _).trans hm
  | withPaletteSize h =>
    obtain ⟨_, rfl⟩ := withPaletteSize_eq_ok h
    exact (Assignment.size_blank _).trans hm

private theorem Reaches.fitted (h : Reaches FittingReport first m) (hfirst : first.Fitted) :
    m.Fitted := by
  induction h with
  | refl => exact hfirst
  | tail _ h ih => exact h.fitted ih

/-- Whatever reports are applied, a colouring passes the checker exactly if all its slots have colours
of the palette and no two ends of a border agree. All regions are coloured then if there is a slot for
each of them, and not if one is missing; and that they are coloured is enough if there are no other
slots. As long as the reports come from searches over as many regions, slots and regions are the
same. -/
theorem isProper_iff_of_reaches (h : Built borders first) :
    (∀ m, Reaches AnyReport first m →
      (m.isProper = true ↔ m.Coloured borders m.colouring.size) ∧
      (m.regions.length ≤ m.colouring.size → m.isProper = true →
        m.Coloured borders m.regions.length) ∧
      (m.colouring.size < m.regions.length → ¬ m.Coloured borders m.regions.length) ∧
      (m.colouring.size ≤ m.regions.length → m.Coloured borders m.regions.length →
        m.isProper = true)) ∧
    (first.New → ∀ m, Reaches FittingReport first m →
      (m.isProper = true ↔ m.Coloured borders m.regions.length)) := by
  constructor
  · intro m hm
    have hiff := (hm.built h).bordered.isProper_iff_coloured
    refine ⟨hiff, fun hle hp => (hiff.mp hp).of_le hle, fun hlt hc => ?_, fun hle hc => ?_⟩
    · exact Nat.not_le_of_lt hlt hc.le_size
    · exact hiff.mpr (hc.of_le hle)
  · intro hnew m hm
    have hfitted : m.colouring.size = m.regions.length := hm.fitted hnew.fitted
    rw [← hfitted]
    exact (hm.built h).bordered.isProper_iff_coloured

/-- A path whose ends have the same colour, written down by hand, and the same colours with a slot too
many. -/
theorem isProper_iff_of_reaches_of_path :
    let borders := fun a b => (a, b) ∈ [(0, 1), (1, 2)] ∨ (b, a) ∈ [(0, 1), (1, 2)]
    ∃ first m more : Map, ofEdges 3 [(0, 1), (1, 2)] = .ok first ∧ first.New ∧
      Built borders first ∧ Reaches FittingReport first m ∧
      m.colouring = .ofList [some .red, some .green, some .red] ∧ m.Coloured borders m.regions.length ∧
      Reaches AnyReport first more ∧
      more.colouring = .ofList [some .red, some .green, some .red, none] ∧
      ¬ more.Coloured borders more.colouring.size := by
  intro borders
  let three : Report Colour := ⟨.solved (.ofList [some .red, some .green, some .red]), {}⟩
  let four : Report Colour := ⟨.solved (.ofList [some .red, some .green, some .red, none]), {}⟩
  obtain ⟨first, hfirst⟩ : ∃ first, ofEdges 3 [(0, 1), (1, 2)] = .ok first := ⟨_, rfl⟩
  have hbuilt := Built.ofEdges hfirst
  have hnew := New.ofEdges hfirst
  have hthree : FittingReport first three := by
    rintro _ ⟨⟩
    rw [(ofEdges_eq_ok hfirst).2.1]
    rfl
  have hm : Reaches FittingReport first (first.apply three) := .single (.apply hthree)
  have hmore : Reaches AnyReport first (first.apply four) := .single (.apply trivial)
  obtain ⟨hany, hfitting⟩ := isProper_iff_of_reaches hbuilt
  refine ⟨first, _, _, hfirst, hnew, hbuilt, hm, rfl, (hfitting hnew _ hm).mp ?_, hmore, rfl,
    fun hc => ?_⟩
  · cases hfirst
    decide +kernel
  · have hproper := (hany _ hmore).1.mpr hc
    cases hfirst
    revert hproper
    decide +kernel

/-- Two regions that border nothing and may only be red. The solution for one region is taken for
theirs, and that for four regions is not, though it has red for both. -/
theorem isProper_of_other_maps : ∃ new m one four fewer more,
    ofEdges 2 [] = .ok new ∧ new.withPaletteSize 1 = .ok m ∧
    ofEdges 1 [] = .ok one ∧ Puzzle.Reports one ⟨.natural, ()⟩ fewer ∧
    ofEdges 4 [(2, 3)] = .ok four ∧ Puzzle.Reports four ⟨.natural, ()⟩ more ∧
    (m.apply fewer).isProper = true ∧ (m.apply fewer).colourOf? 1 = none ∧
    (m.apply more).isProper = false ∧
      (m.apply more).Coloured (fun a b => (a, b) ∈ [] ∨ (b, a) ∈ []) m.regions.length := by
  refine ⟨_, _, _, _, _, _, rfl, rfl, rfl, ⟨_, rfl, .of_solve (Engine.solve_eq rfl rfl)⟩, rfl,
    ⟨_, rfl, .of_solve (Engine.solve_eq rfl rfl)⟩, ?_, ?_, ?_, ?_, ?_⟩
  · decide +kernel
  · decide +kernel
  · decide +kernel
  · decide +kernel
  · simp

end ConstraintSearch.Colouring.Map
