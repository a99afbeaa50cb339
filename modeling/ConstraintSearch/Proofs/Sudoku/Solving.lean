import ConstraintSearch.Proofs.Apart
import ConstraintSearch.Proofs.Puzzle
import ConstraintSearch.Proofs.Search.Solutions
import ConstraintSearch.Proofs.Sudoku.Checker
import ConstraintSearch.Proofs.Sudoku.Encoding

/-! Solving a grid. The search finds a full grid that the checker accepts exactly if some full grid
agrees with the filled cells. -/
namespace ConstraintSearch.Sudoku
variable {σ : Type}

/-- All filled cells of the second grid have the same content in the first. -/
def Grid.Fills (full g : Grid) : Prop :=
  ∀ cell < cellCount, g.get cell ≠ 0 → full.get cell = g.get cell

theorem Grid.fills_fallback : Grid.fallback.Fills .classic := by
  unfold Grid.Fills
  decide

/-- At the first cell where the two differ, row by row, the first grid has the smaller content. -/
def Grid.Precedes (g h : Grid) : Prop :=
  ∃ cell < cellCount, (∀ lower < cell, g.get lower = h.get lower) ∧ g.get cell < h.get cell

theorem model_keepsApart : model.KeepsApart peers where
  consistent_eq a cell digit := by rw [← peersOf_eq]; rfl
  symm cell hc other ho := mem_peers_symm hc ho
  ne cell hc other ho := ((mem_peers hc).mp ho).2.1
  lt cell hc other ho := ((mem_peers hc).mp ho).1

theorem validate_model : model.validate = .ok () := rfl

/-- What a search over a grid has to find. -/
abbrev Filling (givens b : Assignment Nat) : Prop := Solution model (model.pairs peers) givens b

namespace Filling
variable {g full : Grid} {b c : Assignment Nat}

theorem get?_eq (h : Filling g.slots b) {cell : Nat} (hc : cell < cellCount) :
    b.get? cell = some ((Grid.ofAssignment b).get cell) := by
  obtain ⟨digit, hd⟩ := Assignment.isComplete_iff_exists.mp h.complete cell (h.size_eq ▸ hc)
  rw [Grid.get_ofAssignment hc, hd, Option.getD_some]

theorem fills (h : Filling g.slots b) : (Grid.ofAssignment b).Fills g := by
  intro cell hc hg
  have hk := h.keeps cell (g.get cell) (by rw [Grid.get?_slots, if_neg hg])
  rw [Grid.get_ofAssignment hc, hk, Option.getD_some]

private theorem get_mem_digits (hg : ∀ cell < cellCount, g.get cell ≤ 9) (h : Filling g.slots b)
    {cell : Nat} (hc : cell < cellCount) : (Grid.ofAssignment b).get cell ∈ digits := by
  by_cases h0 : g.get cell = 0
  · exact h.inDomain cell hc (by rw [Grid.get?_slots, if_pos h0]) _ (h.get?_eq hc)
  · rw [h.fills cell hc h0]
    exact mem_digits.mpr ⟨Nat.pos_of_ne_zero h0, hg cell hc⟩

theorem isSolution (hg : ∀ cell < cellCount, g.get cell ≤ 9) (h : Filling g.slots b) :
    (Grid.ofAssignment b).isSolution = true := by
  rw [Grid.isSolution_iff]
  refine ⟨fun x hx => h.get_mem_digits hg hx, fun x hx y hy he => ?_⟩
  have hall := (model_keepsApart.holds_pairs_iff h.size_eq h.complete).mp h.holds
  refine hall x hx y hy ?_
  rw [h.get?_eq hx, h.get?_eq (model_keepsApart.lt x hx y hy), he]

theorem of_isSolution (hs : full.isSolution = true) (hf : full.Fills g) :
    Filling g.slots full.slots := by
  obtain ⟨hdigit, hpeer⟩ := (Grid.isSolution_iff full).mp hs
  have hget {cell : Nat} (hc : cell < cellCount) : full.slots.get? cell = some (full.get cell) := by
    rw [Grid.get?_slots, if_neg (Nat.ne_of_gt (mem_digits.mp (hdigit cell hc)).1)]
  have hcomplete : full.slots.isComplete = true :=
    Assignment.isComplete_iff_exists.mpr fun cell hc =>
      ⟨full.get cell, hget (Grid.size_slots full ▸ hc)⟩
  refine ⟨Grid.size_slots full, hcomplete, fun cell value hk => ?_, fun cell hc _ value hv => ?_, ?_⟩
  · have hc : cell < cellCount := Grid.size_slots g ▸ Assignment.lt_size_of_get? hk
    rw [Grid.get?_slots] at hk
    split at hk
    · cases hk
    · rename_i h0
      rw [hget hc, hf cell hc h0, hk]
  · rw [hget hc] at hv
    exact Option.some.inj hv ▸ hdigit cell hc
  · refine (model_keepsApart.holds_pairs_iff (Grid.size_slots full) hcomplete).mpr ?_
    intro x hx y hy he
    rw [hget hx, hget (model_keepsApart.lt x hx y hy)] at he
    exact hpeer x hx y hy (Option.some.inj he)

private theorem precedes (hg : ∀ cell < cellCount, g.get cell ≤ 9) (hb : Filling g.slots b)
    (hc : Filling g.slots c) (h : b.Precedes (fun _ => digits) c) :
    (Grid.ofAssignment b).Precedes (Grid.ofAssignment c) := by
  obtain ⟨cell, x, y, hlow, hx, hy, hlt⟩ := h
  have hcell : cell < cellCount := Nat.lt_of_lt_of_eq (Assignment.lt_size_of_get? hx) hb.size_eq
  have hmem {a : Assignment Nat} {z : Nat} (ha : Filling g.slots a) (hz : a.get? cell = some z) :
      z ∈ digits := by
    have hd := ha.get_mem_digits hg hcell
    rwa [Grid.get_ofAssignment hcell, hz] at hd
  have hdigit : ∀ x ∈ digits, ∀ y ∈ digits, digits.idxOf x < digits.idxOf y → x < y := by decide
  refine ⟨cell, hcell, fun lower hl => ?_, ?_⟩
  · have hl' : lower < cellCount := Nat.lt_trans hl hcell
    rw [Grid.get_ofAssignment hl', Grid.get_ofAssignment hl', hlow lower hl]
  · rw [Grid.get_ofAssignment hcell, Grid.get_ofAssignment hcell, hx, hy]
    exact hdigit x (hmem hb hx) y (hmem hc hy) hlt

end Filling

namespace Board
variable {g : Grid} {b : Board}

theorem cells_ofGrid (hb : ofGrid g = .ok b) : b.cells = g.slots := by
  obtain ⟨_, rfl⟩ := ofGrid_eq_ok hb
  rfl

theorem isGivenCell_ofGrid (hb : ofGrid g = .ok b) (cell : Nat) :
    b.isGivenCell cell = (g.get cell != 0) := by
  obtain ⟨_, rfl⟩ := ofGrid_eq_ok hb
  rw [isGivenCell, Grid.get, Vector.getElem?_map]
  cases g.cells[cell]? <;> rfl

theorem initial_ofGrid (hb : ofGrid g = .ok b) : b.initial = .ok g.slots := by
  have hcells := cells_ofGrid hb
  have hsize : b.cells.size = cellCount := hcells ▸ Grid.size_slots g
  rw [initial_eq_ok (Nat.le_of_eq hsize)]
  refine congrArg Except.ok (Assignment.ext_get? ?_ fun cell _ => ?_)
  · rw [size_onlyGivens, hsize, Grid.size_slots]
  · rw [get?_onlyGivens, isGivenCell_ofGrid hb, hcells, Grid.get?_slots]
    by_cases h0 : g.get cell = 0 <;> simp [h0]

theorem cellAt_lt {row col : Nat} (h : onGrid row col = true) : cellAt row col < cellCount := by
  simp only [onGrid, Bool.and_eq_true, decide_eq_true_eq, cellAt, cellCount] at h ⊢
  omega

theorem value?_of_isGiven (hb : ofGrid g = .ok b) {b' : Board} {found : Assignment Nat}
    (hfound : Filling g.slots found) (hcells : b'.cells = found) {row col : Nat}
    (h : b.isGiven row col = true) : b'.value? row col = b.value? row col := by
  rw [isGiven, Bool.and_eq_true, isGivenCell_ofGrid hb, bne_iff_ne] at h
  obtain ⟨hgrid, h0⟩ := h
  have hcell := cellAt_lt hgrid
  rw [value?, value?, if_pos hgrid, if_pos hgrid, hcells, cells_ofGrid hb, Grid.get?_slots,
    if_neg h0, hfound.get?_eq hcell, hfound.fills _ hcell h0]

/-- A new board is solved by a search from the filled cells. It then shows what was found, or else
its grid. -/
theorem solve_eq_ok (hb : ofGrid g = .ok b) {e : Engine σ Nat} (he : e.order.Permutes model) :
    ∃ report e', report.Answers model (model.pairs peers) e.order g.slots ∧
      Puzzle.solve b e = .ok (report,
        { b with cells := report.outcome.solution?.getD g.slots, stats := report.stats }, e') := by
  obtain ⟨report, e', hsolve, ha⟩ :=
    Engine.solve_answers model_keepsApart.givenBy he validate_model (Grid.size_slots g)
  refine ⟨report, e', ha, Puzzle.solve_eq_ok (initial_ofGrid hb) hsolve ?_⟩
  change b.apply report = _
  obtain ⟨outcome, stats⟩ := report
  cases outcome with
  | solved solution => rfl
  | unsatisfiable =>
    rw [apply, initial_ofGrid hb]
    rfl

/-- Solving a new board never fails. It reports a solution exactly if a full grid that passes the
checker has the same content in all filled cells, and then shows such a grid, the first one when
digits are tried in their order. Without a solution it shows its grid again. -/
theorem solve_ofGrid (hb : ofGrid g = .ok b) {e : Engine σ Nat} (he : e.order.Permutes model) :
    ∃ report b' e', Puzzle.solve b e = .ok (report, b', e') ∧
      (report.outcome.isSolved = true ↔ ∃ full : Grid, full.isSolution = true ∧ full.Fills g) ∧
      (report.outcome.isSolved = true → b'.grid.isSolution = true ∧ b'.grid.Fills g ∧
        (b'.givens = b.givens ∧
          ∀ row col, b.isGiven row col = true → b'.value? row col = b.value? row col) ∧
        (e.order = .natural → ∀ full : Grid, full.isSolution = true → full.Fills g →
          full = b'.grid ∨ b'.grid.Precedes full)) ∧
      (report.outcome.isSolved = false → b'.grid = g) := by
  obtain ⟨hg, _⟩ := ofGrid_eq_ok hb
  obtain ⟨report, e', ha, hsolve⟩ := solve_eq_ok hb he
  refine ⟨report, _, e', hsolve, ha.isSolved_iff.trans ⟨?_, ?_⟩, fun h => ?_, fun h => ?_⟩
  · rintro ⟨c, hc⟩
    exact ⟨_, Filling.isSolution hg hc, Filling.fills hc⟩
  · rintro ⟨full, hs, hf⟩
    exact ⟨full.slots, Filling.of_isSolution hs hf⟩
  · obtain ⟨found, ho⟩ := Outcome.isSolved_iff.mp h
    have hfound : Filling g.slots found := ha.solution found ho
    rw [ho]
    refine ⟨hfound.isSolution hg, hfound.fills, ⟨rfl, fun row col hgiven => ?_⟩,
      fun hn full hs hf => ?_⟩
    · exact value?_of_isGiven hb hfound rfl hgiven
    · have hlists : ∀ var memory, (e.order.arrange var (model.domain var) memory).1 = digits := by
        rw [hn]
        exact fun _ _ => rfl
      have hother := Filling.of_isSolution hs hf
      have hfirst := ha.first (fun _ => digits) hlists found ho full.slots hother
      rw [← Grid.ofAssignment_slots full]
      exact hfirst.imp (fun he => congrArg Grid.ofAssignment he) (hfound.precedes hg hother)
  · rw [Outcome.not_isSolved_iff.mp h]
    exact Grid.ofAssignment_slots g

/-- The classic puzzle is solved, since the grid that stands in for generated ones fills it. -/
theorem solve_ofGrid_classic :
    ∃ b, ofGrid .classic = .ok b ∧ (.natural : ValueOrder Unit Nat).Permutes model ∧
      ∃ report b' e', Puzzle.solve b ⟨.natural, ()⟩ = .ok (report, b', e') ∧
        report.outcome.isSolved = true ∧ b'.grid.isSolution = true ∧ b'.grid.Fills .classic ∧
        b'.givens = b.givens ∧ (Grid.fallback = b'.grid ∨ b'.grid.Precedes .fallback) := by
  have hb : ofGrid .classic = .ok ⟨Grid.classic.slots, Grid.classic.cells.map (· != 0), {}⟩ := by
    rw [ofGrid, Grid.toAssignment_eq_ok_iff.mpr ⟨by decide, rfl⟩]
    rfl
  have he := ValueOrder.natural_permutes (σ := Unit) model
  obtain ⟨report, b', e', hsolve, hiff, hsolved, _⟩ := solve_ofGrid (e := ⟨.natural, ()⟩) hb he
  have hr := hiff.mpr ⟨.fallback, Grid.isSolution_fallback, Grid.fills_fallback⟩
  obtain ⟨hfull, hfills, hgivens, hfirst⟩ := hsolved hr
  exact ⟨_, hb, he, report, b', e', hsolve, hr, hfull, hfills, hgivens.1,
    hfirst rfl .fallback Grid.isSolution_fallback Grid.fills_fallback⟩

end Board

end ConstraintSearch.Sudoku
