import ConstraintSearch.Proofs.Sudoku.Solving
import ConstraintSearch.Sudoku.Generator

/-! Carving puzzles out of full grids. Whatever is cleared, the puzzle has a solution because the full
grid is one, although another may be found. -/
namespace ConstraintSearch.Sudoku
open Chance
variable {σ : Type}

/-- A chance that can be tossed for. What is not a number compares with nothing. -/
def Probability (chance : Binary64) : Prop :=
  Binary64.zero.le chance = true ∧ chance.le (.ofNat 1) = true

/-- Whether a cell is cleared, which the tosses for the cells before it come ahead of. -/
def isCleared (chance : Binary64) (generator : Generator) : Nat → Bool
  | 0 => (coin chance generator).1
  | cell + 1 => isCleared chance (coin chance generator).2 cell

theorem Settings.validate_eq_ok_iff {settings : Settings} :
    settings.validate = .ok () ↔ Probability settings.clearChance := by
  rw [validate, Probability, ← Bool.and_eq_true]
  split
  · rename_i h
    exact ⟨fun _ => h, fun _ => rfl⟩
  · rename_i h
    exact ⟨fun he => (nomatch he), fun he => absurd he h⟩

private theorem getElem?_clearCells (chance : Binary64) (values : List Nat) (generator : Generator)
    (cell : Nat) : (clearCells chance values generator).1[cell]? =
      values[cell]?.map fun value => if isCleared chance generator cell then 0 else value := by
  induction values generalizing generator cell with
  | nil => rfl
  | cons value rest ih =>
    cases cell with
    | zero => rfl
    | succ cell =>
      rw [clearCells, List.getElem?_cons_succ, List.getElem?_cons_succ, ih]
      rfl

theorem get_clear (g : Grid) (chance : Binary64) (generator : Generator) (cell : Nat) :
    (clear g chance generator).1.get cell =
      if isCleared chance generator cell then 0 else g.get cell := by
  have hcells : (clear g chance generator).1.cells[cell]? =
      g.cells[cell]?.map fun value => if isCleared chance generator cell then 0 else value := by
    rw [← Vector.getElem?_toArray, ← Vector.getElem?_toList, ← getElem?_clearCells]
    exact (List.getElem?_toArray ..)
  rw [Grid.get, Grid.get, hcells]
  cases g.cells[cell]? <;> simp

theorem Board.exists_ofGrid_iff {g : Grid} :
    (∃ b, ofGrid g = .ok b) ↔ ∀ cell < cellCount, g.get cell ≤ 9 := by
  constructor
  · rintro ⟨b, hb⟩
    exact (ofGrid_eq_ok hb).1
  · intro h
    rw [ofGrid, Grid.toAssignment_eq_ok_iff.mpr ⟨h, rfl⟩]
    exact ⟨_, rfl⟩

section
variable {full : Grid} {chance : Binary64} {generator : Generator}

theorem carve_of_probability (h : Probability chance) :
    (carve full chance generator).1 = Board.ofGrid (clear full chance generator).1 := by
  have hv : Settings.validate ⟨chance⟩ = .ok () := Settings.validate_eq_ok_iff.mpr h
  unfold carve
  rw [hv]
  rfl

theorem carve_of_not_probability (h : ¬ Probability chance) :
    ∃ failure, (carve full chance generator).1 = .error failure := by
  unfold carve
  cases hv : Settings.validate ⟨chance⟩ with
  | error failure => exact ⟨failure, rfl⟩
  | ok u => exact absurd (Settings.validate_eq_ok_iff.mp hv) h

/-- Carving fails without a probability, and when more than a digit is left in a cell. -/
theorem carve_eq_error_iff : (∃ failure, (carve full chance generator).1 = .error failure) ↔
    ¬ Probability chance ∨
      ∃ cell < cellCount, isCleared chance generator cell = false ∧ 9 < full.get cell := by
  by_cases hp : Probability chance
  · have hle : (∃ b, (carve full chance generator).1 = .ok b) ↔
        ∀ cell < cellCount, isCleared chance generator cell = false → full.get cell ≤ 9 := by
      rw [carve_of_probability hp, Board.exists_ofGrid_iff]
      refine forall_congr' fun cell => imp_congr_right fun _ => ?_
      rw [get_clear]
      cases isCleared chance generator cell <;> simp
    have hnot : (∃ failure, (carve full chance generator).1 = .error failure) ↔
        ¬ ∃ b, (carve full chance generator).1 = .ok b := by
      cases (carve full chance generator).1 <;> simp
    rw [hnot, hle, not_forall, or_iff_right (not_not_intro hp)]
    simp only [not_forall, Nat.not_le, exists_prop]
  · exact iff_of_true (carve_of_not_probability hp) (.inl hp)

private theorem fills_clear (full : Grid) (chance : Binary64) (generator : Generator) :
    full.Fills (clear full chance generator).1 := by
  intro cell _ h0
  rw [get_clear] at h0 ⊢
  split at h0
  · exact absurd rfl h0
  · rename_i hc
    rw [if_neg hc]

end

/-- A cell of a new board shows what its grid holds and is a given unless it is empty. -/
theorem Board.isGiven_ofGrid {g : Grid} {b : Board} (hb : ofGrid g = .ok b) {row col : Nat}
    (h : onGrid row col = true) : b.isGiven row col = (g.get (cellAt row col) != 0) := by
  rw [isGiven, h, Bool.true_and, isGivenCell_ofGrid hb]

theorem Board.value?_ofGrid {g : Grid} {b : Board} (hb : ofGrid g = .ok b) {row col : Nat}
    (h : onGrid row col = true) : b.value? row col =
      if g.get (cellAt row col) = 0 then none else some (g.get (cellAt row col)) := by
  rw [value?, if_pos h, cells_ofGrid hb, Grid.get?_slots]

section
variable {full : Grid} {chance : Binary64} {generator : Generator}

private theorem exists_ofGrid_clear (hs : full.isSolution = true) :
    ∃ b, Board.ofGrid (clear full chance generator).1 = .ok b := by
  refine Board.exists_ofGrid_iff.mpr fun cell hc => ?_
  rw [get_clear]
  split
  · exact Nat.zero_le 9
  · exact (mem_digits.mp (((Grid.isSolution_iff full).mp hs).1 cell hc)).2

private theorem cell_of_clear (hs : full.isSolution = true) {b : Board}
    (hb : Board.ofGrid (clear full chance generator).1 = .ok b) {row col : Nat}
    (h : Board.onGrid row col = true) :
    (isCleared chance generator (cellAt row col) = true →
      b.isGiven row col = false ∧ b.value? row col = none) ∧
    (isCleared chance generator (cellAt row col) = false →
      b.isGiven row col = true ∧ b.value? row col = some (full.get (cellAt row col))) := by
  have hdigit := ((Grid.isSolution_iff full).mp hs).1 _ (Board.cellAt_lt h)
  have h0 : full.get (cellAt row col) ≠ 0 := Nat.ne_of_gt (mem_digits.mp hdigit).1
  rw [Board.isGiven_ofGrid hb h, Board.value?_ofGrid hb h, get_clear]
  cases isCleared chance generator (cellAt row col) <;> simp [h0]

end

/-- Carving fails exactly without a probability and for a grid that keeps a cell with more than a
digit. Out of a grid that passes the checker comes a puzzle that has the cells that were not cleared
as givens. Solving it always finds a full grid that passes the checker and keeps the givens. -/
theorem carve_solves (full : Grid) (chance : Binary64) (generator : Generator) :
    ((∃ failure, (carve full chance generator).1 = .error failure) ↔
      ¬ Probability chance ∨
        ∃ cell < cellCount, isCleared chance generator cell = false ∧ 9 < full.get cell) ∧
    (full.isSolution = true → Probability chance →
      ∃ b, (carve full chance generator).1 = .ok b ∧
        (∀ row col, Board.onGrid row col = true →
          (isCleared chance generator (cellAt row col) = true →
            b.isGiven row col = false ∧ b.value? row col = none) ∧
          (isCleared chance generator (cellAt row col) = false →
            b.isGiven row col = true ∧ b.value? row col = some (full.get (cellAt row col)))) ∧
        ∀ {σ : Type} (e : Engine σ Nat), e.order.Permutes model →
          ∃ report b' e', Puzzle.solve b e = .ok (report, b', e') ∧
            report.outcome.isSolved = true ∧ b'.grid.isSolution = true ∧ b'.givens = b.givens ∧
            ∀ row col, b.isGiven row col = true →
              b'.value? row col = some (full.get (cellAt row col))) := by
  refine ⟨carve_eq_error_iff, fun hs hp => ?_⟩
  obtain ⟨b, hb⟩ := exists_ofGrid_clear hs
  refine ⟨b, (carve_of_probability hp).trans hb, fun row col => cell_of_clear hs hb, fun e he => ?_⟩
  obtain ⟨report, e', ha, hsolve⟩ := Board.solve_eq_ok hb he
  have hr : report.outcome.isSolved = true :=
    ha.isSolved_iff.mpr ⟨full.slots, Filling.of_isSolution hs (fills_clear full chance generator)⟩
  obtain ⟨found, ho⟩ := Outcome.isSolved_iff.mp hr
  have hfound : Filling (clear full chance generator).1.slots found := ha.solution found ho
  refine ⟨report, _, e', hsolve, hr, ?_, rfl, fun row col hgiven => ?_⟩
  · rw [ho]
    exact hfound.isSolution (Board.exists_ofGrid_iff.mp ⟨b, hb⟩)
  · rw [ho, Board.value?_of_isGiven hb hfound rfl hgiven]
    obtain ⟨hcleared, hkept⟩ := cell_of_clear hs hb (Bool.and_eq_true_iff.mp hgiven).1
    cases hc : isCleared chance generator (cellAt row col) with
    | true =>
      rw [(hcleared hc).1] at hgiven
      cases hgiven
    | false => exact (hkept hc).2

/-- With a chance of one half every other cell is cleared, beginning with the second. Too large a
number is found in the first cell and not in the second. -/
theorem carve_solves_every_other_cell :
    let half : Binary64 := .ofDecimal false 5 (-1)
    let generator : Generator := ⟨Vector.replicate 8 0, 0,
      (List.range 162).map fun place => if place % 4 = 1 then 4294967295 else 0⟩
    let large (cell : Nat) : Grid := ⟨Grid.fallback.cells.setIfInBounds cell 10⟩
    (∃ failure, (carve (large 0) half generator).1 = .error failure) ∧
      (∃ b, (carve (large 1) half generator).1 = .ok b) ∧
      Grid.fallback.isSolution = true ∧ Probability half ∧
      ∃ b, (carve .fallback half generator).1 = .ok b ∧ b.isGiven 0 0 = true ∧
        b.value? 0 1 = none ∧ ∃ report b' e', Puzzle.solve b ⟨.natural, ()⟩ = .ok (report, b', e') ∧
          report.outcome.isSolved = true ∧ b'.grid.isSolution = true ∧ b'.value? 0 0 = some 5 := by
  intro half generator large
  have hp : Probability half := by
    unfold Probability
    decide +kernel
  have hfirst : isCleared half generator (cellAt 0 0) = false := by decide +kernel
  have hsecond : isCleared half generator (cellAt 0 1) = true := by decide +kernel
  obtain ⟨hlarge, _⟩ := carve_solves (large 0) half generator
  obtain ⟨hsmall, _⟩ := carve_solves (large 1) half generator
  obtain ⟨_, hsolves⟩ := carve_solves .fallback half generator
  obtain ⟨b, hb, hcells, hsolve⟩ := hsolves Grid.isSolution_fallback hp
  have hgiven := (hcells 0 0 rfl).2 hfirst
  have hopen := (hcells 0 1 rfl).1 hsecond
  obtain ⟨report, b', e', hs, hr, hsolution, _, hkept⟩ :=
    hsolve ⟨.natural, ()⟩ (ValueOrder.natural_permutes model)
  refine ⟨hlarge.mpr (.inr ⟨0, by decide, hfirst, by decide⟩), ?_, Grid.isSolution_fallback, hp, b,
    hb, hgiven.1, hopen.2, report, b', e', hs, hr, hsolution, hkept 0 0 hgiven.1⟩
  have hfits : ∀ cell < cellCount, isCleared half generator cell = false →
      ¬ 9 < (large 1).get cell := by decide +kernel
  cases hc : (carve (large 1) half generator).1 with
  | error failure =>
    rcases hsmall.mp ⟨failure, hc⟩ with hn | ⟨cell, hlt, hkeep, h9⟩
    · exact absurd hp hn
    · exact absurd h9 (hfits cell hlt hkeep)
  | ok b => exact ⟨b, rfl⟩

end ConstraintSearch.Sudoku
