import ConstraintSearch.Proofs.Chance.Shuffle
import ConstraintSearch.Proofs.Sudoku.Solving
import ConstraintSearch.Sudoku.Generator

/-! Random full grids. Whatever is drawn the checker accepts them, and unless filling fails they have
the boxes on the diagonal that were drawn for them. -/
namespace ConstraintSearch.Sudoku
open Chance
variable {σ : Type} {g : Grid}

def Grid.write (g : Grid) (content : List (Nat × Nat)) : Grid :=
  ⟨content.foldl (fun cells entry => cells.setIfInBounds entry.1 entry.2) g.cells⟩

namespace Grid

private theorem get_empty (cell : Nat) : empty.get cell = 0 := by
  by_cases h : cell < 81 <;> simp [empty, get, h]

private theorem get_write_single_of_ne (g : Grid) {cell other : Nat} (h : other ≠ cell)
    (value : Nat) : (g.write [(cell, value)]).get other = g.get other := by
  change (g.cells.setIfInBounds cell value)[other]?.getD 0 = _
  rw [Vector.getElem?_setIfInBounds_ne (Ne.symm h)]
  rfl

private theorem get_write_of_forall_ne (g : Grid) {content : List (Nat × Nat)} {cell : Nat}
    (h : ∀ entry ∈ content, entry.1 ≠ cell) : (g.write content).get cell = g.get cell := by
  induction content generalizing g with
  | nil => rfl
  | cons entry content ih =>
    obtain ⟨hentry, hrest⟩ := List.forall_mem_cons.mp h
    exact (ih (g.write [entry]) hrest).trans (g.get_write_single_of_ne (Ne.symm hentry) entry.2)

private theorem map_get_write (g : Grid) {cells values : List Nat} (hn : cells.Nodup)
    (hc : ∀ cell ∈ cells, cell < cellCount) (hl : cells.length = values.length) :
    cells.map (g.write (cells.zip values)).get = values := by
  induction cells generalizing g values with
  | nil => exact (List.length_eq_zero_iff.mp hl.symm).symm
  | cons cell cells ih =>
    obtain ⟨hcell, hn⟩ := List.nodup_cons.mp hn
    obtain ⟨hlt, hc⟩ := List.forall_mem_cons.mp hc
    cases values with
    | nil => cases hl
    | cons value values =>
      have hfirst : (g.write [(cell, value)]).get cell = value := by
        change (g.cells.setIfInBounds cell value)[cell]?.getD 0 = value
        rw [Vector.getElem?_setIfInBounds_self_of_lt (show cell < 81 from hlt), Option.getD_some]
      have hkept : ∀ entry ∈ cells.zip values, entry.1 ≠ cell := by
        intro entry he heq
        exact hcell (heq ▸ (List.of_mem_zip he).1)
      rw [List.map_cons, List.zip_cons_cons]
      congr 1
      · exact ((g.write [(cell, value)]).get_write_of_forall_ne hkept).trans hfirst
      · exact ih (g.write [(cell, value)]) hn hc (Nat.succ.inj hl)

end Grid

def diagonalCells (band : Nat) : List Nat := boxCells (band * 3) (band * 3)

private theorem length_diagonalCells (band : Nat) : (diagonalCells band).length = 9 := by
  simp [diagonalCells, boxCells]

private theorem fillBox_eq (g : Grid) (band : Nat) (values : List Nat) :
    fillBox g band values = g.write ((diagonalCells band).zip values) := rfl

section
variable {band : Nat} {values : List Nat}

private theorem map_get_fillBox (g : Grid) (hb : band < 3) (hl : values.length = 9) :
    (diagonalCells band).map (fillBox g band values).get = values := by
  rw [fillBox_eq]
  refine g.map_get_write ?_ (fun cell hc => ((mem_boxCells hb hb).mp hc).1) ?_
  · exact List.nodup_range.map fun a b h => by simp only [cellAt] at h; omega
  · rw [length_diagonalCells, hl]

private theorem get_fillBox_of_notMem (g : Grid) {cell : Nat} (h : cell ∉ diagonalCells band) :
    (fillBox g band values).get cell = g.get cell := by
  rw [fillBox_eq]
  exact g.get_write_of_forall_ne fun entry he heq => h (heq ▸ (List.of_mem_zip he).1)

private theorem map_get_fillBox_of_ne (g : Grid) {other : Nat} (hb : band < 3) (ho : other < 3)
    (hne : other ≠ band) :
    (diagonalCells other).map (fillBox g band values).get = (diagonalCells other).map g.get := by
  refine List.map_congr_left fun cell hc => get_fillBox_of_notMem g fun hm => hne ?_
  rw [← ((mem_boxCells ho ho).mp hc).2.1, ((mem_boxCells hb hb).mp hm).2.1]

end

def diagonal (first second third : List Nat) : Grid :=
  fillBox (fillBox (fillBox .empty 0 first) 1 second) 2 third

/-- The three boxes of a grid on the main diagonal, row by row. -/
def Grid.diagonalContent (g : Grid) : List (List Nat) :=
  (List.range 3).map fun band => (diagonalCells band).map g.get

section
variable {first second third : List Nat}

private theorem diagonalContent_diagonal
    (hp : ∀ values ∈ [first, second, third], values.Perm digits) :
    (diagonal first second third).diagonalContent = [first, second, third] := by
  simp only [List.forall_mem_cons] at hp
  obtain ⟨h1, h2, h3, _⟩ := hp
  have hfirst : (diagonalCells 0).map (diagonal first second third).get = first := by
    rw [diagonal, map_get_fillBox_of_ne _ (by decide) (by decide) (by decide),
      map_get_fillBox_of_ne _ (by decide) (by decide) (by decide),
      map_get_fillBox _ (by decide) h1.length_eq]
  have hsecond : (diagonalCells 1).map (diagonal first second third).get = second := by
    rw [diagonal, map_get_fillBox_of_ne _ (by decide) (by decide) (by decide),
      map_get_fillBox _ (by decide) h2.length_eq]
  have hthird : (diagonalCells 2).map (diagonal first second third).get = third :=
    map_get_fillBox _ (by decide) h3.length_eq
  have h : (diagonal first second third).diagonalContent =
      [0, 1, 2].map fun band => (diagonalCells band).map (diagonal first second third).get := rfl
  rw [h, List.map_cons, List.map_cons, List.map_cons, List.map_nil, hfirst, hsecond, hthird]

private theorem get_diagonal_mem_digits (hp : ∀ values ∈ [first, second, third], values.Perm digits)
    {band cell : Nat} (hb : band < 3) (hc : cell ∈ diagonalCells band) :
    (diagonal first second third).get cell ∈ digits := by
  have hm : (diagonalCells band).map (diagonal first second third).get ∈
      (diagonal first second third).diagonalContent :=
    List.mem_map_of_mem (List.mem_range.mpr hb)
  rw [diagonalContent_diagonal hp] at hm
  exact (hp _ hm).mem_iff.mp (List.mem_map_of_mem hc)

private theorem get_diagonal_of_forall_notMem {cell : Nat}
    (h : ∀ band < 3, cell ∉ diagonalCells band) : (diagonal first second third).get cell = 0 := by
  rw [diagonal, get_fillBox_of_notMem _ (h 2 (by decide)),
    get_fillBox_of_notMem _ (h 1 (by decide)), get_fillBox_of_notMem _ (h 0 (by decide)),
    Grid.get_empty]

private theorem get_diagonal_le (hp : ∀ values ∈ [first, second, third], values.Perm digits) :
    ∀ cell < cellCount, (diagonal first second third).get cell ≤ 9 := by
  intro cell _
  by_cases h : ∃ band < 3, cell ∈ diagonalCells band
  · obtain ⟨band, hb, hc⟩ := h
    exact (mem_digits.mp (get_diagonal_mem_digits hp hb hc)).2
  · have hnot : ∀ band < 3, cell ∉ diagonalCells band := fun band hb hc => h ⟨band, hb, hc⟩
    rw [get_diagonal_of_forall_notMem hnot]
    exact Nat.zero_le 9

/-- A grid fills the three boxes when it has them on its diagonal. -/
theorem fills_diagonal_iff (hp : ∀ values ∈ [first, second, third], values.Perm digits)
    {full : Grid} :
    full.Fills (diagonal first second third) ↔ full.diagonalContent = [first, second, third] := by
  rw [← diagonalContent_diagonal hp, Grid.diagonalContent, Grid.diagonalContent]
  simp only [List.map_inj_left, List.mem_range]
  constructor
  · intro hf band hb cell hc
    have hdigit := get_diagonal_mem_digits hp hb hc
    exact hf cell ((mem_boxCells hb hb).mp hc).1 (Nat.ne_of_gt (mem_digits.mp hdigit).1)
  · intro h cell _ h0
    by_contra hne
    exact h0 (get_diagonal_of_forall_notMem fun band hb hc => hne (h band hb cell hc))

end

/-- An attempt to fill what the boxes leave open. -/
def attempt (e : Engine σ Nat) (boxes : Grid) : Except Failure (Report Nat) := do
  let givens ← boxes.toAssignment
  (e.solve model givens).map Prod.fst

private theorem diagonalBoxes_eq {generator g1 g2 g3 : Generator} {first second third : List Nat}
    (h1 : shuffle digits generator = (first, g1)) (h2 : shuffle digits g1 = (second, g2))
    (h3 : shuffle digits g2 = (third, g3)) :
    diagonalBoxes generator = (diagonal first second third, g3) := by
  rw [diagonalBoxes, show List.range 3 = [0, 1, 2] from rfl]
  simp only [List.foldl_cons, List.foldl_nil, h1, h2, h3, diagonal]

/-- A full grid comes from three arrangements of the digits and a seed, drawn in this order. -/
theorem fullGrid_eq {generator g1 g2 g3 : Generator} {first second third : List Nat}
    (h1 : shuffle digits generator = (first, g1)) (h2 : shuffle digits g1 = (second, g2))
    (h3 : shuffle digits g2 = (third, g3)) :
    (fullGrid generator).1 = gridOrFallback
      (attempt ⟨.shuffled, .ofSeed g3.next64.1⟩ (diagonal first second third)) := by
  unfold fullGrid attempt
  rw [diagonalBoxes_eq h1 h2 h3]
  dsimp only
  cases (diagonal first second third).toAssignment with
  | error failure => rfl
  | ok givens => rfl

private theorem attempt_answers {e : Engine σ Nat} (he : e.order.Permutes model)
    (hg : ∀ cell < cellCount, g.get cell ≤ 9) : ∃ report, attempt e g = .ok report ∧
      report.Answers model (model.pairs peers) e.order g.slots := by
  obtain ⟨report, e', hsolve, ha⟩ :=
    Engine.solve_answers model_keepsApart.givenBy he validate_model (Grid.size_slots g)
  refine ⟨report, ?_, ha⟩
  rw [attempt, Grid.toAssignment_eq_ok_iff.mpr ⟨hg, rfl⟩]
  change (e.solve model g.slots).map Prod.fst = _
  rw [hsolve]
  rfl

private theorem isSolution_gridOrFallback {o : ValueOrder σ Nat} {report : Report Nat}
    (hg : ∀ cell < cellCount, g.get cell ≤ 9)
    (ha : report.Answers model (model.pairs peers) o g.slots) :
    (gridOrFallback (.ok report)).isSolution = true ∧
      (report.outcome.isSolved = true → (gridOrFallback (.ok report)).Fills g) := by
  obtain ⟨outcome, stats⟩ := report
  cases outcome with
  | solved found =>
    have hfound : Filling g.slots found := ha.solution found rfl
    exact ⟨hfound.isSolution hg, fun _ => hfound.fills⟩
  | unsatisfiable => exact ⟨Grid.isSolution_fallback, fun h => nomatch h⟩

private theorem attempt_diagonal {e : Engine σ Nat} (he : e.order.Permutes model)
    {first second third : List Nat}
    (hp : ∀ values ∈ [first, second, third], values.Perm digits) :
    ∃ report, attempt e (diagonal first second third) = .ok report ∧
      (gridOrFallback (.ok report)).isSolution = true ∧
      (report.outcome.isSolved = true ↔
        ∃ full : Grid, full.isSolution = true ∧ full.diagonalContent = [first, second, third]) ∧
      (report.outcome.isSolved = true →
        (gridOrFallback (.ok report)).diagonalContent = [first, second, third]) := by
  have hg := get_diagonal_le hp
  obtain ⟨report, hattempt, ha⟩ := attempt_answers he hg
  obtain ⟨hsolution, hfills⟩ := isSolution_gridOrFallback hg ha
  refine ⟨report, hattempt, hsolution, ha.isSolved_iff.trans ⟨?_, ?_⟩,
    fun hs => (fills_diagonal_iff hp).mp (hfills hs)⟩
  · rintro ⟨b, hb⟩
    exact ⟨_, Filling.isSolution hg hb, (fills_diagonal_iff hp).mp (Filling.fills hb)⟩
  · rintro ⟨full, hs, hd⟩
    exact ⟨full.slots, Filling.of_isSolution hs ((fills_diagonal_iff hp).mpr hd)⟩

/-- Whatever the generator draws, the full grid passes the checker. The attempt to fill it never
fails, and finds a solution exactly if the boxes on the diagonal can be completed; then the grid has
these boxes, and else another grid stands in for it, as it would if the attempt failed. -/
theorem isSolution_fullGrid (generator : Generator) :
    let first := shuffle digits generator
    let second := shuffle digits first.2
    let third := shuffle digits second.2
    let boxes := [first.1, second.1, third.1]
    (fullGrid generator).1.isSolution = true ∧ (∀ values ∈ boxes, values.Perm digits) ∧
      (∃ report,
        attempt ⟨.shuffled, .ofSeed third.2.next64.1⟩ (diagonal first.1 second.1 third.1) =
          .ok report ∧
        (fullGrid generator).1 = gridOrFallback (.ok report) ∧
        (report.outcome.isSolved = true ↔
          ∃ full : Grid, full.isSolution = true ∧ full.diagonalContent = boxes) ∧
        (report.outcome.isSolved = true → (fullGrid generator).1.diagonalContent = boxes)) ∧
      (∀ stats, (gridOrFallback (.ok ⟨.unsatisfiable, stats⟩)).isSolution = true) ∧
      ∀ failure, (gridOrFallback (.error failure)).isSolution = true := by
  intro first second third boxes
  have hp : ∀ values ∈ boxes, values.Perm digits := by
    simp only [boxes, List.forall_mem_cons]
    exact ⟨shuffle_perm .., shuffle_perm .., shuffle_perm .., fun _ h => nomatch h⟩
  obtain ⟨report, hattempt, hsolution, hsolved, hboxes⟩ := attempt_diagonal
    (e := ⟨.shuffled, .ofSeed third.2.next64.1⟩) (ValueOrder.shuffled_permutes model) hp
  have hfull : (fullGrid generator).1 = gridOrFallback (.ok report) := by
    rw [← hattempt]
    exact fullGrid_eq (Prod.eta first).symm (Prod.eta second).symm (Prod.eta third).symm
  rw [hfull]
  exact ⟨hsolution, hp, ⟨report, hattempt, rfl, hsolved, hboxes⟩,
    fun _ => Grid.isSolution_fallback, fun _ => Grid.isSolution_fallback⟩

/-- The boxes of the grid that stands in for others can be drawn, and then the grid has them because
they can be completed. -/
theorem isSolution_fullGrid_of_fallback_boxes :
    let generator : Generator := ⟨Vector.replicate 8 0, 0,
      [3340530120, 3758096384, 0, 715827883, 0, 1073741824, 1431655766, 2147483648,
        1431655766, 536870912, 1840700270, 1431655766, 3435973837, 1073741824, 0, 0,
        3817748708, 3221225472, 0, 2863311531, 1717986919, 2147483648, 2863311531, 0]⟩
    (fullGrid generator).1.isSolution = true ∧
      (fullGrid generator).1.diagonalContent =
        [[5, 3, 4, 6, 7, 2, 1, 9, 8], [7, 6, 1, 8, 5, 3, 9, 2, 4], [2, 8, 4, 6, 3, 5, 1, 7, 9]] := by
  intro generator
  obtain ⟨hsolution, _, ⟨_, _, _, hsolved, hboxes⟩, _⟩ := isSolution_fullGrid generator
  have hdrawn : [(shuffle digits generator).1, (shuffle digits (shuffle digits generator).2).1,
      (shuffle digits (shuffle digits (shuffle digits generator).2).2).1] =
        Grid.fallback.diagonalContent := by decide +kernel
  have hcontent := hboxes (hsolved.mpr ⟨.fallback, Grid.isSolution_fallback, hdrawn.symm⟩)
  exact ⟨hsolution, hcontent.trans (hdrawn.trans (by decide +kernel))⟩

end ConstraintSearch.Sudoku
