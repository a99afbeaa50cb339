import ConstraintSearch.Proofs.Sudoku.History

/-! Reports of other searches over the same rules, such as one that a puzzle handed out that has been
replaced since. A solution is displayed as it is, and so it takes the place of the givens. -/
namespace ConstraintSearch.Sudoku

namespace Grid
variable {f : Nat → Nat} {full g : Grid}

def renamed (f : Nat → Nat) (g : Grid) : Grid := ⟨g.cells.map f⟩

private theorem get_renamed (hf : f 0 = 0) (g : Grid) (cell : Nat) :
    (renamed f g).get cell = f (g.get cell) := by
  rw [get, get, renamed, Vector.getElem?_map]
  cases g.cells[cell]? with
  | none => exact hf.symm
  | some value => rfl

theorem isSolution_renamed (hf : f 0 = 0) (hd : (digits.map f).Perm digits)
    (hs : full.isSolution = true) : (renamed f full).isSolution = true := by
  rw [isSolution_iff_perm] at hs ⊢
  intro i hi unit hu
  have hget : unit.map (renamed f full).get = (unit.map full.get).map f := by
    rw [List.map_map]
    exact List.map_congr_left fun cell _ => get_renamed hf full cell
  rw [hget]
  exact ((hs i hi unit hu).map f).trans hd

private theorem fills_renamed (hf : f 0 = 0) (h : full.Fills g) :
    (renamed f full).Fills (renamed f g) := by
  intro cell hc hg
  rw [get_renamed hf] at hg ⊢
  rw [get_renamed hf, h cell hc fun h0 => hg (by rw [h0, hf])]

end Grid

namespace Board
variable {σ : Type} {origin b : Board} {g : Grid} {found cells : Assignment Nat}

theorem cellAt_rowOf_colOf (cell : Nat) : cellAt (rowOf cell) (colOf cell) = cell := by
  simp only [cellAt, rowOf, colOf]
  omega

theorem onGrid_rowOf_colOf {cell : Nat} (h : cell < cellCount) :
    onGrid (rowOf cell) (colOf cell) = true := by
  have hrow : rowOf cell < 9 := by simp only [rowOf, cellCount] at *; omega
  have hcol : colOf cell < 9 := by simp only [colOf]; omega
  simp [onGrid, hrow, hcol]

/-- With a solution displayed, resetting leaves what it has in the cells of the givens. -/
theorem Kept.reset_found (h : Kept origin b) (hs : found.size = cellCount) (stats : Stats) :
    ∃ cells, reset { b with cells := found, stats } = .ok { b with cells, stats := {} } ∧
      cells.size = cellCount ∧
      ∀ cell, cells.get? cell = if origin.isGivenCell cell then found.get? cell else none := by
  have hi := initial_eq_ok (b := { b with cells := found, stats }) (Nat.le_of_eq hs)
  refine ⟨onlyGivens { b with cells := found, stats }, ?_, (size_onlyGivens _).trans hs,
    fun cell => ?_⟩
  · rw [Board.reset, hi]
    rfl
  · rw [get?_onlyGivens, ← h.isGivenCell_eq]
    rfl

private theorem cells_eq_iff (hb : ofGrid g = .ok origin) (hs : cells.size = cellCount)
    (hget : ∀ cell, cells.get? cell = if origin.isGivenCell cell then found.get? cell else none) :
    cells = origin.cells ↔ ∀ row col, origin.isGiven row col = true →
      found.get? (cellAt row col) = origin.cells.get? (cellAt row col) := by
  constructor
  · rintro rfl row col hgiven
    rw [hget, if_pos (Bool.and_eq_true_iff.mp hgiven).2]
  · intro h
    refine Assignment.ext_get? (hs.trans (kept_ofGrid hb).size_eq.symm) fun cell hlt => ?_
    rw [hget]
    cases hc : origin.isGivenCell cell with
    | true =>
      have hgiven : origin.isGiven (rowOf cell) (colOf cell) = true := by
        rw [isGiven, onGrid_rowOf_colOf (hs ▸ hlt), cellAt_rowOf_colOf, hc, Bool.and_self]
      have hfound := h _ _ hgiven
      rwa [cellAt_rowOf_colOf] at hfound
    | false => exact (get?_of_not_isGivenCell hb hc).symm

/-- A report of any search over the rules can be applied, and the board can be reset afterwards. The
mask stays as it is. Without a solution the givens are displayed. A solution takes the place of all
cells, those of the givens too, and a reset takes its digits there for the givens: they are what they
were exactly if the solution has all of them, as it does when the search started from them. -/
theorem reset_apply_report {past : List Board} (hnew : origin.New)
    (h : Puzzle.History Edits origin past b) {e : Engine σ Nat} {givens : Assignment Nat}
    {report : Report Nat} (hr : e.Reports model givens report) :
    ∃ b' b'', b.apply report = .ok b' ∧ b'.reset = .ok b'' ∧
      b'.givens = origin.givens ∧ b''.givens = origin.givens ∧
      (report.outcome = .unsatisfiable → b'.cells = origin.cells ∧ b''.cells = origin.cells) ∧
      ∀ found, report.outcome = .solved found → b'.cells = found ∧
        (∀ cell, b''.cells.get? cell =
          if origin.isGivenCell cell then found.get? cell else none) ∧
        (b''.cells = origin.cells ↔
          ∀ row col, origin.isGiven row col = true → b'.value? row col = origin.value? row col) ∧
        ((∀ row col, origin.isGiven row col = true →
            givens.get? (cellAt row col) = origin.value? row col) → b''.cells = origin.cells) := by
  obtain ⟨g, hb⟩ := hnew.exists_grid
  have hk := Kept.of_history hb h
  have ha := hk.apply_eq hb report
  cases ho : report.outcome with
  | unsatisfiable =>
    rw [ho] at ha
    refine ⟨_, _, ha, (hk.of_givens hb report.stats).reset_eq hb, hk.givens_eq, hk.givens_eq,
      fun _ => ⟨rfl, rfl⟩, fun found hf => by cases hf⟩
  | solved found =>
    rw [ho] at ha
    obtain ⟨cells, hreset, hsize, hget⟩ := hk.reset_found (hr.size_eq ho) report.stats
    have hvalue : ∀ {row col}, origin.isGiven row col = true → ∀ b : Board,
        b.value? row col = b.cells.get? (cellAt row col) := by
      intro row col hgiven b
      rw [value?, if_pos (Bool.and_eq_true_iff.mp hgiven).1]
    have hiff := cells_eq_iff hb hsize hget
    refine ⟨_, _, ha, hreset, hk.givens_eq, hk.givens_eq, (fun hn => by cases hn), ?_⟩
    rintro _ ⟨⟩
    refine ⟨rfl, hget, hiff.trans ?_, fun hstart => hiff.mpr fun row col hgiven => ?_⟩
    · refine forall_congr' fun row => forall_congr' fun col => forall_congr' fun hgiven => ?_
      rw [hvalue hgiven, hvalue hgiven]
      rfl
    · have hshown := get?_of_isGivenCell hb (Bool.and_eq_true_iff.mp hgiven).2
      have hgivens := (hstart row col hgiven).trans (hvalue hgiven origin)
      exact (hr.keeps ho (hgivens.trans hshown)).trans hshown.symm

private theorem exists_reports_solved {full : Grid} (hs : full.isSolution = true)
    (hf : full.Fills g) : ∃ report found, Engine.Reports ⟨.natural, ()⟩ model g.slots report ∧
      report.outcome = .solved found ∧ Filling g.slots found := by
  obtain ⟨report, e', hsolve, ha⟩ := Engine.solve_answers (e := ⟨.natural, ()⟩)
    model_keepsApart.givenBy (ValueOrder.natural_permutes model) validate_model (Grid.size_slots g)
  obtain ⟨found, ho⟩ := Outcome.isSolved_iff.mp
    (ha.isSolved_iff.mpr ⟨full.slots, Filling.of_isSolution hs hf⟩)
  exact ⟨report, found, .of_solve hsolve, ho, ha.solution found ho⟩

/-- The classic puzzle takes over the solution of a search that started from its full grid, and a
reset brings the puzzle back. -/
theorem reset_apply_report_of_fallback : ∃ origin report, ofGrid .classic = .ok origin ∧
    origin.New ∧ Puzzle.History Edits origin [] origin ∧
    Engine.Reports ⟨.natural, ()⟩ model Grid.fallback.slots report ∧
    ∃ b' b'', origin.apply report = .ok b' ∧ b'.reset = .ok b'' ∧ b'.value? 0 2 = some 4 ∧
      b''.cells = origin.cells := by
  obtain ⟨origin, hb⟩ := exists_ofGrid_iff.mpr
    (by decide : ∀ cell < cellCount, Grid.classic.get cell ≤ 9)
  obtain ⟨report, found, hr, ho, hfound⟩ :=
    exists_reports_solved Grid.isSolution_fallback fun _ _ _ => rfl
  obtain ⟨b', b'', ha, hreset, _, _, _, hsolved⟩ :=
    reset_apply_report (New.ofGrid hb) .start hr
  obtain ⟨rfl, _, _, hkept⟩ := hsolved found ho
  refine ⟨origin, report, hb, .ofGrid hb, .start, hr, b', b'', ha, hreset, ?_, hkept ?_⟩
  · rw [value?, if_pos (show onGrid 0 2 = true from rfl), hfound.get?_eq (by decide),
      hfound.fills _ (by decide) (by decide)]
    rfl
  · intro row col hgiven
    obtain ⟨hgrid, hc⟩ := Bool.and_eq_true_iff.mp hgiven
    have hcell := cellAt_lt hgrid
    rw [isGivenCell_ofGrid hb, bne_iff_ne] at hc
    rw [value?_ofGrid hb hgrid, if_neg hc, ← Grid.fills_fallback _ hcell hc, Grid.get?_slots, if_neg]
    rw [Grid.fills_fallback _ hcell hc]
    exact hc

def exchanged : Nat → Nat
  | 3 => 5
  | 5 => 3
  | value => value

/-- A full grid is displayed, and the solution of another puzzle is applied to it. The five in its
first cell is a given, and becomes a three. Resetting does not bring it back. -/
theorem apply_overwrites_given : ∃ origin other report b' b'',
    ofGrid .fallback = .ok origin ∧ ofGrid (Grid.renamed exchanged .classic) = .ok other ∧
    Puzzle.Reports other ⟨.natural, ()⟩ report ∧ origin.apply report = .ok b' ∧
    b'.reset = .ok b'' ∧ origin.isGiven 0 0 = true ∧ origin.value? 0 0 = some 5 ∧
    b'.value? 0 0 = some 3 ∧ b''.value? 0 0 = some 3 := by
  obtain ⟨origin, hb⟩ := exists_ofGrid_iff.mpr
    (by decide : ∀ cell < cellCount, Grid.fallback.get cell ≤ 9)
  have hget : ∀ g cell, (Grid.renamed exchanged g).get cell = exchanged (g.get cell) :=
    Grid.get_renamed rfl
  obtain ⟨other, hother⟩ : ∃ other, ofGrid (Grid.renamed exchanged .classic) = .ok other := by
    refine exists_ofGrid_iff.mpr fun cell hc => ?_
    rw [hget]
    revert cell
    decide
  have hfull : (Grid.renamed exchanged .fallback).isSolution = true :=
    Grid.isSolution_renamed rfl (by decide) Grid.isSolution_fallback
  obtain ⟨report, found, hr, ho, hfound⟩ :=
    exists_reports_solved hfull (Grid.fills_renamed rfl Grid.fills_fallback)
  have hfirst : found.get? (cellAt 0 0) = some 3 := by
    have hthree : (Grid.renamed exchanged .classic).get (cellAt 0 0) = 3 := hget .classic 0
    rw [hfound.get?_eq (by decide), hfound.fills _ (by decide) (by simp [hthree]), hthree]
  have hk := kept_ofGrid hb
  have ha := hk.apply_eq hb report
  rw [ho] at ha
  obtain ⟨cells, hreset, _, hcells⟩ := hk.reset_found hfound.size_eq report.stats
  have hgiven : origin.isGiven 0 0 = true := by rw [isGiven_ofGrid hb rfl]; decide
  refine ⟨origin, other, report, _, _, hb, hother, ⟨_, initial_ofGrid hother, hr⟩, ha, hreset, hgiven,
    ?_, ?_, ?_⟩
  · rw [value?_ofGrid hb rfl]
    decide
  · exact (if_pos rfl).trans hfirst
  · rw [value?, if_pos (show onGrid 0 0 = true from rfl), hcells,
      if_pos (Bool.and_eq_true_iff.mp hgiven).2, hfirst]

end Board

end ConstraintSearch.Sudoku
