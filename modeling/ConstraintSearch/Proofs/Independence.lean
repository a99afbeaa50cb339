import ConstraintSearch.Proofs.Colouring.History
import ConstraintSearch.Proofs.Search.Solutions
import ConstraintSearch.Proofs.Sudoku.History
import ConstraintSearch.Queens.Board

/-! Searches do not depend on the past of a puzzle. A map clears its colours in place, a grid masks
what it displays, a board is laid out anew; all three come to the same. -/
namespace ConstraintSearch
open Puzzle

namespace Sudoku.Board
variable {origin b : Board} {g : Grid}

private theorem untouched_ofGrid (hb : ofGrid g = .ok origin) : Untouched origin where
  initial_eq := (kept_ofGrid hb).initial_eq hb
  stats_eq := by
    obtain ⟨_, rfl⟩ := ofGrid_eq_ok hb
    rfl
  reset_eq := by
    refine ((kept_ofGrid hb).reset_eq hb).trans ?_
    obtain ⟨_, rfl⟩ := ofGrid_eq_ok hb
    rfl

private theorem Kept.actsAs (hb : ofGrid g = .ok origin) (h : Kept origin b) : ActsAs origin b where
  model_eq := rfl
  initial_eq := (h.initial_eq hb).trans ((kept_ofGrid hb).initial_eq hb).symm
  apply_eq report := by
    change b.apply report = origin.apply report
    rw [h.apply_eq hb, (kept_ofGrid hb).apply_eq hb, h.givens_eq]
  reset_eq := by
    change b.reset = origin.reset
    rw [h.reset_eq hb, (kept_ofGrid hb).reset_eq hb, h.givens_eq]

end Sudoku.Board

namespace Queens.Board
variable {origin b : Board} {past : List Board} {n : Nat}

/-- The board is as large as the first one, and every column has a place for its queen. -/
structure Kept (origin b : Board) : Prop where
  size_eq : b.size = origin.size
  queens_eq : b.queens.size = origin.size

private theorem ofSize_eq_ok (h : ofSize n = .ok origin) : origin = ⟨n, .blank n, {}⟩ := by
  rw [ofSize] at h
  split at h
  · exact (Except.ok.inj h).symm
  · cases h

private theorem untouched_ofSize (h : ofSize n = .ok origin) : Untouched origin := by
  obtain rfl := ofSize_eq_ok h
  refine ⟨rfl, rfl, ?_⟩
  change Except.ok (reset _) = _
  rw [reset, Assignment.clear, Assignment.size_blank]

private theorem kept_ofSize (h : ofSize n = .ok origin) : Kept origin origin := by
  obtain rfl := ofSize_eq_ok h
  exact ⟨rfl, Assignment.size_blank n⟩

private theorem Kept.actsAs (h : Kept origin b) (horigin : Kept origin origin) :
    ActsAs origin b where
  model_eq := congrArg model h.size_eq
  initial_eq := congrArg (fun n => Except.ok (Assignment.blank n)) h.size_eq
  apply_eq report := by
    change Except.ok (b.apply report) = Except.ok (origin.apply report)
    rw [Board.apply, Board.apply, h.size_eq]
  reset_eq := by
    change Except.ok b.reset = Except.ok origin.reset
    rw [Board.reset, Board.reset, Assignment.clear, Assignment.clear, h.queens_eq,
      horigin.queens_eq, h.size_eq]

private theorem Kept.apply {σ : Type} {e : Engine σ Nat} {earlier : Board} {report : Report Nat}
    (h : Kept origin b) (hearlier : Kept origin earlier) (hr : Reports earlier e report) :
    Kept origin (b.apply report) := by
  have hfits := hr.fits rfl
  rw [Assignment.size_blank, hearlier.size_eq, ← h.size_eq] at hfits
  exact ⟨h.size_eq, (Report.size_shown_eq_iff.mpr hfits).trans h.size_eq⟩

theorem Kept.of_history (horigin : Kept origin origin) (h : History Unedited origin past b) :
    Kept origin b := by
  refine h.invariant (I := Kept origin) horigin (fun _ _ _ he => he.elim) ?_ ?_ b List.mem_cons_self
  · intro σ p p' earlier e report hp hearlier _ hr ha
    cases ha
    exact hp.apply hearlier hr
  · intro p p' hp hr
    cases hr
    exact ⟨hp.size_eq, (Assignment.size_blank _).trans hp.queens_eq⟩

end Queens.Board

/-- Whatever is done with a map, a grid or a board and in whatever order, its structure is as it was
when it was new, and it acts as it did then: searches start from the same assignment, are refused for
the same reason or end alike, and resetting gives the new one back. -/
theorem Puzzle.history_is_forgotten :
    (∀ {origin m : Colouring.Map} {past : List Colouring.Map}, origin.New →
      History Unedited origin past m →
        (m.regions = origin.regions ∧ m.adjacency = origin.adjacency ∧
          m.paletteSize = origin.paletteSize) ∧ Forgets origin m) ∧
    (∀ {origin b : Sudoku.Board} {past : List Sudoku.Board}, origin.New →
      History Sudoku.Board.Edits origin past b → b.givens = origin.givens ∧ Forgets origin b) ∧
    ∀ {n : Nat} {origin b : Queens.Board} {past : List Queens.Board},
      Queens.Board.ofSize n = .ok origin → History Unedited origin past b →
        b.size = n ∧ Forgets origin b := by
  refine ⟨fun hnew h => ?_, fun hnew h => ?_, fun hnew h => ?_⟩
  · have hfirst := hnew.clear.kept
    have hk := Colouring.Map.Kept.of_history hfirst h
    refine ⟨⟨hk.regions_eq, hk.adjacency_eq, hk.paletteSize_eq⟩,
      h.forgets hnew.clear.untouched fun h => ?_⟩
    exact (Colouring.Map.Kept.of_history hfirst h).actsAs hfirst
  · obtain ⟨g, hb⟩ := hnew.exists_grid
    refine ⟨(Sudoku.Board.Kept.of_history hb h).givens_eq,
      h.forgets (Sudoku.Board.untouched_ofGrid hb) fun h => ?_⟩
    exact (Sudoku.Board.Kept.of_history hb h).actsAs hb
  · have hfirst := Queens.Board.kept_ofSize hnew
    have hsize := congrArg Queens.Board.size (Queens.Board.ofSize_eq_ok hnew)
    refine ⟨(Queens.Board.Kept.of_history hfirst h).size_eq.trans hsize,
      h.forgets (Queens.Board.untouched_ofSize hnew) fun h => ?_⟩
    exact (Queens.Board.Kept.of_history hfirst h).actsAs hfirst

/-- A triangle that has been coloured, and stays so when it is solved again, the classic grid with an
edited cell, and a board of four rows that shows again, after a reset, what a search in falling order
found. -/
theorem Puzzle.history_is_forgotten_of_three :
    (∃ origin past m report, Colouring.Map.ofEdges 3 [(0, 1), (1, 2), (0, 2)] = .ok origin ∧
      History Unedited origin past m ∧ m.isProper = true ∧ Forgets origin m ∧
      Puzzle.solve m (⟨.natural, ()⟩ : Engine Unit _) = .ok (report, m, ⟨.natural, ()⟩)) ∧
    (∃ origin past b, Sudoku.Board.ofGrid .classic = .ok origin ∧
      History Sudoku.Board.Edits origin past b ∧ b.value? 0 2 = some 1 ∧ Forgets origin b) ∧
    ∃ origin past b, Queens.Board.ofSize 4 = .ok origin ∧ History Unedited origin past b ∧
      past.length = 3 ∧ b.rows? = some [2, 0, 3, 1] ∧ Forgets origin b := by
  obtain ⟨hmap, hgrid, hboard⟩ := history_is_forgotten
  refine ⟨?_, ?_, ?_⟩
  · let triangle : Colouring.Map :=
      .blank ((List.range 3).map fun id => ⟨id, .ofNat id, .zero, .zero⟩) #[[1, 2], [0, 2], [0, 1]]
    have hnew : Colouring.Map.ofEdges 3 [(0, 1), (1, 2), (0, 2)] = .ok triangle := rfl
    have hsolve := Puzzle.solve_eq_ok (p := triangle) (e := ⟨.natural, ()⟩) rfl
      (Engine.solve_eq rfl rfl) rfl
    have horder := ValueOrder.natural_permutes (σ := Unit) (model triangle)
    have h : History Unedited triangle _ _ := History.start.solve horder hsolve
    obtain ⟨_, hfirst⟩ := hmap (.ofEdges hnew) .start
    obtain ⟨_, hagain⟩ := hfirst.again horder ValueOrder.natural_keepsMemory hsolve
    refine ⟨triangle, _, _, _, hnew, h, ?_, (hmap (.ofEdges hnew) h).2, hagain⟩
    decide +kernel
  · obtain ⟨origin, hb⟩ := Sudoku.Board.exists_ofGrid_iff.mpr
      (by decide : ∀ cell < Sudoku.cellCount, Sudoku.Grid.classic.get cell ≤ 9)
    have hopen : origin.isGiven 0 2 = false := by
      rw [Sudoku.Board.isGiven_ofGrid hb rfl]
      decide
    obtain ⟨⟨content, b⟩, he⟩ := (Sudoku.Board.kept_ofGrid hb).exists_edit rfl hopen
    have h : History Sudoku.Board.Edits origin _ b :=
      History.start.edit ⟨0, 2, .inl ⟨content, he⟩⟩
    refine ⟨origin, _, b, hb, h, ?_, (hgrid (.ofGrid hb) h).2⟩
    obtain ⟨hon, hgiven, hnext, _, _, _, hget⟩ := Sudoku.Board.edit_eq_ok he
    rw [Sudoku.Board.isGiven, hon, Bool.true_and] at hgiven
    rw [Sudoku.Board.get?_of_not_isGivenCell hb hgiven] at hnext
    cases hnext
    rw [Sudoku.Board.value?, if_pos hon, hget, if_pos rfl]
    rfl
  · let empty : Queens.Board := ⟨4, .blank 4, {}⟩
    have hnew : Queens.Board.ofSize 4 = .ok empty := rfl
    have horder := ValueOrder.reversed_permutes (σ := Unit) (Queens.model 4)
    have hsolve := Puzzle.solve_eq_ok (p := empty) (e := ⟨.reversed, ()⟩) rfl
      (Engine.solve_eq rfl rfl) rfl
    have hreport := (reports_of_solve hsolve).1
    have h : History Unedited empty _ _ := ((History.start.solve horder hsolve).reset rfl).apply
      (List.mem_cons_of_mem _ (List.mem_cons_of_mem _ List.mem_cons_self)) horder hreport rfl
    refine ⟨empty, _, _, hnew, h, rfl, ?_, (hboard hnew h).2⟩
    decide

end ConstraintSearch
