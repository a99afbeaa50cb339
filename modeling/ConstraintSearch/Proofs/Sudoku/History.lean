import ConstraintSearch.Proofs.Chance.Shuffle
import ConstraintSearch.Proofs.History
import ConstraintSearch.Proofs.InPlace
import ConstraintSearch.Proofs.Sudoku.Carving

/-! Boards that are edited, solved and reset. The givens are not stored, but read off the displayed
cells that the mask marks; still no edit and no report of a search of the same board loses them. -/
namespace ConstraintSearch.Sudoku.Board
open Chance
variable {origin b b' : Board}

/-- Boards that have not been touched yet. -/
inductive New : Board → Prop
  | ofGrid {g : Grid} {b : Board} (h : ofGrid g = .ok b) : New b
  | carve {full : Grid} {chance : Binary64} {generator : Generator} {b : Board}
      (h : (carve full chance generator).1 = .ok b) : New b
  | generate {settings : Settings} {generator : Generator} {b : Board}
      (h : (generate settings generator).1 = .ok b) : New b

/-- Some cell is edited, or the edit is refused and changes nothing. -/
def Edits (b b' : Board) : Prop :=
  ∃ row col, (∃ content, b.edit row col = .ok (content, b')) ∨
    (∃ failure, b.edit row col = .error failure) ∧ b' = b

private theorem exists_grid_of_carve {full : Grid} {chance : Binary64} {generator : Generator}
    (h : (Sudoku.carve full chance generator).1 = .ok b) : ∃ g, Board.ofGrid g = .ok b := by
  by_cases hp : Probability chance
  · exact ⟨_, (carve_of_probability hp).symm.trans h⟩
  · obtain ⟨failure, hf⟩ := carve_of_not_probability hp
    rw [hf] at h
    cases h

theorem New.exists_grid (h : b.New) : ∃ g, Board.ofGrid g = .ok b := by
  cases h with
  | ofGrid h => exact ⟨_, h⟩
  | carve h => exact exists_grid_of_carve h
  | @generate settings generator _ h =>
    unfold Sudoku.generate at h
    rw [InPlace.bind_of_ok (Draw.sure_eq ..)] at h
    exact exists_grid_of_carve h

theorem nextContent_eq {slot : Option Nat} (h : ∀ value ∈ slot, value ∈ digits) :
    nextContent slot = .ok ((slot.getD 0 + 1) % 10) := by
  have hdigit : ∀ value ∈ digits, nextContent (some value) = .ok ((value + 1) % 10) := by decide
  cases slot with
  | none => rfl
  | some value => exact hdigit value (h value rfl)

/-- An edit that goes through is one of a cell on the grid that is no given. It changes this cell. -/
theorem edit_eq_ok {row col content : Nat} (h : b.edit row col = .ok (content, b')) :
    onGrid row col = true ∧ b.isGiven row col = false ∧
      nextContent (b.cells.get? (cellAt row col)) = .ok content ∧
      b'.givens = b.givens ∧ b'.stats = b.stats ∧ b'.cells.size = b.cells.size ∧
      ∀ cell, b'.cells.get? cell = if cell = cellAt row col then
        if content = 0 then none else some content else b.cells.get? cell := by
  unfold edit at h
  split at h
  · cases h
  · rename_i hgrid
    split at h
    · cases h
    · rename_i hgiven
      rw [Bool.not_eq_true', Bool.not_eq_false] at hgrid
      rw [Bool.not_eq_true] at hgiven
      obtain ⟨next, hnext, h⟩ := Failure.bind_eq_ok h
      obtain ⟨_, hexchange, h⟩ := Failure.bind_eq_ok h
      cases h
      obtain ⟨_, hsize, hget⟩ := Assignment.exchange_eq_ok hexchange
      exact ⟨hgrid, hgiven, hnext, rfl, rfl, hsize, hget⟩

/-- What holds of a board at all times. All slots are there and hold digits only, and the givens of
the first board are shown where they were. -/
structure Kept (origin b : Board) : Prop where
  givens_eq : b.givens = origin.givens
  size_eq : b.cells.size = cellCount
  shown : ∀ cell, origin.isGivenCell cell = true → b.cells.get? cell = origin.cells.get? cell
  isDigit : ∀ cell value, b.cells.get? cell = some value → value ∈ digits

theorem Kept.isGivenCell_eq (h : Kept origin b) (cell : Nat) :
    b.isGivenCell cell = origin.isGivenCell cell := by
  rw [isGivenCell, isGivenCell, h.givens_eq]

/-- An edit writes digits, and never over a given. -/
theorem Kept.edits (h : Kept origin b) (he : b.Edits b') : Kept origin b' := by
  obtain ⟨row, col, ⟨content, he⟩ | ⟨_, rfl⟩⟩ := he
  · obtain ⟨hgrid, hgiven, hnext, hgivens, _, hsize, hget⟩ := edit_eq_ok he
    rw [nextContent_eq (h.isDigit (cellAt row col))] at hnext
    have hcontent : content ≤ 9 := by
      cases hnext
      omega
    refine ⟨hgivens.trans h.givens_eq, hsize.trans h.size_eq, fun cell hc => ?_,
      fun cell value hv => ?_⟩
    · have hne : cell ≠ cellAt row col := by
        rintro rfl
        rw [isGiven, hgrid, Bool.true_and, h.isGivenCell_eq, hc] at hgiven
        cases hgiven
      rw [hget, if_neg hne, h.shown cell hc]
    · rw [hget] at hv
      split at hv
      · split at hv
        · cases hv
        · rename_i h0
          cases hv
          exact mem_digits.mpr ⟨Nat.pos_of_ne_zero h0, hcontent⟩
      · exact h.isDigit cell value hv
  · exact h

section
variable {g : Grid}

/-- The cells of a new board are its givens. -/
theorem get?_of_not_isGivenCell (hb : ofGrid g = .ok origin) {cell : Nat}
    (hc : origin.isGivenCell cell = false) : origin.cells.get? cell = none := by
  rw [isGivenCell_ofGrid hb, bne_eq_false_iff_eq] at hc
  rw [cells_ofGrid hb, Grid.get?_slots, if_pos hc]

theorem get?_of_isGivenCell (hb : ofGrid g = .ok origin) {cell : Nat}
    (hc : origin.isGivenCell cell = true) : origin.cells.get? cell = some (g.get cell) := by
  rw [isGivenCell_ofGrid hb, bne_iff_ne] at hc
  rw [cells_ofGrid hb, Grid.get?_slots, if_neg hc]

theorem kept_ofGrid (hb : ofGrid g = .ok origin) : Kept origin origin := by
  have hcells := cells_ofGrid hb
  refine ⟨rfl, hcells ▸ Grid.size_slots g, fun _ _ => rfl, fun cell value hv => ?_⟩
  have hlt : cell < cellCount := by
    have hlt := Assignment.lt_size_of_get? hv
    rwa [hcells, Grid.size_slots] at hlt
  rw [hcells, Grid.get?_slots] at hv
  split at hv
  · cases hv
  · rename_i h0
    cases hv
    exact mem_digits.mpr ⟨Nat.pos_of_ne_zero h0, (ofGrid_eq_ok hb).1 cell hlt⟩

namespace Kept

theorem initial_eq (hb : ofGrid g = .ok origin) (h : Kept origin b) :
    b.initial = .ok origin.cells := by
  have hsize := (kept_ofGrid hb).size_eq
  rw [initial_eq_ok (Nat.le_of_eq h.size_eq)]
  refine congrArg Except.ok (Assignment.ext_get? ?_ fun cell _ => ?_)
  · rw [size_onlyGivens, h.size_eq, hsize]
  · rw [get?_onlyGivens, h.isGivenCell_eq]
    cases hc : origin.isGivenCell cell with
    | true => exact h.shown cell hc
    | false => exact (get?_of_not_isGivenCell hb hc).symm

theorem of_givens (hb : ofGrid g = .ok origin) (h : Kept origin b) (stats : Stats) :
    Kept origin { b with cells := origin.cells, stats } :=
  ⟨h.givens_eq, (kept_ofGrid hb).size_eq, fun _ _ => rfl, (kept_ofGrid hb).isDigit⟩

theorem reset_eq (hb : ofGrid g = .ok origin) (h : Kept origin b) :
    b.reset = .ok { b with cells := origin.cells, stats := {} } := by
  rw [Board.reset, h.initial_eq hb]
  rfl

theorem apply_eq (hb : ofGrid g = .ok origin) (h : Kept origin b) (report : Report Nat) :
    b.apply report = .ok { b with
      cells := report.outcome.solution?.getD origin.cells, stats := report.stats } := by
  obtain ⟨outcome, stats⟩ := report
  cases outcome with
  | solved found => rfl
  | unsatisfiable =>
    rw [Board.apply, h.initial_eq hb]
    rfl

private theorem of_reports {σ : Type} {e : Engine σ Nat} {report : Report Nat}
    {found : Assignment Nat} (hb : ofGrid g = .ok origin) (h : Kept origin b)
    (ho : e.order.Permutes model) (hr : e.Reports model origin.cells report)
    (hf : report.outcome = .solved found) (stats : Stats) :
    Kept origin { b with cells := found, stats } := by
  have horigin := kept_ofGrid hb
  refine ⟨h.givens_eq, hr.size_eq hf, fun cell hc => ?_, fun cell value hv => ?_⟩
  · have hgiven := get?_of_isGivenCell hb hc
    exact (hr.keeps hf hgiven).trans hgiven.symm
  · cases hc : origin.cells.get? cell with
    | none => exact hr.mem_domain hf ho hc hv
    | some given =>
      have hkept := hr.keeps hf hc
      rw [hv] at hkept
      exact Option.some.inj hkept ▸ horigin.isDigit cell given hc

/-- The report of a search that the same board handed out, now or before, loses no given. -/
theorem apply {σ : Type} {e : Engine σ Nat} {earlier : Board} {report : Report Nat}
    (hb : ofGrid g = .ok origin) (h : Kept origin b) (hearlier : Kept origin earlier)
    (ho : e.order.Permutes model) (hr : Puzzle.Reports earlier e report)
    (ha : b.apply report = .ok b') : Kept origin b' := by
  rw [h.apply_eq hb] at ha
  cases ha
  cases hf : report.outcome with
  | unsatisfiable => exact h.of_givens hb report.stats
  | solved found =>
    obtain ⟨givens, hi, hr⟩ := hr
    obtain rfl : origin.cells = givens := Except.ok.inj ((hearlier.initial_eq hb).symm.trans hi)
    exact h.of_reports hb ho hr hf report.stats

theorem of_history {past : List Board} (hb : ofGrid g = .ok origin)
    (h : Puzzle.History Edits origin past b) : Kept origin b := by
  refine h.invariant (I := Kept origin) (kept_ofGrid hb) (fun p p' hp he => hp.edits he) ?_ ?_ b
    List.mem_cons_self
  · intro σ p p' earlier e report hp hearlier ho hr ha
    exact hp.apply hb hearlier ho hr ha
  · intro p p' hp hr
    have hreset : p.reset = .ok p' := hr
    rw [hp.reset_eq hb] at hreset
    cases hreset
    exact hp.of_givens hb {}

/-- Any search order that permutes the digits solves a board or finds that it has no solution. -/
theorem exists_solve {σ : Type} {e : Engine σ Nat} (hb : ofGrid g = .ok origin)
    (h : Kept origin b) (ho : e.order.Permutes model) :
    ∃ answer, Puzzle.solve b e = .ok answer := by
  have hs : origin.cells.size = cellCount := (kept_ofGrid hb).size_eq
  obtain ⟨report, e', hsolve, _⟩ := Engine.solve_answers model_keepsApart.givenBy ho validate_model hs
  exact ⟨_, Puzzle.solve_eq_ok (h.initial_eq hb) hsolve (h.apply_eq hb report)⟩

theorem exists_edit (h : Kept origin b) {row col : Nat} (hgrid : onGrid row col = true)
    (hgiven : b.isGiven row col = false) : ∃ answer, b.edit row col = .ok answer := by
  have hlt : cellAt row col < b.cells.size := Nat.lt_of_lt_of_eq (cellAt_lt hgrid) h.size_eq.symm
  rw [edit, hgrid, hgiven, nextContent_eq (h.isDigit (cellAt row col))]
  change ∃ answer, (b.cells.exchange (cellAt row col) _ >>= _) = Except.ok answer
  rw [Assignment.exchange, if_pos hlt]
  exact ⟨_, rfl⟩

end Kept

end

/-- Whatever is done with a new board and in whatever order, the mask stays as it is, the givens are
shown where they were, a search starts from them alone, and all other cells are empty or show a
digit. Solving, resetting and applying reports always succeed, and so do edits of cells of the grid
that are no givens. -/
theorem givens_survive {past : List Board} (hnew : origin.New)
    (h : Puzzle.History Edits origin past b) :
    (b.givens = origin.givens ∧ b.givenCount = origin.givenCount) ∧
      (∀ row col, origin.isGiven row col = true →
        ∃ digit ∈ digits, origin.value? row col = some digit ∧ b.value? row col = some digit) ∧
      (origin.initial = .ok origin.cells ∧ b.initial = .ok origin.cells) ∧
      (b.cells.size = cellCount ∧ ∀ cell < cellCount,
        b.cells.get? cell = none ∨ ∃ digit ∈ digits, b.cells.get? cell = some digit) ∧
      (∀ {σ : Type} (e : Engine σ Nat), e.order.Permutes model →
        ∃ answer, Puzzle.solve b e = .ok answer) ∧
      (∀ report, ∃ b', b.apply report = .ok b') ∧ (∃ b', b.reset = .ok b') ∧
      ∀ row col, onGrid row col = true → b.isGiven row col = false →
        ∃ answer, b.edit row col = .ok answer := by
  obtain ⟨g, hb⟩ := hnew.exists_grid
  have hk := Kept.of_history hb h
  refine ⟨⟨hk.givens_eq, by rw [givenCount, givenCount, hk.givens_eq]⟩, fun row col hgiven => ?_,
    ⟨(kept_ofGrid hb).initial_eq hb, hk.initial_eq hb⟩, ⟨hk.size_eq, fun cell _ => ?_⟩,
    fun e ho => hk.exists_solve hb ho, fun report => ⟨_, hk.apply_eq hb report⟩,
    ⟨_, hk.reset_eq hb⟩, fun row col => hk.exists_edit⟩
  · obtain ⟨hgrid, hc⟩ := Bool.and_eq_true_iff.mp hgiven
    have hshown := get?_of_isGivenCell hb hc
    refine ⟨_, (kept_ofGrid hb).isDigit _ _ hshown, ?_, ?_⟩
    · rw [value?, if_pos hgrid, hshown]
    · rw [value?, if_pos hgrid, hk.shown _ hc, hshown]
  · cases hv : b.cells.get? cell with
    | none => exact .inl rfl
    | some digit => exact .inr ⟨digit, hk.isDigit cell digit hv, rfl⟩

/-- The classic puzzle after an edit, a refused one, a search in random order, the report of a search
that was handed out at the start and broken off, and a reset. -/
theorem givens_survive_of_classic : ∃ origin past b, ofGrid .classic = .ok origin ∧ origin.New ∧
    Puzzle.History Edits origin past b ∧ past.length = 5 ∧
    origin.isGiven 0 0 = true ∧ b.value? 0 0 = origin.value? 0 0 ∧ b.initial = .ok origin.cells := by
  obtain ⟨origin, hb⟩ := exists_ofGrid_iff.mpr
    (by decide : ∀ cell < cellCount, Grid.classic.get cell ≤ 9)
  have hnew := New.ofGrid hb
  have h0 : Puzzle.History Edits origin [] origin := .start
  obtain ⟨_, _, _, _, hsolve, _, _, hedit⟩ := givens_survive hnew h0
  -- the search that is handed out now is broken off after five steps
  obtain ⟨⟨report, _⟩, hanswer⟩ := hsolve ⟨.natural, ()⟩ (ValueOrder.natural_permutes model)
  obtain ⟨givens, hi, s, _, hs, _⟩ := (Puzzle.reports_of_solve hanswer).1
  have hbroken : Puzzle.Reports origin ⟨.natural, ()⟩ _ := ⟨givens, hi, s, 5, hs, rfl⟩
  have hopen : origin.isGiven 0 2 = false := by rw [isGiven_ofGrid hb rfl]; decide
  obtain ⟨⟨content, b1⟩, h1⟩ := hedit 0 2 rfl hopen
  have h1 := h0.edit ⟨0, 2, .inl ⟨content, h1⟩⟩
  have hrefused : Edits b1 b1 := ⟨9, 0, .inr ⟨⟨.cellOutOfBounds 9 0, rfl⟩, rfl⟩⟩
  have h2 := h1.edit hrefused
  obtain ⟨_, _, _, _, hsolve, _⟩ := givens_survive hnew h2
  obtain ⟨random, hrandom⟩ : ∃ e : Engine Generator Nat, e.order.Permutes model :=
    ⟨⟨.shuffled, .ofSeed 42⟩, ValueOrder.shuffled_permutes model⟩
  obtain ⟨⟨_, b3, _⟩, h3⟩ := hsolve random hrandom
  have h3 := h2.solve hrandom h3
  obtain ⟨_, _, _, _, _, happly, _⟩ := givens_survive hnew h3
  obtain ⟨b4, h4⟩ := happly (Search.after model .natural 5 s).report
  have hpast : origin ∈ [b3, b1, b1, origin] := by simp
  have h4 := h3.apply hpast (ValueOrder.natural_permutes model) hbroken h4
  obtain ⟨_, _, _, _, _, _, ⟨b5, h5⟩, _⟩ := givens_survive hnew h4
  have h5 := h4.reset h5
  have hgiven : origin.isGiven 0 0 = true := by rw [isGiven_ofGrid hb rfl]; decide
  obtain ⟨_, hshown, ⟨_, hinitial⟩, _⟩ := givens_survive hnew h5
  obtain ⟨digit, _, horigin, hvalue⟩ := hshown 0 0 hgiven
  exact ⟨origin, _, b5, hb, hnew, h5, rfl, hgiven, hvalue.trans horigin.symm, hinitial⟩

end ConstraintSearch.Sudoku.Board
