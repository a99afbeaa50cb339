import ConstraintSearch.Proofs.Sudoku.OtherReports

/-! Grids and assignments are turned into each other without loss, and a board can be made anew from
what it displays. An assignment of another size is cut off or filled up with empty cells, and its
values are written to cells of the grid only. -/
namespace ConstraintSearch

namespace Sudoku

namespace Grid
variable {g : Grid} {a : Assignment Nat}

def store (g : Grid) (cell content : Nat) : Except Failure Grid :=
  if h : cell < 81 then .ok ⟨g.cells.set cell content h⟩ else .error (.noSlot cell cellCount)

def storeAll : List (Nat × Nat) → Grid → Except Failure Grid
  | [], g => .ok g
  | (cell, content) :: rest, g => do storeAll rest (← g.store cell content)

private theorem exists_store (g : Grid) {cell : Nat} (h : cell < cellCount) (content : Nat) :
    ∃ g', g.store cell content = .ok g' ∧
      ∀ other, g'.get other = if other = cell then content else g.get other := by
  have hcell : cell < 81 := h
  refine ⟨⟨g.cells.set cell content hcell⟩, dif_pos hcell, fun other => ?_⟩
  rw [get, get, Vector.getElem?_set]
  split
  · rename_i he
    rw [if_pos he.symm, Option.getD_some]
  · rename_i he
    rw [if_neg (Ne.symm he)]

private theorem exists_storeAll {writes : List (Nat × Nat)}
    (h : ∀ cell content, (cell, content) ∈ writes → cell < cellCount ∧ a.get? cell = some content)
    (g : Grid) : ∃ g', storeAll writes g = .ok g' ∧ ∀ cell,
      g'.get cell = if cell ∈ writes.map Prod.fst then (a.get? cell).getD 0 else g.get cell := by
  induction writes generalizing g with
  | nil => exact ⟨g, rfl, fun _ => rfl⟩
  | cons first rest ih =>
    obtain ⟨cell, content⟩ := first
    obtain ⟨hlt, hvalue⟩ := h cell content List.mem_cons_self
    obtain ⟨g₁, hstore, hget₁⟩ := g.exists_store hlt content
    obtain ⟨g₂, hrest, hget₂⟩ := ih (fun c v hm => h c v (List.mem_cons_of_mem _ hm)) g₁
    refine ⟨g₂, ?_, fun other => ?_⟩
    · rw [storeAll, hstore]
      exact hrest
    · simp only [hget₂, hget₁, List.map_cons, List.mem_cons]
      by_cases hr : other ∈ rest.map Prod.fst
      · rw [if_pos hr, if_pos (.inr hr)]
      · by_cases he : other = cell
        · rw [if_neg hr, if_pos he, if_pos (.inl he), he, hvalue, Option.getD_some]
        · rw [if_neg hr, if_neg he, if_neg (not_or_intro he hr)]

/-- Written into an empty grid up to its last cell, the values of an assignment of any size make its
grid. -/
theorem storeAll_takeWhile (a : Assignment Nat) :
    storeAll (a.assigned.takeWhile (·.1 < cellCount)) .empty = .ok (.ofAssignment a) := by
  obtain ⟨g, hg, hget⟩ := exists_storeAll
    (fun _ _ hm => Assignment.mem_takeWhile_assigned.mp hm) .empty
  rw [hg]
  refine congrArg Except.ok (ext_get fun cell hcell => ?_)
  rw [hget, get_ofAssignment hcell]
  split
  · rfl
  · rename_i hnone
    cases hv : a.get? cell with
    | none =>
      rw [get_of_lt _ hcell]
      exact Vector.getElem_replicate hcell
    | some value =>
      have hm := Assignment.mem_takeWhile_assigned.mpr ⟨hcell, hv⟩
      exact absurd (List.mem_map_of_mem hm) hnone

private theorem onGrid_iff {row col : Nat} : Board.onGrid row col = true ↔ row < 9 ∧ col < 9 := by
  rw [Board.onGrid, Bool.and_eq_true, decide_eq_true_eq, decide_eq_true_eq]

private theorem rows_ofAssignment (a : Assignment Nat) : (Grid.ofAssignment a).rows =
    (List.range 9).map fun row => (List.range 9).map fun col => (a.get? (row * 9 + col)).getD 0 := by
  refine List.map_congr_left fun row hrow => ?_
  rw [rowCells, List.map_map]
  refine List.map_congr_left fun col hcol => ?_
  have hgrid := onGrid_iff.mpr ⟨List.mem_range.mp hrow, List.mem_range.mp hcol⟩
  exact get_ofAssignment (Board.cellAt_lt hgrid)

/-- The cell in this row and column is the first one, row by row, that holds more than a digit. -/
structure FirstLarge (g : Grid) (row col : Nat) : Prop where
  row_lt : row < 9
  col_lt : col < 9
  large : 9 < g.get (cellAt row col)
  earlier : ∀ row' < 9, ∀ col' < 9, row' < row ∨ row' = row ∧ col' < col →
    g.get (cellAt row' col') ≤ 9

theorem largeCell?_eq_some_iff {cell : Nat} : g.largeCell? = some cell ↔
    cell < cellCount ∧ 9 < g.get cell ∧ ∀ lower < cell, g.get lower ≤ 9 := by
  rw [largeCell?, List.find?_range_eq_some]
  simp only [decide_eq_true_eq, List.mem_range, Bool.not_eq_true', decide_eq_false_iff_not, not_lt]
  exact and_left_comm

private theorem firstLarge_iff {row col : Nat} : g.FirstLarge row col ↔
    row < 9 ∧ col < 9 ∧ g.largeCell? = some (cellAt row col) := by
  rw [largeCell?_eq_some_iff]
  constructor
  · rintro ⟨hrow, hcol, hlarge, hearlier⟩
    refine ⟨hrow, hcol, Board.cellAt_lt (onGrid_iff.mpr ⟨hrow, hcol⟩), hlarge, fun lower hlt => ?_⟩
    have hcell : lower < cellCount :=
      Nat.lt_trans hlt (Board.cellAt_lt (onGrid_iff.mpr ⟨hrow, hcol⟩))
    obtain ⟨hrow', hcol'⟩ := onGrid_iff.mp (Board.onGrid_rowOf_colOf hcell)
    have hle := hearlier _ hrow' _ hcol' (by simp only [cellAt, rowOf, colOf] at *; omega)
    rwa [Board.cellAt_rowOf_colOf] at hle
  · rintro ⟨hrow, hcol, _, hlarge, hlower⟩
    refine ⟨hrow, hcol, hlarge, fun row' _ col' hcol' hbefore => hlower _ ?_⟩
    simp only [cellAt]
    omega

/-- A refusal names the first cell that holds more than a digit. -/
theorem toAssignment_eq_error_iff {failure : Failure} : g.toAssignment = .error failure ↔
    ∃ row col, g.FirstLarge row col ∧
      failure = .invalidGrid (.cellValue row col (g.get (cellAt row col))) := by
  simp only [toAssignment, firstLarge_iff]
  cases hlarge : g.largeCell? with
  | none =>
    refine iff_of_false (fun h => by cases h) ?_
    rintro ⟨_, _, ⟨_, _, hsome⟩, _⟩
    cases hsome
  | some cell =>
    constructor
    · intro h
      obtain ⟨hrow, hcol⟩ := onGrid_iff.mp
        (Board.onGrid_rowOf_colOf (largeCell?_eq_some_iff.mp hlarge).1)
      refine ⟨rowOf cell, colOf cell, ⟨hrow, hcol, ?_⟩, ?_⟩
      · rw [Board.cellAt_rowOf_colOf]
      · rw [Board.cellAt_rowOf_colOf]
        exact (Except.error.inj h).symm
    · rintro ⟨row, col, ⟨_, hcol, hsome⟩, rfl⟩
      obtain rfl := Option.some.inj hsome
      have hrow : rowOf (cellAt row col) = row := by simp only [rowOf, cellAt]; omega
      have hcol : colOf (cellAt row col) = col := by simp only [colOf, cellAt]; omega
      dsimp only
      rw [hrow, hcol]

private theorem forall_cell_iff {p : Nat → Prop} :
    (∀ cell < cellCount, p cell) ↔ ∀ row < 9, ∀ col < 9, p (cellAt row col) := by
  constructor
  · exact fun h row hrow col hcol => h _ (Board.cellAt_lt (onGrid_iff.mpr ⟨hrow, hcol⟩))
  · intro h cell hcell
    obtain ⟨hrow, hcol⟩ := onGrid_iff.mp (Board.onGrid_rowOf_colOf hcell)
    rw [← Board.cellAt_rowOf_colOf cell]
    exact h _ hrow _ hcol

/-- Reading an assignment of digits back from its grid. -/
theorem toAssignment_ofAssignment (hs : a.size = cellCount)
    (hd : ∀ cell value, a.get? cell = some value → value ∈ digits) :
    (ofAssignment a).toAssignment = .ok a := by
  refine toAssignment_eq_ok_iff.mpr ⟨fun cell hcell => ?_, Assignment.ext_get? ?_ fun cell hcell => ?_⟩
  · rw [get_ofAssignment hcell]
    cases hv : a.get? cell with
    | none => exact Nat.zero_le 9
    | some value => exact (mem_digits.mp (hd cell value hv)).2
  · rw [hs, size_slots]
  · rw [get?_slots, get_ofAssignment (hs ▸ hcell)]
    cases hv : a.get? cell with
    | none => rfl
    | some value => exact (if_neg (Nat.ne_of_gt (mem_digits.mp (hd cell value hv)).1)).symm

end Grid

namespace Board
variable {origin b copy : Board} {g : Grid}

private theorem isGiven_eq_isSome (hb : ofGrid g = .ok b) (row col : Nat) :
    b.isGiven row col = (b.value? row col).isSome := by
  cases hgrid : onGrid row col with
  | false =>
    rw [isGiven, value?, hgrid]
    rfl
  | true =>
    rw [isGiven_ofGrid hb hgrid, value?_ofGrid hb hgrid]
    split
    · rename_i h0
      rw [h0]
      rfl
    · rename_i h0
      exact bne_iff_ne.mpr h0

/-- What a board shows can always be made a new board, with all that it shows as givens. -/
theorem Kept.exists_copy (h : Kept origin b) : ∃ copy, ofGrid b.grid = .ok copy ∧
    copy.cells = b.cells ∧ copy.stats = {} ∧
    ∀ row col, copy.isGiven row col = (b.value? row col).isSome := by
  have hcells : b.grid.toAssignment = .ok b.cells :=
    Grid.toAssignment_ofAssignment h.size_eq h.isDigit
  have hcopy : ofGrid b.grid = .ok ⟨b.cells, b.grid.cells.map (· != 0), {}⟩ := by
    rw [ofGrid, hcells]
    rfl
  exact ⟨_, hcopy, rfl, rfl, isGiven_eq_isSome hcopy⟩

end Board

/-- Grids and assignments are encoded in each other. A grid is an assignment exactly if no cell holds
more than a digit, or else the first such cell is named, and it can be read back; so can any
assignment with a slot for each cell that holds digits only. The values of an assignment of any size
are written to cells of the grid: slots beyond the last cell are left out, and cells without a slot
stay empty. What a board shows after any edits, solves, applied reports and resets makes a new board
that shows the same and has all of it as givens. -/
theorem encodings_inverse :
    (∀ g : Grid,
      ((∃ a, g.toAssignment = .ok a) ↔ ∀ row < 9, ∀ col < 9, g.get (cellAt row col) ≤ 9) ∧
      (∀ failure, g.toAssignment = .error failure ↔ ∃ row col, g.FirstLarge row col ∧
        failure = .invalidGrid (.cellValue row col (g.get (cellAt row col)))) ∧
      ∀ a, g.toAssignment = .ok a → Grid.ofAssignment a = g) ∧
    (∀ a : Assignment Nat, a.size = cellCount →
      (∀ cell value, a.get? cell = some value → value ∈ digits) →
      (Grid.ofAssignment a).toAssignment = .ok a) ∧
    (∀ a : Assignment Nat,
      Grid.storeAll (a.assigned.takeWhile (·.1 < cellCount)) .empty = .ok (.ofAssignment a) ∧
      ((Grid.ofAssignment a).rows = (List.range 9).map fun row =>
        (List.range 9).map fun col => (a.get? (row * 9 + col)).getD 0) ∧
      (∀ other : Assignment Nat, (∀ cell < cellCount, other.get? cell = a.get? cell) →
        Grid.ofAssignment other = Grid.ofAssignment a) ∧
      ∀ cell < cellCount, a.size ≤ cell → (Grid.ofAssignment a).get cell = 0) ∧
    ∀ {origin b : Board} {past : List Board}, origin.New →
      Puzzle.History Board.Edits origin past b → ∃ copy, Board.ofGrid b.grid = .ok copy ∧
        copy.grid = b.grid ∧ (∀ row col, copy.value? row col = b.value? row col) ∧
        ∀ row col, copy.isGiven row col = (b.value? row col).isSome := by
  refine ⟨fun g => ⟨?_, fun failure => Grid.toAssignment_eq_error_iff, fun a ha => ?_⟩,
    fun a => Grid.toAssignment_ofAssignment, fun a => ⟨Grid.storeAll_takeWhile a,
      Grid.rows_ofAssignment a, fun other hsame => Grid.ext_get fun cell hcell => ?_,
      fun cell hcell hsize => ?_⟩, ?_⟩
  · rw [← Grid.forall_cell_iff (p := fun cell => g.get cell ≤ 9)]
    simp only [Grid.toAssignment_eq_ok_iff, exists_and_left, exists_eq, and_true]
  · rw [(Grid.toAssignment_eq_ok_iff.mp ha).2, Grid.ofAssignment_slots]
  · rw [Grid.get_ofAssignment hcell, Grid.get_ofAssignment hcell, hsame cell hcell]
  · rw [Grid.get_ofAssignment hcell, Assignment.get?_of_size_le hsize, Option.getD_none]
  · intro origin b past hnew h
    obtain ⟨g, hb⟩ := hnew.exists_grid
    obtain ⟨copy, hcopy, hcells, _, hgiven⟩ := (Board.Kept.of_history hb h).exists_copy
    refine ⟨copy, hcopy, ?_, fun row col => ?_, hgiven⟩
    · rw [Board.grid, hcells, Board.grid]
    · rw [Board.value?, hcells, Board.value?]

/-- The classic puzzle with too much in the cells (1, 0) and (2, 1), of which the first is named. An
assignment of three slots, and one of 83 of which two are beyond the grid. The classic puzzle with a
cell edited, which is a given when the puzzle is made anew. -/
theorem encodings_inverse_of_classic :
    let large : Grid := ⟨(Grid.classic.cells.set 9 12).set 19 255⟩
    let short : Assignment Nat := .ofList [some 5, none, some 3]
    let long : Assignment Nat := .ofList (List.replicate 80 none ++ [some 4, none, some 7])
    large.toAssignment = .error (.invalidGrid (.cellValue 1 0 12)) ∧
    (Grid.ofAssignment short).rows.head? = some [5, 0, 3, 0, 0, 0, 0, 0, 0] ∧
    long.assigned = [(80, 4), (82, 7)] ∧ Grid.storeAll [(80, 4)] .empty = .ok (.ofAssignment long) ∧
    (Grid.ofAssignment (Grid.slots .classic)).toAssignment = .ok (Grid.slots .classic) ∧
    ∃ origin past b copy, origin.New ∧ Puzzle.History Board.Edits origin past b ∧
      origin.isGiven 0 2 = false ∧ Board.ofGrid b.grid = .ok copy ∧ copy.value? 0 2 = some 1 ∧
      copy.isGiven 0 2 = true := by
  intro large short long
  obtain ⟨hgrid, hdigits, hany, hboard⟩ := encodings_inverse
  obtain ⟨origin, hb⟩ := Board.exists_ofGrid_iff.mpr
    (by decide : ∀ cell < cellCount, Grid.classic.get cell ≤ 9)
  refine ⟨?_, ?_, ?_, ?_, ?_, ?_⟩
  · exact ((hgrid large).2.1 _).mpr ⟨1, 0, ⟨by decide, by decide, by decide, by decide⟩, rfl⟩
  · rw [(hany short).2.1]
    rfl
  · decide
  · exact (hany long).1
  · have hkept := Board.kept_ofGrid hb
    rw [← Board.cells_ofGrid hb]
    exact hdigits _ hkept.size_eq hkept.isDigit
  · have hopen : origin.isGiven 0 2 = false := by rw [Board.isGiven_ofGrid hb rfl]; decide
    obtain ⟨⟨content, b⟩, hedit⟩ := (Board.kept_ofGrid hb).exists_edit rfl hopen
    have hempty : origin.cells.get? (cellAt 0 2) = none :=
      Board.get?_of_not_isGivenCell hb hopen
    obtain ⟨_, _, hnext, _, _, _, hget⟩ := Board.edit_eq_ok hedit
    rw [hempty] at hnext
    cases hnext
    have h : Puzzle.History Board.Edits origin [origin] b :=
      .edit .start ⟨0, 2, .inl ⟨1, hedit⟩⟩
    obtain ⟨copy, hcopy, _, hvalue, hgivens⟩ := hboard (.ofGrid hb) h
    have hone : b.value? 0 2 = some 1 := hget 2
    refine ⟨origin, _, b, copy, .ofGrid hb, h, hopen, hcopy, (hvalue 0 2).trans hone, ?_⟩
    rw [hgivens, hone, Option.isSome_some]

end Sudoku
end ConstraintSearch
