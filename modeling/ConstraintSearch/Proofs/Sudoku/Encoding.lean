import ConstraintSearch.Proofs.Assignment
import ConstraintSearch.Sudoku.Board

/-! Grids as assignments and back. An empty cell is a variable without a value, and a board keeps
its givens as the cells that its mask marks. -/
namespace ConstraintSearch.Sudoku

namespace Grid

theorem get_of_lt (g : Grid) {cell : Nat} (h : cell < cellCount) :
    g.get cell = g.cells.get ⟨cell, h⟩ := by
  have hc : g.cells[cell]? = some (g.cells.get ⟨cell, h⟩) := Vector.getElem?_eq_getElem h
  rw [get, hc, Option.getD_some]

private theorem get_of_le (g : Grid) {cell : Nat} (h : cellCount ≤ cell) : g.get cell = 0 := by
  have hc : g.cells[cell]? = none := Vector.getElem?_eq_none h
  rw [get, hc, Option.getD_none]

theorem ext_get {g h : Grid} (he : ∀ cell < cellCount, g.get cell = h.get cell) : g = h := by
  have hcells : g.cells = h.cells := by
    ext cell hcell
    exact (get_of_lt g hcell).symm.trans ((he cell hcell).trans (get_of_lt h hcell))
  cases g
  cases h
  exact congrArg Grid.mk hcells

theorem get_ofAssignment {a : Assignment Nat} {cell : Nat} (h : cell < cellCount) :
    (ofAssignment a).get cell = (a.get? cell).getD 0 := by
  rw [get_of_lt _ h]
  exact Vector.getElem_ofFn h

/-- The assignment that a grid stands for, whatever its cells hold. -/
def slots (g : Grid) : Assignment Nat :=
  ⟨g.cells.toArray.map fun value => if value = 0 then none else some value⟩

@[simp] theorem size_slots (g : Grid) : g.slots.size = cellCount := by
  simp [slots, Assignment.size, cellCount]

theorem get?_slots (g : Grid) (cell : Nat) :
    g.slots.get? cell = if g.get cell = 0 then none else some (g.get cell) := by
  rcases Nat.lt_or_ge cell cellCount with h | h
  · have hc : g.cells.toArray[cell]? = some (g.get cell) := by
      rw [get_of_lt g h, Vector.getElem?_toArray]
      exact Vector.getElem?_eq_getElem h
    rw [Assignment.get?, slots, Array.getElem?_map, hc]
    rfl
  · rw [get_of_le g h, if_pos rfl]
    exact Assignment.get?_of_size_le (by simpa using h)

theorem toAssignment_eq_ok_iff {g : Grid} {a : Assignment Nat} :
    g.toAssignment = .ok a ↔ (∀ cell < cellCount, g.get cell ≤ 9) ∧ a = g.slots := by
  have hlarge : g.largeCell? = none ↔ ∀ cell < cellCount, g.get cell ≤ 9 := by
    simp [largeCell?, List.find?_eq_none]
  rw [toAssignment, ← hlarge]
  cases g.largeCell? with
  | none => exact ⟨fun h => ⟨rfl, (Except.ok.inj h).symm⟩, fun h => congrArg Except.ok h.2.symm⟩
  | some cell => exact ⟨fun h => (nomatch h), fun h => (nomatch h.1)⟩

theorem ofAssignment_slots (g : Grid) : ofAssignment g.slots = g := by
  refine ext_get fun cell h => ?_
  rw [get_ofAssignment h, get?_slots]
  split
  · rename_i h0
    rw [h0, Option.getD_none]
  · rw [Option.getD_some]

end Grid

namespace Board

theorem ofGrid_eq_ok {g : Grid} {b : Board} (h : ofGrid g = .ok b) :
    (∀ cell < cellCount, g.get cell ≤ 9) ∧ b = ⟨g.slots, g.cells.map (· != 0), {}⟩ := by
  rw [ofGrid] at h
  obtain ⟨a, ha, h⟩ := Failure.bind_eq_ok h
  obtain ⟨hle, rfl⟩ := Grid.toAssignment_eq_ok_iff.mp ha
  exact ⟨hle, (Except.ok.inj h).symm⟩

/-- The displayed cells that are givens. -/
def onlyGivens (b : Board) : Assignment Nat :=
  ⟨b.cells.slots.mapIdx fun cell slot => if b.isGivenCell cell then slot else none⟩

@[simp] theorem size_onlyGivens (b : Board) : b.onlyGivens.size = b.cells.size := by
  simp [onlyGivens, Assignment.size]

theorem get?_onlyGivens (b : Board) (cell : Nat) :
    b.onlyGivens.get? cell = if b.isGivenCell cell then b.cells.get? cell else none := by
  rw [Assignment.get?, Assignment.get?, onlyGivens, Array.getElem?_mapIdx]
  cases b.cells.slots[cell]? <;> cases b.isGivenCell cell <;> rfl

/-- With no slot beyond the grid, a search starts from the givens. -/
theorem initial_eq_ok {b : Board} (h : b.cells.size ≤ cellCount) : b.initial = .ok b.onlyGivens := by
  rw [initial]
  split
  · rename_i cell value hfind
    have hget := Assignment.mem_assigned.mp (List.mem_of_find?_eq_some hfind)
    have hlt := Assignment.lt_size_of_get? hget
    have hle := List.find?_some hfind
    simp only [decide_eq_true_eq] at hle
    omega
  · rfl

end Board

end ConstraintSearch.Sudoku
