import ConstraintSearch.Proofs.Colouring.Solving
import ConstraintSearch.Proofs.Queens.Placement
import ConstraintSearch.Proofs.Sudoku.Solving

/-! The checkers of finished puzzles, which do not use the models, against the models. A checker
sorts rows, columns and boxes, looks at each pair of queens once, or goes through a list of borders;
a model compares one variable with all its neighbours. -/
namespace ConstraintSearch

private theorem Model.check_eq_ok_true_iff {V : Type} {m : Model V} {a : Assignment V} {var : Nat}
    {value : V} : m.check a var value = .ok true ↔
      m.checkable a var value = true ∧ m.consistent a var value = true := by
  rw [check]
  split
  · rename_i h
    rw [and_iff_right h, Except.ok.injEq]
  · rename_i h
    exact iff_of_false (by simp) fun hc => h hc.1

private theorem Sudoku.Grid.check_slots_iff {g : Grid} {cell : Nat} (hcell : cell < cellCount)
    (hdigit : g.get cell ∈ digits) : model.check g.slots cell (g.get cell) = .ok true ↔
      ∀ peer ∈ peers cell, g.get cell ≠ g.get peer := by
  have h0 : g.get cell ≠ 0 := Nat.ne_of_gt (mem_digits.mp hdigit).1
  rw [Model.check_eq_ok_true_iff, and_iff_right (checkable_of_lt _ _ hcell),
    model_keepsApart.consistent_iff]
  refine forall_congr' fun peer => forall_congr' fun _ => not_congr ?_
  rw [get?_slots]
  split
  · rename_i hempty
    rw [hempty]
    exact iff_of_false (by simp) h0
  · rw [Option.some.injEq, eq_comm]

/-- The checker accepts the grids of digits whose cells the model accepts. -/
theorem Sudoku.Grid.isSolution_iff_check {g : Grid} : g.isSolution = true ↔
    ∃ a, g.toAssignment = .ok a ∧ ∀ cell < cellCount, (0 < g.get cell ∧ g.get cell ≤ 9) ∧
      model.check a cell (g.get cell) = .ok true := by
  rw [isSolution_iff]
  constructor
  · rintro ⟨hdigit, hpeer⟩
    have hle : ∀ cell < cellCount, g.get cell ≤ 9 :=
      fun cell hc => (mem_digits.mp (hdigit cell hc)).2
    refine ⟨g.slots, toAssignment_eq_ok_iff.mpr ⟨hle, rfl⟩, fun cell hc => ?_⟩
    exact ⟨mem_digits.mp (hdigit cell hc),
      (check_slots_iff hc (hdigit cell hc)).mpr (hpeer cell hc)⟩
  · rintro ⟨a, ha, hall⟩
    obtain ⟨_, rfl⟩ := toAssignment_eq_ok_iff.mp ha
    have hdigit : ∀ cell < cellCount, g.get cell ∈ digits :=
      fun cell hc => mem_digits.mpr (hall cell hc).1
    exact ⟨hdigit, fun cell hc => (check_slots_iff hc (hdigit cell hc)).mp (hall cell hc).2⟩

/-- The checker accepts the lists of rows of the board of which the model accepts each one. -/
theorem Queens.isPlacement_iff_check {rows : List Nat} : isPlacement rows = true ↔
    (∀ row ∈ rows, row < rows.length) ∧ ∀ col row, rows[col]? = some row →
      (model rows.length).check (.ofList (rows.map some)) col row = .ok true := by
  have hsize := Assignment.size_ofList_map_some rows
  rw [isPlacement_iff]
  refine and_congr_right fun _ => ?_
  simp only [Model.check_eq_ok_true_iff, (model_compares rows.length).consistent_iff _ _ _ hsize,
    Assignment.get?_ofList_map_some, mem_others]
  constructor
  · intro hall col row h
    exact ⟨rfl, fun col' hcol row' h' => hall col col' row row' hcol.2.symm h h'⟩
  · intro hall col col' row row' hne h h'
    have hcol' := (List.getElem?_eq_some_iff.mp h').1
    exact (hall col row h).2 col' ⟨hcol', hne.symm⟩ row' h'

namespace Colouring.Map
variable {borders : Nat → Nat → Prop} {m : Map}

/-- With a colour in every slot, the checker accepts the colours of the palette that the model
accepts. -/
theorem Bordered.isProper_iff_check (h : m.Bordered borders) (hc : m.colouring.isComplete = true)
    (hs : m.colouring.size = m.regions.length) : m.isProper = true ↔
      ∀ id colour, m.colourOf? id = some colour → colour ∈ m.palette ∧
        (Puzzle.model m).check m.colouring id colour = .ok true := by
  rw [h.isProper_iff, and_iff_right hc]
  simp only [Model.check_eq_ok_true_iff]
  constructor
  · rintro ⟨hpalette, hapart⟩ id colour hget
    refine ⟨hpalette id colour hget, rfl, h.keepsApart.consistent_iff.mpr fun other hother he => ?_⟩
    exact hapart id other ((h.mem_neighbours id other).mp hother) (hget.trans he.symm)
  · intro hall
    refine ⟨fun id colour hget => (hall id colour hget).1, fun a b hab he => ?_⟩
    have ha : a < m.colouring.size := hs ▸ h.lt b a (h.symm a b hab)
    obtain ⟨colour, hget⟩ := Assignment.isComplete_iff_exists.mp hc a ha
    exact h.keepsApart.consistent_iff.mp (hall a colour hget).2.2 b
      ((h.mem_neighbours a b).mpr hab) (he.symm.trans hget)

end Colouring.Map

open Colouring (Map) in
/-- The checkers agree with the models. A grid, whatever its cells hold, is accepted exactly if its
cells are digits and the model accepts each of them in the assignment that is read from the grid; a
list of rows, of any length, exactly if the rows are on the board and the model accepts each of
them; and a complete colouring of a map exactly if its colours are in the palette and the model
accepts the colour of each region. -/
theorem checkers_agree_with_models :
    (∀ g : Sudoku.Grid, g.isSolution = true ↔
      ∃ a, g.toAssignment = .ok a ∧ ∀ cell < Sudoku.cellCount,
        (0 < g.get cell ∧ g.get cell ≤ 9) ∧ Sudoku.model.check a cell (g.get cell) = .ok true) ∧
    (∀ rows : List Nat, Queens.isPlacement rows = true ↔
      (∀ row ∈ rows, row < rows.length) ∧ ∀ col row, rows[col]? = some row →
        (Queens.model rows.length).check (.ofList (rows.map some)) col row = .ok true) ∧
    ∀ (borders : Nat → Nat → Prop) (m : Map), m.Built borders → m.colouring.isComplete = true →
      m.colouring.size = m.regions.length →
      (m.isProper = true ↔ ∀ id colour, m.colourOf? id = some colour →
        colour ∈ m.palette ∧ (Puzzle.model m).check m.colouring id colour = .ok true) :=
  ⟨fun _ => Sudoku.Grid.isSolution_iff_check, fun _ => Queens.isPlacement_iff_check,
    fun _ _ hm => hm.bordered.isProper_iff_check⟩

open Colouring (Map) in
/-- The solution of the classic puzzle, two queens of four that attack each other, and three regions
that border each other in three colours. -/
theorem checkers_agree_with_models_of_triangle :
    let painted : Assignment Colouring.Colour := .ofList [some .blue, some .red, some .green]
    let borders := fun a b => (a, b) ∈ [(0, 1), (1, 2), (2, 0)] ∨ (b, a) ∈ [(0, 1), (1, 2), (2, 0)]
    (∃ a, Sudoku.Grid.fallback.toAssignment = .ok a ∧ ∀ cell < Sudoku.cellCount,
      Sudoku.model.check a cell (Sudoku.Grid.fallback.get cell) = .ok true) ∧
    Queens.isPlacement [1, 3, 0, 1] = false ∧
    ∃ new m, Map.ofEdges 3 [(0, 1), (1, 2), (2, 0)] = .ok new ∧
      m = new.apply ⟨.solved painted, {}⟩ ∧ m.Built borders ∧ m.colouring.isComplete = true ∧
      m.colouring.size = m.regions.length ∧ ∀ id colour, m.colourOf? id = some colour →
        colour ∈ m.palette ∧ (Puzzle.model m).check painted id colour = .ok true := by
  intro painted borders
  obtain ⟨hgrid, hrows, hmap⟩ := checkers_agree_with_models
  refine ⟨?_, ?_, ?_⟩
  · obtain ⟨a, ha, hall⟩ := (hgrid .fallback).mp Sudoku.Grid.isSolution_fallback
    exact ⟨a, ha, fun cell hc => (hall cell hc).2⟩
  · refine Bool.eq_false_iff.mpr fun h => ?_
    have hqueen := ((hrows _).mp h).2 0 1 rfl
    cases hqueen
  · obtain ⟨new, hnew⟩ : ∃ new, Map.ofEdges 3 [(0, 1), (1, 2), (2, 0)] = .ok new := ⟨_, rfl⟩
    have hbuilt : (new.apply ⟨.solved painted, {}⟩).Built borders :=
      (Map.Built.ofEdges hnew).apply _
    have hcomplete : painted.isComplete = true := by decide +kernel
    have hsize : painted.size = new.regions.length := (Map.ofEdges_eq_ok hnew).2.1.symm
    refine ⟨new, _, hnew, rfl, hbuilt, hcomplete, hsize, ?_⟩
    refine (hmap borders _ hbuilt hcomplete hsize).mp ?_
    cases hnew
    decide +kernel

end ConstraintSearch
