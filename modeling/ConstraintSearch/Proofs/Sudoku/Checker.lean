import ConstraintSearch.Sudoku.Model
import Mathlib.Data.List.Nodup
import Mathlib.Data.List.Perm.Subperm

/-! The checker of full grids sorts rows, columns and boxes; the rules compare a cell with its
peers. Both say the same of a grid of digits. -/
namespace ConstraintSearch.Sudoku

theorem mem_digits {value : Nat} : value ∈ digits ↔ 0 < value ∧ value ≤ 9 := by
  simp only [digits, List.mem_cons, List.not_mem_nil, or_false]
  omega

/-- Two cells share a row, a column or a box. -/
def Together (x y : Nat) : Prop :=
  rowOf x = rowOf y ∨ colOf x = colOf y ∨
    (rowOf x / 3 = rowOf y / 3 ∧ colOf x / 3 = colOf y / 3)

private theorem Together.symm {x y : Nat} (h : Together x y) : Together y x :=
  h.imp Eq.symm (Or.imp Eq.symm fun hb => ⟨hb.1.symm, hb.2.symm⟩)

private theorem mem_rowCells {i x : Nat} (hi : i < 9) :
    x ∈ rowCells i ↔ x < cellCount ∧ rowOf x = i := by
  simp only [rowCells, List.mem_map, List.mem_range, cellAt, rowOf, cellCount]
  constructor
  · rintro ⟨col, hc, rfl⟩
    omega
  · rintro ⟨hx, rfl⟩
    exact ⟨x % 9, by omega, by omega⟩

private theorem mem_colCells {i x : Nat} (hi : i < 9) :
    x ∈ colCells i ↔ x < cellCount ∧ colOf x = i := by
  simp only [colCells, List.mem_map, List.mem_range, cellAt, colOf, cellCount]
  constructor
  · rintro ⟨row, hr, rfl⟩
    omega
  · rintro ⟨hx, rfl⟩
    exact ⟨x / 9, by omega, by omega⟩

theorem mem_boxCells {band stack x : Nat} (hb : band < 3) (hs : stack < 3) :
    x ∈ boxCells (band * 3) (stack * 3) ↔
      x < cellCount ∧ rowOf x / 3 = band ∧ colOf x / 3 = stack := by
  simp only [boxCells, List.mem_map, List.mem_range, cellAt, rowOf, colOf, cellCount]
  constructor
  · rintro ⟨i, hi, rfl⟩
    omega
  · rintro ⟨hx, rfl, rfl⟩
    exact ⟨x / 9 % 3 * 3 + x % 9 % 3, by omega, by omega⟩

theorem mem_peers {x y : Nat} (hx : x < cellCount) :
    y ∈ peers x ↔ y < cellCount ∧ y ≠ x ∧ Together x y := by
  have hrow : rowOf x < 9 := by simp only [rowOf, cellCount] at *; omega
  have hcol : colOf x < 9 := by simp only [colOf]; omega
  have hband : rowOf x / 3 < 3 := by omega
  have hstack : colOf x / 3 < 3 := by omega
  simp only [peers, List.mem_filter, List.mem_append, bne_iff_ne, mem_rowCells hrow,
    mem_colCells hcol, mem_boxCells hband hstack, Together]
  grind

theorem mem_peers_symm {x y : Nat} (hx : x < cellCount) (h : y ∈ peers x) : x ∈ peers y := by
  obtain ⟨hy, hne, ht⟩ := (mem_peers hx).mp h
  exact (mem_peers hy).mpr ⟨hx, hne.symm, ht.symm⟩

/-- The rows, columns and boxes, one of each for a number. -/
def units (i : Nat) : List (List Nat) :=
  [rowCells i, colCells i, boxCells (i / 3 * 3) (i % 3 * 3)]

theorem mem_units {i : Nat} {unit : List Nat} : unit ∈ units i ↔
    unit = rowCells i ∨ unit = colCells i ∨ unit = boxCells (i / 3 * 3) (i % 3 * 3) := by
  simp only [units, List.mem_cons, List.not_mem_nil, or_false]

private theorem length_of_mem_units {i : Nat} {unit : List Nat} (h : unit ∈ units i) :
    unit.length = 9 := by
  rcases mem_units.mp h with rfl | rfl | rfl <;> simp [rowCells, colCells, boxCells]

private theorem nodup_of_mem_units {i : Nat} {unit : List Nat} (h : unit ∈ units i) :
    unit.Nodup := by
  rcases mem_units.mp h with rfl | rfl | rfl <;>
    exact List.nodup_range.map fun a b h => by simp only [cellAt] at h; omega

private theorem together_of_mem_units {i x y : Nat} (hi : i < 9) {unit : List Nat}
    (h : unit ∈ units i) (hx : x ∈ unit) (hy : y ∈ unit) : x < cellCount ∧ Together x y := by
  rcases mem_units.mp h with rfl | rfl | rfl
  · rw [mem_rowCells hi] at hx hy
    exact ⟨hx.1, .inl (hx.2.trans hy.2.symm)⟩
  · rw [mem_colCells hi] at hx hy
    exact ⟨hx.1, .inr (.inl (hx.2.trans hy.2.symm))⟩
  · rw [mem_boxCells (by omega) (by omega)] at hx hy
    exact ⟨hx.1, .inr (.inr ⟨hx.2.1.trans hy.2.1.symm, hx.2.2.trans hy.2.2.symm⟩)⟩

private theorem exists_unit {x y : Nat} (hx : x < cellCount) (hy : y < cellCount)
    (h : Together x y) : ∃ i < 9, ∃ unit ∈ units i, x ∈ unit ∧ y ∈ unit := by
  have hrow : rowOf x < 9 := by simp only [rowOf, cellCount] at *; omega
  have hcol : colOf x < 9 := by simp only [colOf]; omega
  rcases h with h | h | ⟨hband, hstack⟩
  · refine ⟨rowOf x, hrow, rowCells (rowOf x), mem_units.mpr (.inl rfl), ?_⟩
    exact ⟨(mem_rowCells hrow).mpr ⟨hx, rfl⟩, (mem_rowCells hrow).mpr ⟨hy, h.symm⟩⟩
  · refine ⟨colOf x, hcol, colCells (colOf x), mem_units.mpr (.inr (.inl rfl)), ?_⟩
    exact ⟨(mem_colCells hcol).mpr ⟨hx, rfl⟩, (mem_colCells hcol).mpr ⟨hy, h.symm⟩⟩
  · -- the boxes are numbered band by band
    refine ⟨rowOf x / 3 * 3 + colOf x / 3, by omega, _, mem_units.mpr (.inr (.inr rfl)), ?_⟩
    have hb : (rowOf x / 3 * 3 + colOf x / 3) / 3 = rowOf x / 3 := by omega
    have hs : (rowOf x / 3 * 3 + colOf x / 3) % 3 = colOf x / 3 := by omega
    rw [hb, hs, mem_boxCells (by omega) (by omega), mem_boxCells (by omega) (by omega)]
    exact ⟨⟨hx, rfl, rfl⟩, hy, hband.symm, hstack.symm⟩

namespace Grid

private theorem sorts_to_digits_iff {values : List Nat} :
    (values.mergeSort == digits) = true ↔ values.Perm digits := by
  rw [beq_iff_eq]
  have hp := List.mergeSort_perm values (fun a b => decide (a ≤ b))
  constructor
  · intro h
    rw [h] at hp
    exact hp.symm
  · intro hd
    have hsorted : values.mergeSort.Pairwise (fun a b => decide (a ≤ b) = true) :=
      List.pairwise_mergeSort (by grind) (by grind) values
    refine (hp.trans hd).eq_of_pairwise ?_ hsorted (by decide)
    intro a b _ _ hab hba
    exact Nat.le_antisymm (of_decide_eq_true hab) (of_decide_eq_true hba)

private theorem perm_digits_iff {values : List Nat} (hl : values.length = 9) :
    values.Perm digits ↔ (∀ value ∈ values, value ∈ digits) ∧ values.Nodup := by
  constructor
  · intro hp
    exact ⟨fun value hv => hp.mem_iff.mp hv, hp.nodup_iff.mpr (by decide)⟩
  · rintro ⟨hmem, hnodup⟩
    exact (hnodup.subperm hmem).perm_of_length_le (by rw [hl]; decide)

theorem isSolution_iff_perm (g : Grid) :
    g.isSolution = true ↔ ∀ i < 9, ∀ unit ∈ units i, (unit.map g.get).Perm digits := by
  rw [isSolution, List.all_eq_true]
  refine forall_congr' fun i => ?_
  rw [List.mem_range, List.all_eq_true]
  exact imp_congr_right fun _ => forall_congr' fun unit => imp_congr_right fun _ => sorts_to_digits_iff

theorem isSolution_fallback : fallback.isSolution = true := by
  rw [isSolution_iff_perm]
  decide +kernel

private theorem isSolution_iff_units (g : Grid) : g.isSolution = true ↔
    ∀ i < 9, ∀ unit ∈ units i,
      (∀ x ∈ unit, g.get x ∈ digits) ∧ ∀ x ∈ unit, ∀ y ∈ unit, g.get x = g.get y → x = y := by
  rw [isSolution_iff_perm]
  refine forall_congr' fun i => imp_congr_right fun _ => forall_congr' fun unit =>
    forall_congr' fun hu => ?_
  rw [perm_digits_iff (by rw [List.length_map, length_of_mem_units hu]),
    List.nodup_map_iff_inj_on (nodup_of_mem_units hu), List.forall_mem_map]

/-- The checker accepts the grids of digits in which no cell has the digit of a peer. -/
theorem isSolution_iff (g : Grid) : g.isSolution = true ↔
    (∀ x < cellCount, g.get x ∈ digits) ∧
      ∀ x < cellCount, ∀ y ∈ peers x, g.get x ≠ g.get y := by
  rw [isSolution_iff_units]
  constructor
  · intro h
    refine ⟨fun x hx => ?_, fun x hx y hy he => ?_⟩
    · obtain ⟨i, hi, unit, hu, hxu, _⟩ := exists_unit hx hx (.inl rfl)
      exact (h i hi unit hu).1 x hxu
    · obtain ⟨hlt, hne, ht⟩ := (mem_peers hx).mp hy
      obtain ⟨i, hi, unit, hu, hxu, hyu⟩ := exists_unit hx hlt ht
      exact hne ((h i hi unit hu).2 x hxu y hyu he).symm
  · rintro ⟨hdigit, hpeer⟩ i hi unit hu
    refine ⟨fun x hx => hdigit x (together_of_mem_units hi hu hx hx).1, fun x hx y hy he => ?_⟩
    obtain ⟨hlt, ht⟩ := together_of_mem_units hi hu hx hy
    by_contra hne
    have hp := (mem_peers hlt).mpr ⟨(together_of_mem_units hi hu hy hx).1, Ne.symm hne, ht⟩
    exact hpeer x hlt y hp he

end Grid

end ConstraintSearch.Sudoku
