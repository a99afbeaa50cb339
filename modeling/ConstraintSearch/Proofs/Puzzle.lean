import ConstraintSearch.Puzzle

/-! Solving a puzzle searches from its givens and applies the report. -/
namespace ConstraintSearch.Puzzle
variable {P V σ : Type} [Puzzle P V]

theorem solve_eq_ok {p p' : P} {e e' : Engine σ V} {givens : Assignment V} {report : Report V}
    (hi : initial p = .ok givens) (hs : e.solve (model p) givens = .ok (report, e'))
    (ha : apply p report = .ok p') : solve p e = .ok (report, p', e') := by
  unfold solve
  rw [hi]
  change (e.solve (model p) givens >>= _) = _
  rw [hs]
  change (apply p report >>= _) = _
  rw [ha]
  rfl

end ConstraintSearch.Puzzle
