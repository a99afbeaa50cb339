import ConstraintSearch.Colouring.Map
import ConstraintSearch.Proofs.History
import ConstraintSearch.Proofs.Search.Solutions
import ConstraintSearch.Queens.Board

/-! What is left of a puzzle without givens when a report was applied and the puzzle was reset. All
values are gone, but a report decides how many slots are displayed, and resetting keeps their number. -/
namespace ConstraintSearch.Puzzle
variable {P V : Type} [Puzzle P V] {p shown q : P} {count : Nat} {report : Report V}

/-- A puzzle of so many variables after the report was applied and the puzzle was reset. -/
structure Emptied (p : P) (count : Nat) (report : Report V) (q : P) : Prop where
  /-- Neither request is refused. -/
  after : ∃ shown, apply p report = .ok shown ∧ reset shown = .ok q
  reset_eq : reset q = .ok q
  model_eq : model q = model p
  initial_eq : initial p = .ok (.blank count) ∧ initial q = .ok (.blank count)
  stats_eq : stats q = {}
  get?_eq : ∀ var, (displayed q).get? var = none
  size_eq : (displayed q).size = (report.shown count).size
  /-- It displays what a search starts from exactly if a solution had a slot for each variable. -/
  displayed_eq_iff : displayed q = .blank count ↔ report.Fits count
  /-- The solution of another puzzle of the kind had a slot for each variable of that one. -/
  displayed_eq_iff_of_reports : ∀ {σ : Type} {e : Engine σ V} {other : P} {size : Nat},
    initial other = .ok (.blank size) → Reports other e report →
      (displayed q = .blank count ↔ (report.outcome.isSolved = true → size = count))

private theorem emptied_of_clear (hi : initial p = .ok (.blank count))
    (ha : apply p report = .ok shown) (hr : reset shown = .ok q) (hagain : reset q = .ok q)
    (hm : model q = model p) (hq : initial q = .ok (.blank count)) (hs : stats q = {})
    (hd : displayed q = (report.shown count).clear) : Emptied p count report q := by
  have hiff : displayed q = .blank count ↔ report.Fits count := by
    rw [hd, Assignment.clear, ← Report.size_shown_eq_iff]
    constructor
    · intro h
      rw [← Assignment.size_blank (V := V) (report.shown count).size, h, Assignment.size_blank]
    · intro h
      rw [h]
  refine ⟨⟨shown, ha, hr⟩, hagain, hm, ⟨hi, hq⟩, hs, fun var => ?_, ?_, hiff, fun hother h => ?_⟩
  · rw [hd, Assignment.clear, Assignment.get?_blank]
  · rw [hd, Assignment.clear, Assignment.size_blank]
  · have hfits := h.fits hother
    rw [Assignment.size_blank] at hfits
    exact hiff.trans (hfits.iff count)

/-- Maps and boards are reset without values and counters after any report, and a second reset changes
nothing. Only a solution with more slots or fewer leaves its number of them behind. -/
theorem emptied_reset_apply (m : Colouring.Map) (colours : Report Colouring.Colour)
    (b : Queens.Board) (rows : Report Nat) :
    Emptied m m.regions.length colours (m.apply colours).reset ∧
      Emptied b b.size rows (b.apply rows).reset := by
  constructor
  · refine emptied_of_clear rfl rfl rfl (congrArg Except.ok ?_) rfl rfl rfl rfl
    rw [Colouring.Map.reset, Colouring.Map.reset, Assignment.clear_clear]
  · refine emptied_of_clear rfl rfl rfl (congrArg Except.ok ?_) rfl rfl rfl rfl
    rw [Queens.Board.reset, Queens.Board.reset, Assignment.clear_clear]

/-- A map of three regions that is given the solution for a map of two, and reset. It displays two
regions from then on, while a search starts from three. -/
theorem reset_keeps_slots_of_other_map : ∃ m other report,
    Colouring.Map.ofEdges 3 [(0, 1), (1, 2)] = .ok m ∧
    Colouring.Map.ofEdges 2 [(0, 1)] = .ok other ∧
    Reports other (⟨.natural, ()⟩ : Engine Unit Colouring.Colour) report ∧
    displayed (m.apply report).reset = .blank 2 ∧ initial (m.apply report).reset = .ok (.blank 3) ∧
    .ok (displayed (m.apply report).reset) ≠ initial (m.apply report).reset := by
  refine ⟨_, _, _, rfl, rfl, ⟨_, rfl, .of_solve (Engine.solve_eq rfl rfl)⟩, ?_, rfl, ?_⟩
  · decide +kernel
  · intro h
    have hsize := congrArg Assignment.size (Except.ok.inj h)
    revert hsize
    decide +kernel

end ConstraintSearch.Puzzle
