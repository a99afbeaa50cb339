import ConstraintSearch.Proofs.Search.Reports
import ConstraintSearch.Puzzle

/-! What becomes of a puzzle that is edited, searched and reset, one after the other in any order.
What holds at first and is kept by edits, by resetting and by the reports of its own searches holds
throughout. -/
namespace ConstraintSearch.Puzzle
variable {P V σ : Type} [Puzzle P V]

/-- A search that the puzzle hands out to the engine reports this, finished or broken off. -/
def Reports (p : P) (e : Engine σ V) (report : Report V) : Prop :=
  ∃ givens, initial p = .ok givens ∧ e.Reports (model p) givens report

theorem Reports.fits {p : P} {e : Engine σ V} {report : Report V} {givens : Assignment V}
    (h : Reports p e report) (hi : initial p = .ok givens) : report.Fits givens.size := by
  obtain ⟨_, hi', hr⟩ := h
  cases hi.symm.trans hi'
  exact hr.fits

theorem reports_of_solve {p p' : P} {e e' : Engine σ V} {report : Report V}
    (h : solve p e = .ok (report, p', e')) : Reports p e report ∧ apply p report = .ok p' := by
  unfold solve at h
  obtain ⟨givens, hi, h⟩ := Failure.bind_eq_ok h
  obtain ⟨answer, hs, h⟩ := Failure.bind_eq_ok h
  obtain ⟨_, ha, h⟩ := Failure.bind_eq_ok h
  cases h
  exact ⟨⟨givens, hi, .of_solve hs⟩, ha⟩

/-- The puzzles on the way from the first one, the latest of them first, and the present one. The
engines permute the domains. A report may come from a search that any of these puzzles handed out,
as often as wanted. -/
inductive History (edits : P → P → Prop) (first : P) : List P → P → Prop
  | start : History edits first [] first
  | edit {past : List P} {p p' : P} (h : History edits first past p) (he : edits p p') :
      History edits first (p :: past) p'
  | solve {past : List P} {p p' : P} {σ : Type} {e e' : Engine σ V} {report : Report V}
      (h : History edits first past p) (ho : e.order.Permutes (model p))
      (hs : solve p e = .ok (report, p', e')) : History edits first (p :: past) p'
  | apply {past : List P} {p p' earlier : P} {σ : Type} {e : Engine σ V} {report : Report V}
      (h : History edits first past p) (hm : earlier ∈ p :: past)
      (ho : e.order.Permutes (model earlier)) (hr : Reports earlier e report)
      (ha : apply p report = .ok p') : History edits first (p :: past) p'
  | reset {past : List P} {p p' : P} (h : History edits first past p) (hr : reset p = .ok p') :
      History edits first (p :: past) p'

/-- What holds of the first puzzle and is kept by all that can be done holds of the present one and
of those on the way. -/
theorem History.invariant {edits : P → P → Prop} {first p : P} {past : List P} {I : P → Prop}
    (hfirst : I first) (hedit : ∀ p p', I p → edits p p' → I p')
    (happly : ∀ {σ : Type} (p p' earlier : P) (e : Engine σ V) (report : Report V), I p → I earlier →
      e.order.Permutes (model earlier) → Reports earlier e report → Puzzle.apply p report = .ok p' →
      I p')
    (hreset : ∀ p p', I p → Puzzle.reset p = .ok p' → I p') (h : History edits first past p) :
    ∀ q ∈ p :: past, I q := by
  induction h with
  | start => exact fun q hq => List.mem_singleton.mp hq ▸ hfirst
  | @edit past p p' _ he ih =>
    exact List.forall_mem_cons.mpr ⟨hedit p p' (ih p List.mem_cons_self) he, ih⟩
  | @solve past p p' _ e _ report _ ho hs ih =>
    obtain ⟨hr, ha⟩ := reports_of_solve hs
    have hp := ih p List.mem_cons_self
    exact List.forall_mem_cons.mpr ⟨happly p p' p e report hp hp ho hr ha, ih⟩
  | @apply past p p' earlier _ e report _ hm ho hr ha ih =>
    have hp := ih p List.mem_cons_self
    exact List.forall_mem_cons.mpr ⟨happly p p' earlier e report hp (ih earlier hm) ho hr ha, ih⟩
  | @reset past p p' _ hr ih =>
    exact List.forall_mem_cons.mpr ⟨hreset p p' (ih p List.mem_cons_self) hr, ih⟩

end ConstraintSearch.Puzzle
