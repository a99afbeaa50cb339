import ConstraintSearch.Proofs.Search.Completions
import ConstraintSearch.Proofs.Search.Refinement
import ConstraintSearch.Proofs.Search.Stack
import ConstraintSearch.Search.Engine

/-! What a search reports after any number of steps. A search that runs to its end takes some number
of steps, and only a report of a finished search has a solution. -/
namespace ConstraintSearch
variable {σ V : Type}

namespace Search
variable {m : Model V} {o : ValueOrder σ V} {givens a : Assignment V} {frames : List (Frame V)}
  {s : Search σ V}

theorem after_succ (n : Nat) (s : Search σ V) : after m o (n + 1) s = after m o n (step m o s).2 := by
  induction n with
  | zero => rfl
  | succ n ih => exact congrArg (fun t => (step m o t).2) ih

theorem exists_after_eq_run (s : Search σ V) : ∃ n, after m o n s = run m o s := by
  induction s using (follows_wellFounded m o).induction with
  | _ s ih =>
    by_cases h : s.status = .running
    · obtain ⟨n, hn⟩ := ih _ ⟨h, rfl⟩
      refine ⟨n + 1, ?_⟩
      rw [after_succ, hn, run_of_running h, step_of_running h]
    · exact ⟨0, (run_of_finished h).symm⟩

private theorem Grounded.mem_domain (ho : o.Permutes m) (h : Grounded m o givens a frames)
    {var : Nat} {value : V} (hg : givens.get? var = none) (hv : a.get? var = some value) :
    value ∈ m.domain var := by
  induction h with
  | base =>
    rw [hg] at hv
    cases hv
  | @push a _ first _ last tried ahead _ hopen harranged _ ih =>
    obtain ⟨hlt, _⟩ := lt_of_openVariables_eq hopen
    by_cases he : var = first
    · obtain ⟨memory, heq⟩ := harranged
      have hsize : first < a.size := by
        have hlast := Assignment.lt_size_of_get? hv
        rwa [Assignment.size_assign, he] at hlast
      rw [he, Assignment.get?_assign_self hsize] at hv
      rw [he, ← (ho first hlt memory).mem_iff, ← heq, ← Option.some.inj hv]
      simp
    · rw [a.get?_assign_of_ne he] at hv
      exact ih hv

private theorem report_eq_solved {found : Assignment V} (h : s.report.outcome = .solved found) :
    s.status = .solved ∧ s.assignment = found := by
  unfold report at h
  cases hs : s.status with
  | solved =>
    rw [hs] at h
    exact ⟨rfl, Outcome.solved.inj h⟩
  | running =>
    rw [hs] at h
    cases h
  | unsatisfiable =>
    rw [hs] at h
    cases h

end Search

/-- If there is a solution, it has so many slots. -/
def Report.Fits (report : Report V) (count : Nat) : Prop :=
  ∀ found, report.outcome = .solved found → found.size = count

theorem Report.Fits.iff {report : Report V} {size : Nat} (h : report.Fits size) (count : Nat) :
    report.Fits count ↔ (report.outcome.isSolved = true → size = count) := by
  constructor
  · intro hc hs
    obtain ⟨found, hf⟩ := Outcome.isSolved_iff.mp hs
    exact (h found hf).symm.trans (hc found hf)
  · intro hs found hf
    exact (h found hf).trans (hs (Outcome.isSolved_iff.mpr ⟨found, hf⟩))

/-- What a puzzle of so many variables shows of a report when it has no givens. -/
def Report.shown (report : Report V) (count : Nat) : Assignment V :=
  report.outcome.solution?.getD (.blank count)

theorem Report.size_shown_eq_iff {report : Report V} {count : Nat} :
    (report.shown count).size = count ↔ report.Fits count := by
  rw [shown, Fits]
  cases report.outcome with
  | solved found =>
    refine ⟨?_, fun h => h found rfl⟩
    rintro h _ ⟨⟩
    exact h
  | unsatisfiable =>
    refine ⟨?_, fun _ => Assignment.size_blank count⟩
    rintro _ _ ⟨⟩

namespace Engine
variable {m : Model V} {givens found : Assignment V} {report : Report V}

/-- The engine reports this of a search from the givens, which is finished or broken off after some
steps. -/
def Reports (e : Engine σ V) (m : Model V) (givens : Assignment V) (report : Report V) : Prop :=
  ∃ s n, e.search m givens = .ok s ∧ report = (Search.after m e.order n s).report

theorem Reports.of_solve {e e' : Engine σ V} (h : e.solve m givens = .ok (report, e')) :
    e.Reports m givens report := by
  unfold solve at h
  obtain ⟨s, hs, h⟩ := Failure.bind_eq_ok h
  cases h
  obtain ⟨n, hn⟩ := Search.exists_after_eq_run (m := m) (o := e.order) s
  exact ⟨s, n, hs, by rw [hn]⟩

/-- A solution in a report has all values, and they come from the givens by frames of the search. -/
theorem Reports.grounded {e : Engine σ V} (h : e.Reports m givens report)
    (hf : report.outcome = .solved found) :
    givens.size = m.count ∧ found.isComplete = true ∧
      ∃ frames, Search.Grounded m e.order givens found frames := by
  obtain ⟨s, n, hs, rfl⟩ := h
  have hsize := (Search.start_eq_ok hs).2.1
  have hstacked := Search.Stacked.after hs n
  obtain ⟨hstatus, rfl⟩ := Search.report_eq_solved hf
  exact ⟨hsize, hstacked.isComplete hsize hstatus, hstacked.grounded⟩

theorem Reports.size_eq {e : Engine σ V} (h : e.Reports m givens report)
    (hf : report.outcome = .solved found) : found.size = m.count := by
  obtain ⟨hsize, _, _, hg⟩ := h.grounded hf
  exact hg.size_eq.trans hsize

theorem Reports.fits {e : Engine σ V} (h : e.Reports m givens report) :
    report.Fits givens.size :=
  fun _ hf => (h.size_eq hf).trans (h.grounded hf).1.symm

theorem Reports.keeps {e : Engine σ V} (h : e.Reports m givens report)
    (hf : report.outcome = .solved found) {var : Nat} {value : V}
    (hv : givens.get? var = some value) : found.get? var = some value := by
  obtain ⟨_, _, _, hg⟩ := h.grounded hf
  exact hg.keeps hv

/-- A value is a given or from the domain of its variable, when the order permutes the domains. -/
theorem Reports.mem_domain {e : Engine σ V} (h : e.Reports m givens report)
    (hf : report.outcome = .solved found) (ho : e.order.Permutes m) {var : Nat} {value : V}
    (hg : givens.get? var = none) (hv : found.get? var = some value) : value ∈ m.domain var := by
  obtain ⟨_, _, _, hground⟩ := h.grounded hf
  exact hground.mem_domain ho hg hv

end Engine

end ConstraintSearch
