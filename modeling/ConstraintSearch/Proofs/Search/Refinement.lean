import ConstraintSearch.Proofs.Search.OpenVariables
import ConstraintSearch.Proofs.Search.Transition
import ConstraintSearch.Queens.Model

/-! The stepping machine computes the recursive search. Nothing is asked of the model's check or of
the value order: lists may be empty, repeat values or leave the domain. -/
namespace ConstraintSearch.Search
variable {σ V : Type}

def Result.report (r : Result σ V) : Report V :=
  match r.found with
  | some found => ⟨.solved found, r.stats⟩
  | none => ⟨.unsatisfiable, r.stats⟩

/-- The recursion from any assignment: all variables without a value are still to be decided. -/
def explore (m : Model V) (o : ValueOrder σ V) (a : Assignment V) (stats : Stats) (memory : σ) :
    Result σ V :=
  decide m o (openVariables m a) a stats memory

/-- Where a search is once its deepest frame is closed: the value of the frame above is taken back,
and without a frame above the search has failed. -/
def retreat (a : Assignment V) (stats : Stats) (memory : σ) : List (Frame V) → Search σ V
  | [] => ⟨a, [], stats, .unsatisfiable, memory⟩
  | parent :: below =>
    let stats := { stats with backtracks := stats.backtracks + 1 }
    ⟨a.unassign parent.var, parent :: below, stats, .running, memory⟩

/-- A state whose deepest frame stands on `below` runs as the recursion `r` says: it ends with what
was found, or it goes on where that frame is closed. -/
def Concludes (m : Model V) (o : ValueOrder σ V) (a : Assignment V) (below : List (Frame V))
    (r : Result σ V) (s : Search σ V) : Prop :=
  match r.found with
  | some found => ∃ frames, run m o s = ⟨found, frames, r.stats, .solved, r.memory⟩
  | none => run m o s = run m o (retreat a r.stats r.memory below)

section
variable {m : Model V} {o : ValueOrder σ V}

theorem run_of_running {s : Search σ V} (h : s.status = .running) :
    run m o s = run m o (advance m o s).2 := by
  rw [← step_of_running h]
  exact (run.eq_def m o s).trans (dif_pos h)

theorem run_of_finished {s : Search σ V} (h : s.status ≠ .running) : run m o s = s := by
  rw [run, dif_neg h]

theorem isFinished_run (s : Search σ V) : (run m o s).isFinished = true := by
  induction s using (follows_wellFounded m o).induction with
  | _ s ih =>
    by_cases h : s.status = .running
    · rw [run, dif_pos h]
      exact ih _ ⟨h, rfl⟩
    · rw [run_of_finished h]
      simp [isFinished, h]

private theorem concludes_of_run_eq {a : Assignment V} {below : List (Frame V)} {r : Result σ V}
    {s t : Search σ V} (he : run m o s = run m o t) (h : Concludes m o a below r t) :
    Concludes m o a below r s := by
  unfold Concludes at h ⊢
  rwa [he]

private theorem run_exhausted (a : Assignment V) (var : Nat) (tried : List V)
    (below : List (Frame V)) (stats : Stats) (memory : σ) :
    run m o ⟨a, ⟨var, tried, []⟩ :: below, stats, .running, memory⟩ =
      run m o (retreat a stats memory below) := by
  rw [run_of_running rfl]
  cases below <;> rfl

private theorem concludes_solved {a found : Assignment V} {below frames : List (Frame V)}
    {stats : Stats} {memory : σ} :
    Concludes m o a below ⟨some found, stats, memory⟩ ⟨found, frames, stats, .solved, memory⟩ :=
  ⟨frames, run_of_finished (by simp)⟩

private theorem concludes_tryValues {rest : List Nat} {var : Nat} {a : Assignment V}
    (ha : a.get? var = none) (below : List (Frame V))
    (hopen : ∀ (value : V) frames stats memory,
      Concludes m o (a.assign var value) frames
        (decide m o rest (a.assign var value) stats memory)
        (descend m o (var + 1) ⟨a.assign var value, frames, stats, .running, memory⟩))
    (ahead tried : List V) (stats : Stats) (memory : σ) :
    Concludes m o a below (tryValues m (decide m o rest) var a ahead stats memory)
      ⟨a, ⟨var, tried, ahead⟩ :: below, stats, .running, memory⟩ := by
  induction ahead generalizing tried stats memory with
  | nil => exact run_exhausted a var tried below stats memory
  | cons value ahead ih =>
    by_cases hc : m.consistent a var value = true
    · -- the value is assigned, and below it the search concludes by itself
      have hs := hopen value (⟨var, value :: tried, ahead⟩ :: below)
        { stats with checks := stats.checks + 1, nodes := stats.nodes + 1 } memory
      have hrun : run m o ⟨a, ⟨var, tried, value :: ahead⟩ :: below, stats, .running, memory⟩ =
          run m o (descend m o (var + 1) ⟨a.assign var value, ⟨var, value :: tried, ahead⟩ :: below,
            { stats with checks := stats.checks + 1, nodes := stats.nodes + 1 }, .running, memory⟩) := by
        rw [run_of_running rfl, advance, if_pos hc]
      rw [tryValues, if_pos hc]
      generalize decide m o rest (a.assign var value)
        { stats with checks := stats.checks + 1, nodes := stats.nodes + 1 } memory = r at hs ⊢
      obtain ⟨found, stats', memory'⟩ := r
      cases found with
      | some found =>
        obtain ⟨frames, hf⟩ := hs
        exact ⟨frames, hrun.trans hf⟩
      | none =>
        -- the machine takes the value back and stands again where it was, one value further
        have hback : retreat (a.assign var value) stats' memory'
            (⟨var, value :: tried, ahead⟩ :: below) =
              ⟨a, ⟨var, value :: tried, ahead⟩ :: below,
                { stats' with backtracks := stats'.backtracks + 1 }, .running, memory'⟩ := by
          rw [retreat, Assignment.unassign_assign ha]
        refine concludes_of_run_eq (hrun.trans (Eq.trans hs ?_)) (ih (value :: tried) _ memory')
        rw [← hback]
    · have hrun : run m o ⟨a, ⟨var, tried, value :: ahead⟩ :: below, stats, .running, memory⟩ =
          run m o ⟨a, ⟨var, value :: tried, ahead⟩ :: below,
            { stats with checks := stats.checks + 1 }, .running, memory⟩ := by
        rw [run_of_running rfl, advance, if_neg hc]
      rw [tryValues, if_neg hc]
      exact concludes_of_run_eq hrun (ih (value :: tried) _ memory)

private theorem concludes_descend (vars : List Nat) (start : Nat) (a : Assignment V)
    (h : openFrom m a start = vars) (below : List (Frame V)) (stats : Stats) (memory : σ) :
    Concludes m o a below (decide m o vars a stats memory)
      (descend m o start ⟨a, below, stats, .running, memory⟩) := by
  induction vars generalizing start a below stats memory with
  | nil =>
    have hn : nextUnassigned m a start = none := by rw [nextUnassigned_eq, h]; rfl
    rw [descend, hn]
    exact concludes_solved
  | cons var rest ih =>
    have hn : nextUnassigned m a start = some var := by rw [nextUnassigned_eq, h]; rfl
    have hv : var ∈ openFrom m a start := by rw [h]; exact List.mem_cons_self
    rw [descend, hn, decide]
    refine concludes_tryValues (mem_openFrom.mp hv).2.2 below ?_ _ _ _ _
    intro value frames stats memory
    refine ih (var + 1) (a.assign var value) ?_ frames stats memory
    rw [openFrom_assign m a (Nat.lt_succ_self var), openFrom_tail h]

private theorem tryValues_congr {f g : Assignment V → Stats → σ → Result σ V} {var : Nat}
    {a : Assignment V} (h : ∀ value, f (a.assign var value) = g (a.assign var value))
    (values : List V) (stats : Stats) (memory : σ) :
    tryValues m f var a values stats memory = tryValues m g var a values stats memory := by
  induction values generalizing stats memory with
  | nil => rfl
  | cons value values ih =>
    rw [tryValues, tryValues, h value]
    simp only [ih]

/-- The recursion succeeds when nothing is left to decide. Else it takes the lowest variable without
a value, asks the value order once, and tries the values of the answer in turn. -/
theorem explore_eq {a : Assignment V} (hs : a.size = m.count) (stats : Stats) (memory : σ) :
    explore m o a stats memory =
      match nextUnassigned m a 0 with
      | none => ⟨some a, stats, memory⟩
      | some var =>
        let (values, memory) := o.arrange var (m.domain var) memory
        tryValues m (explore m o) var a values stats memory := by
  rw [explore, nextUnassigned_eq, ← openVariables_eq]
  cases h : openVariables m a with
  | nil => rfl
  | cons var rest =>
    refine tryValues_congr (fun value => ?_) _ _ _
    funext stats memory
    rw [explore, openVariables_assign hs h]

end

theorem agrees_iff_forall_lt {m : Model V} {a : Assignment V} : m.agrees a = true ↔
    ∀ var < a.size, ∀ value ∈ a.get? var, m.consistent a var value = true := by
  rw [Model.agrees_eq_true_iff]
  exact forall_congr' fun var =>
    ⟨fun h _ value hv => h value hv, fun h value hv => h (Assignment.lt_size_of_get? hv) value hv⟩

/-- The end of an accepted search is the result of the recursion. -/
theorem run_eq_solveRecursively {m : Model V} {o : ValueOrder σ V} {memory : σ}
    {givens : Assignment V} {s : Search σ V} (h : start m o memory givens = .ok s) :
    (run m o s).report = (solveRecursively m o givens memory).report ∧
      (run m o s).memory = (solveRecursively m o givens memory).memory := by
  obtain ⟨_, _, rfl⟩ := start_eq_ok h
  rw [solveRecursively]
  by_cases ha : m.agrees givens = true
  · rw [if_pos ha, if_pos ha, openVariables_eq]
    have hc := concludes_descend (m := m) (o := o) _ 0 givens rfl [] {} memory
    generalize decide m o (openFrom m givens 0) givens {} memory = r at hc ⊢
    obtain ⟨found, stats, memory⟩ := r
    cases found with
    | some found =>
      obtain ⟨frames, hf⟩ := hc
      rw [hf]
      exact ⟨rfl, rfl⟩
    | none =>
      have hf := Eq.trans hc (run_of_finished (by simp [retreat]))
      rw [hf]
      exact ⟨rfl, rfl⟩
  · rw [if_neg ha, if_neg ha, run_of_finished (by simp)]
    exact ⟨rfl, rfl⟩

/-- Run to its end, the machine has the assignment or the failure of the recursion, the same
counters, and leaves the value order with the same memory. The memory is of any type, so it may be
the list of all questions that were asked. The recursion fails at once on conflicting givens; else
it takes the lowest variable without a value at every turn. -/
theorem run_eq_recursion {m : Model V} {o : ValueOrder σ V} {memory : σ} {givens : Assignment V}
    {s : Search σ V} (h : start m o memory givens = .ok s) :
    let r := if ∀ var < givens.size, ∀ value ∈ givens.get? var, m.consistent givens var value = true
      then explore m o givens {} memory else ⟨none, {}, memory⟩
    ((run m o s).isFinished = true ∧ (run m o s).report = r.report ∧ (run m o s).memory = r.memory) ∧
      ∀ a stats memory, a.size = m.count → explore m o a stats memory =
        match nextUnassigned m a 0 with
        | none => ⟨some a, stats, memory⟩
        | some var =>
          let (values, memory) := o.arrange var (m.domain var) memory
          tryValues m (explore m o) var a values stats memory := by
  obtain ⟨hreport, hmemory⟩ := run_eq_solveRecursively h
  simp only [solveRecursively, agrees_iff_forall_lt] at hreport hmemory
  exact ⟨⟨isFinished_run s, hreport, hmemory⟩, fun _ stats memory hs => explore_eq hs stats memory⟩

/-- An order that turns the domain round on every second question and adds a number outside it. The
last column is given, and the first value of column 0 is taken back. -/
theorem run_eq_recursion_of_given_queen :
    let o : ValueOrder Nat Nat := ⟨fun _ domain asked =>
      (if asked % 2 = 0 then domain else domain.reverse ++ [7, 7], asked + 1)⟩
    let givens : Assignment Nat := .ofList [none, none, none, some 1]
    ∃ s, start (Queens.model 4) o 4 givens = .ok s ∧
      (run (Queens.model 4) o s).report =
        ⟨.solved (.ofList [some 0, some 7, some 3, some 1]),
          { nodes := 4, checks := 11, backtracks := 1 }⟩ ∧
      (run (Queens.model 4) o s).memory = 8 := by
  intro o givens
  have h : start (Queens.model 4) o 4 givens =
      .ok (descend (Queens.model 4) o 0 ⟨givens, [], {}, .running, 4⟩) := rfl
  obtain ⟨⟨_, hr, hm⟩, _⟩ := run_eq_recursion h
  exact ⟨_, h, hr.trans rfl, hm.trans rfl⟩

end ConstraintSearch.Search
