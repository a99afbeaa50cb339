import ConstraintSearch.Proofs.Constraint
import ConstraintSearch.Proofs.Search.Stack

/-! Searches over models given by constraints. A value is checked once, when it is assigned; still, no
constraint is broken later on, also after values were taken back. -/
namespace ConstraintSearch.Search
variable {σ V : Type} {m : Model V} {o : ValueOrder σ V} {constraints : List (Constraint V)}
  {givens a : Assignment V} {frames : List (Frame V)} {s : Search σ V}

/-- The value of each frame passed the check when it came on the stack, so that together with the
givens they break no constraint. -/
theorem Grounded.coherent (hm : m.GivenBy constraints) (hs : givens.size = m.count)
    (hg : Coherent constraints givens) (h : Grounded m o givens a frames) :
    Coherent constraints a := by
  induction h with
  | base => exact hg
  | push h ho _ hc ih =>
    have hvar := (lt_of_openVariables_eq ho).1
    exact (hm.consistent_iff_coherent (h.size_eq.trans hs) hvar ih _).mp hc

private theorem agrees_of_start {memory : σ} (h : start m o memory givens = .ok s)
    (hn : s.status ≠ .unsatisfiable) : m.agrees givens = true := by
  obtain ⟨_, _, rfl⟩ := start_eq_ok h
  refine Decidable.byContradiction fun ha => hn ?_
  rw [if_neg ha]

/-- After any number of steps, every value that is assigned passes the check against the others: the
givens and the values that were decided. -/
theorem consistent_after {memory : σ} (hm : m.GivenBy constraints)
    (h : start m o memory givens = .ok s) (hn : s.status ≠ .unsatisfiable) (n : Nat) :
    ∀ var value, (after m o n s).assignment.get? var = some value →
      m.consistent (after m o n s).assignment var value = true := by
  obtain ⟨_, hs, _⟩ := start_eq_ok h
  obtain ⟨frames, hg⟩ := (Stacked.after h n).grounded
  have hgivens := (hm.agrees_iff hs).mp (agrees_of_start h hn)
  exact Model.agrees_eq_true_iff.mp
    ((hm.agrees_iff (hg.size_eq.trans hs)).mpr (hg.coherent hm hs hgivens))

/-- Three numbers of sum six, the first below the second, the second given and the third at most one:
with one in the first place there is nothing for the third, and the one is taken back. -/
theorem consistent_after_of_sum :
    let constraints : List (Constraint Nat) :=
      [⟨[0, 1], by decide, fun xs => xs.getD 0 0 < xs.getD 1 0⟩,
        ⟨[2, 0, 1], by decide, fun xs => xs.foldl (· + ·) 0 = 6⟩]
    let m := Model.ofConstraints [[1, 2, 3], [1, 2, 3], [1]] constraints
    let o : ValueOrder Unit Nat := .natural
    let givens : Assignment Nat := .ofList [none, some 3, none]
    m.GivenBy constraints ∧ ∃ s, start m o () givens = .ok s ∧ s.status ≠ .unsatisfiable ∧
      (step m o (after m o 2 s)).1 = .backtracked 0 ∧
      (after m o 6 s).assignment = .ofList [some 2, some 3, some 1] ∧
      ∀ n ∈ [3, 6], ∀ var value, (after m o n s).assignment.get? var = some value →
        m.consistent (after m o n s).assignment var value = true := by
  intro constraints m o givens
  have hm : m.GivenBy constraints := Model.givenBy_ofConstraints (by decide)
  have h : start m o () givens = .ok (descend m o 0 ⟨givens, [], {}, .running, ()⟩) := rfl
  have hn : (descend m o 0 ⟨givens, [], {}, .running, ()⟩).status ≠ .unsatisfiable := by decide
  exact ⟨hm, _, h, hn, by decide +kernel, by decide +kernel, fun n _ => consistent_after hm h hn n⟩

end ConstraintSearch.Search
