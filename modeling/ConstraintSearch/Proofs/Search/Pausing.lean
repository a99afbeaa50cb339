import ConstraintSearch.Proofs.Search.Reports

/-! Searches that are paused, or stepped by somebody else until they are finished. They come to the
same end as a search that runs at once. -/
namespace ConstraintSearch.Search
variable {σ V : Type} {m : Model V} {o : ValueOrder σ V}

theorem isFinished_iff {s : Search σ V} : s.isFinished = true ↔ s.status ≠ .running := by
  rw [isFinished, bne_iff_ne]

theorem run_step (s : Search σ V) : run m o (step m o s).2 = run m o s := by
  by_cases h : s.status = .running
  · rw [run_of_running h, step_of_running h]
  · rw [step_of_finished h]

/-- A search that goes on after a pause ends as if there had been none. -/
theorem run_after (k : Nat) (s : Search σ V) : run m o (after m o k s) = run m o s := by
  induction k with
  | zero => rfl
  | succ k ih => exact (run_step _).trans ih

theorem after_of_finished {s : Search σ V} (h : s.status ≠ .running) (k : Nat) :
    after m o k s = s := by
  induction k with
  | zero => rfl
  | succ k ih => rw [after, ih, step_of_finished h]

/-- There is a number of steps that finishes the search. Fewer do not, and more change nothing. -/
theorem exists_finished_iff_le (s : Search σ V) :
    ∃ n, ∀ k, ((after m o k s).isFinished = true ↔ n ≤ k) ∧
      (n ≤ k → after m o k s = run m o s) := by
  induction s using (follows_wellFounded m o).induction with
  | _ s ih =>
    by_cases h : s.status = .running
    · obtain ⟨n, hn⟩ := ih _ ⟨h, rfl⟩
      refine ⟨n + 1, fun k => ?_⟩
      cases k with
      | zero =>
        refine ⟨iff_of_false (fun hf => isFinished_iff.mp hf h) (Nat.not_succ_le_zero n), ?_⟩
        exact fun hle => absurd hle (Nat.not_succ_le_zero n)
      | succ k =>
        rw [after_succ, ← run_step s, Nat.add_le_add_iff_right]
        exact hn k
    · refine ⟨0, fun k => ?_⟩
      rw [after_of_finished h, run_of_finished h]
      exact ⟨iff_of_true (isFinished_iff.mpr h) (Nat.zero_le k), fun _ => rfl⟩

/-- Telling the events changes nothing. -/
theorem trace_snd (told : List (Event V × Nat)) (s : Search σ V) :
    (trace m o told s).2 = run m o s := by
  induction s using (follows_wellFounded m o).induction generalizing told with
  | _ s ih =>
    by_cases h : s.status = .running
    · rw [trace, dif_pos h, ih _ ⟨h, rfl⟩, run_step]
    · rw [trace, dif_neg h, run_of_finished h]

end ConstraintSearch.Search
