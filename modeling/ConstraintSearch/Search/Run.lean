import ConstraintSearch.Search.State

/-!
Running a search to its end. It has one whatever the model and the value order are: a frame only
ever opens above frames of lower variables, and every list of values is finite.
-/

namespace ConstraintSearch.Search
variable {σ V : Type}

/-- One state follows another when it is a step of a running search. -/
def Follows (m : Model V) (o : ValueOrder σ V) (next s : Search σ V) : Prop :=
  s.status = .running ∧ next = (step m o s).2

theorem nextUnassigned_bounds {m : Model V} {a : Assignment V} {start var : Nat}
    (h : nextUnassigned m a start = some var) : start ≤ var ∧ var < m.count := by
  have hm := List.mem_of_find?_eq_some h
  rw [List.mem_range'_1] at hm
  omega

private theorem acc_of_finished (m : Model V) (o : ValueOrder σ V) (s : Search σ V)
    (h : s.status ≠ .running) : Acc (Follows m o) s :=
  ⟨s, fun _ hn => absurd hn.1 h⟩

private theorem acc_of_next (m : Model V) (o : ValueOrder σ V) (s : Search σ V)
    (h : s.status = .running → Acc (Follows m o) (advance m o s).2) : Acc (Follows m o) s := by
  refine ⟨s, fun next hn => ?_⟩
  obtain ⟨hr, rfl⟩ := hn
  rw [step, hr]
  exact h hr

private theorem acc_of_below (m : Model V) (o : ValueOrder σ V) (below : List (Frame V))
    (hb : ∀ a stats status memory, Acc (Follows m o) ⟨a, below, stats, status, memory⟩) :
    ∀ room var tried ahead a stats status memory, m.count - var ≤ room →
      Acc (Follows m o) ⟨a, ⟨var, tried, ahead⟩ :: below, stats, status, memory⟩ := by
  -- by the variables that are left, and for each frame by the values ahead
  intro room
  induction room generalizing below with
  | zero =>
    intro var tried ahead
    induction ahead generalizing tried with
    | nil =>
      intro a stats status memory _
      refine acc_of_next m o _ fun _ => ?_
      cases below with
      | nil => exact acc_of_finished m o _ (by simp [advance])
      | cons parent rest => exact hb _ _ _ _
    | cons value ahead ih =>
      intro a stats status memory hv
      refine acc_of_next m o _ fun _ => ?_
      rw [advance]
      split
      · dsimp only [descend]
        split
        · rename_i next hnext
          have := nextUnassigned_bounds hnext
          omega
        · exact acc_of_finished m o _ (by simp)
      · exact ih _ _ _ _ _ hv
  | succ room ihr =>
    intro var tried ahead
    induction ahead generalizing tried with
    | nil =>
      intro a stats status memory _
      refine acc_of_next m o _ fun _ => ?_
      cases below with
      | nil => exact acc_of_finished m o _ (by simp [advance])
      | cons parent rest => exact hb _ _ _ _
    | cons value ahead ih =>
      intro a stats status memory hv
      refine acc_of_next m o _ fun _ => ?_
      rw [advance]
      split
      · dsimp only [descend]
        split
        · rename_i next hnext
          have hn := nextUnassigned_bounds hnext
          exact ihr (⟨var, value :: tried, ahead⟩ :: below)
            (fun _ _ _ _ => ih _ _ _ _ _ hv) _ _ _ _ _ _ _ (by omega)
        · exact acc_of_finished m o _ (by simp)
      · exact ih _ _ _ _ _ hv

/-- No search goes on for ever. -/
theorem follows_wellFounded (m : Model V) (o : ValueOrder σ V) : WellFounded (Follows m o) := by
  refine ⟨fun ⟨a, frames, stats, status, memory⟩ => ?_⟩
  induction frames generalizing a stats status memory with
  | nil => exact acc_of_next m o _ fun _ => acc_of_finished m o _ (by simp [advance])
  | cons frame below ih =>
    exact acc_of_below m o below (fun _ _ _ _ => ih _ _ _ _) _ frame.var frame.tried frame.ahead
      a stats status memory (Nat.le_refl _)

def run (m : Model V) (o : ValueOrder σ V) (s : Search σ V) : Search σ V :=
  if h : s.status = .running then
    have : Follows m o (step m o s).2 s := ⟨h, rfl⟩
    run m o (step m o s).2
  else s
termination_by (follows_wellFounded m o).wrap s

/-- Steps until the search is finished and tells each event with the depth after it. The events
come after those already told, of which the latest is first. -/
def trace (m : Model V) (o : ValueOrder σ V) (told : List (Event V × Nat)) (s : Search σ V) :
    List (Event V × Nat) × Search σ V :=
  if h : s.status = .running then
    have : Follows m o (step m o s).2 s := ⟨h, rfl⟩
    trace m o (((step m o s).1, (step m o s).2.depth) :: told) (step m o s).2
  else (told.reverse, s)
termination_by (follows_wellFounded m o).wrap s

end ConstraintSearch.Search
