import ConstraintSearch.Proofs.Search.Pausing

/-! Value orders that do not learn from being asked. A search leaves an engine with such an order as
it was. -/
namespace ConstraintSearch
variable {σ V : Type}

/-- An order that remembers nothing new from being asked. -/
def ValueOrder.KeepsMemory (o : ValueOrder σ V) : Prop :=
  ∀ var domain memory, (o.arrange var domain memory).2 = memory

theorem ValueOrder.natural_keepsMemory : (natural : ValueOrder σ V).KeepsMemory :=
  fun _ _ _ => rfl

namespace Search
variable {m : Model V} {o : ValueOrder σ V}

private theorem memory_descend (h : o.KeepsMemory) (start : Nat) (s : Search σ V) :
    (descend m o start s).memory = s.memory := by
  unfold descend
  split
  · exact h _ _ _
  · rfl

private theorem memory_step (h : o.KeepsMemory) (s : Search σ V) :
    (step m o s).2.memory = s.memory := by
  obtain ⟨a, frames, stats, status, memory⟩ := s
  cases status with
  | solved => rfl
  | unsatisfiable => rfl
  | running =>
    rw [step_of_running rfl]
    match frames with
    | [] => rfl
    | [⟨_, _, []⟩] => rfl
    | ⟨_, _, []⟩ :: _ :: _ => rfl
    | ⟨var, tried, value :: ahead⟩ :: below =>
      rw [advance]
      split
      · exact memory_descend h _ _
      · rfl

theorem memory_after (h : o.KeepsMemory) (n : Nat) (s : Search σ V) :
    (after m o n s).memory = s.memory := by
  induction n with
  | zero => rfl
  | succ n ih => exact (memory_step h _).trans ih

private theorem memory_start (h : o.KeepsMemory) {memory : σ} {givens : Assignment V}
    {s : Search σ V} (hs : start m o memory givens = .ok s) : s.memory = memory := by
  obtain ⟨_, _, rfl⟩ := start_eq_ok hs
  split
  · exact memory_descend h _ _
  · rfl

end Search

theorem Engine.solve_keeps {e e' : Engine σ V} {m : Model V} {givens : Assignment V}
    {report : Report V} (ho : e.order.KeepsMemory) (h : e.solve m givens = .ok (report, e')) :
    e' = e := by
  unfold solve at h
  obtain ⟨s, hs, h⟩ := Failure.bind_eq_ok h
  cases h
  obtain ⟨n, hn⟩ := Search.exists_after_eq_run (m := m) (o := e.order) s
  rw [resume, ← hn, Search.memory_after ho, Search.memory_start ho hs]

end ConstraintSearch
