import ConstraintSearch.Search.State

/-! The ways a running search moves, with a case for each, and the states it passes through. Nothing
else unfolds a step. -/
namespace ConstraintSearch

namespace Stats

def assigned (stats : Stats) : Stats :=
  { stats with checks := stats.checks + 1, nodes := stats.nodes + 1 }

def rejected (stats : Stats) : Stats := { stats with checks := stats.checks + 1 }

def backtracked (stats : Stats) : Stats := { stats with backtracks := stats.backtracks + 1 }

end Stats

namespace Search
variable {σ V : Type}

/-- A running search with frames moves from one state to the next and tells an event. A value fails
the check, or it passes and is assigned; a frame without values is closed, and the value of the
frame above it is taken back, if there is one. -/
inductive Moves (m : Model V) (o : ValueOrder σ V) : Search σ V → Event V → Search σ V → Prop where
  | reject {a : Assignment V} {var : Nat} {tried ahead : List V} {value : V}
      {below : List (Frame V)} {stats : Stats} {memory : σ}
      (hc : m.consistent a var value = false) :
      Moves m o ⟨a, ⟨var, tried, value :: ahead⟩ :: below, stats, .running, memory⟩
        (.rejected var value)
        ⟨a, ⟨var, value :: tried, ahead⟩ :: below,
          { stats with checks := stats.checks + 1 }, .running, memory⟩
  | assign {a : Assignment V} {var : Nat} {tried ahead : List V} {value : V}
      {below : List (Frame V)} {stats : Stats} {memory : σ}
      (hc : m.consistent a var value = true) :
      Moves m o ⟨a, ⟨var, tried, value :: ahead⟩ :: below, stats, .running, memory⟩
        (.assigned var value)
        (descend m o (var + 1) ⟨a.assign var value, ⟨var, value :: tried, ahead⟩ :: below,
          { stats with checks := stats.checks + 1, nodes := stats.nodes + 1 }, .running, memory⟩)
  | backtrack {a : Assignment V} {frame parent : Frame V} {below : List (Frame V)} {stats : Stats}
      {memory : σ} (hn : frame.ahead = []) :
      Moves m o ⟨a, frame :: parent :: below, stats, .running, memory⟩ (.backtracked parent.var)
        ⟨a.unassign parent.var, parent :: below,
          { stats with backtracks := stats.backtracks + 1 }, .running, memory⟩
  | fail {a : Assignment V} {frame : Frame V} {stats : Stats} {memory : σ}
      (hn : frame.ahead = []) :
      Moves m o ⟨a, [frame], stats, .running, memory⟩ (.finished .unsatisfiable)
        ⟨a, [], stats, .unsatisfiable, memory⟩

def after (m : Model V) (o : ValueOrder σ V) : Nat → Search σ V → Search σ V
  | 0, s => s
  | n + 1, s => (step m o (after m o n s)).2

theorem start_of_validate {m : Model V} {givens : Assignment V} (o : ValueOrder σ V) (memory : σ)
    (hv : m.validate = .ok ()) (hs : givens.size = m.count) : start m o memory givens =
      .ok (if m.agrees givens then descend m o 0 ⟨givens, [], {}, .running, memory⟩
        else ⟨givens, [], {}, .unsatisfiable, memory⟩) := by
  rw [start, hv]
  change (if givens.size ≠ m.count then _ else _) = _
  rw [if_neg (not_not_intro hs)]
  split <;> rfl

theorem start_eq_ok {m : Model V} {o : ValueOrder σ V} {memory : σ} {givens : Assignment V}
    {s : Search σ V} (h : start m o memory givens = .ok s) :
    m.validate = .ok () ∧ givens.size = m.count ∧
      s = if m.agrees givens then descend m o 0 ⟨givens, [], {}, .running, memory⟩
        else ⟨givens, [], {}, .unsatisfiable, memory⟩ := by
  unfold start at h
  obtain ⟨_, hv, h⟩ := Failure.bind_eq_ok h
  change (if givens.size ≠ m.count then _ else _) = Except.ok s at h
  split at h
  · cases h
  · rename_i hs
    refine ⟨hv, Decidable.not_not.mp hs, ?_⟩
    split at h <;> rename_i ha <;> cases h
    · rw [if_pos ha]
    · rw [if_neg ha]

section
variable {m : Model V} {o : ValueOrder σ V} {s : Search σ V}

theorem step_of_running (h : s.status = .running) : step m o s = advance m o s := by
  unfold step
  rw [h]

theorem step_of_finished (h : s.status ≠ .running) : step m o s = (.finished s.status, s) := by
  unfold step
  cases hs : s.status with
  | running => exact absurd hs h
  | solved => rfl
  | unsatisfiable => rfl

theorem moves_step (h : s.status = .running) (hf : s.frames ≠ []) :
    Moves m o s (step m o s).1 (step m o s).2 := by
  rw [step_of_running h]
  obtain ⟨a, frames, stats, status, memory⟩ := s
  obtain rfl : status = .running := h
  cases frames with
  | nil => exact absurd rfl hf
  | cons frame below =>
    obtain ⟨var, tried, ahead⟩ := frame
    cases ahead with
    | nil =>
      cases below with
      | nil => exact .fail rfl
      | cons parent below => exact .backtrack rfl
    | cons value ahead =>
      rw [advance]
      split
      · rename_i hc
        exact .assign hc
      · rename_i hc
        exact .reject (Bool.eq_false_iff.mpr hc)

/-- A frame is opened, or the search is solved. -/
theorem descend_eq (m : Model V) (o : ValueOrder σ V) (start : Nat) (s : Search σ V) :
    (∃ var, descend m o start s =
      { s with
        frames := ⟨var, [], (o.arrange var (m.domain var) s.memory).1⟩ :: s.frames
        memory := (o.arrange var (m.domain var) s.memory).2 }) ∨
      descend m o start s = { s with status := .solved } := by
  unfold descend
  split
  · exact .inl ⟨_, rfl⟩
  · exact .inr rfl

theorem assignment_descend (start : Nat) : (descend m o start s).assignment = s.assignment := by
  rcases descend_eq m o start s with ⟨_, he⟩ | he <;> rw [he]

theorem stats_descend (start : Nat) : (descend m o start s).stats = s.stats := by
  rcases descend_eq m o start s with ⟨_, he⟩ | he <;> rw [he]

theorem status_descend (start : Nat) (h : s.status = .running) :
    (descend m o start s).status ≠ .unsatisfiable := by
  rcases descend_eq m o start s with ⟨_, he⟩ | he <;> rw [he]
  · rw [h]
    exact Status.noConfusion
  · exact Status.noConfusion

end

end Search
end ConstraintSearch
