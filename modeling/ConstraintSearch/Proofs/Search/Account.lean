import ConstraintSearch.Proofs.Search.Pausing
import ConstraintSearch.Queens.Model

/-! What the events of a search tell of it. Replayed on the givens they give the assignment, counted
by their kinds they give the counters, and the counters give the depth and the number of steps. -/
namespace ConstraintSearch
variable {σ V : Type}

namespace Event

/-- What somebody who only hears of the events does with an assignment. -/
def replay (a : Assignment V) : Event V → Assignment V
  | .assigned var value => a.assign var value
  | .backtracked var => a.unassign var
  | .rejected _ _ => a
  | .finished _ => a

/-- What an event adds to the counters. -/
def charge (stats : Stats) : Event V → Stats
  | .assigned _ _ => stats.assigned
  | .rejected _ _ => stats.rejected
  | .backtracked _ => stats.backtracked
  | .finished _ => stats

def isAssigned : Event V → Bool
  | .assigned _ _ => true
  | _ => false

def isRejected : Event V → Bool
  | .rejected _ _ => true
  | _ => false

def isBacktracked : Event V → Bool
  | .backtracked _ => true
  | _ => false

private theorem foldl_charge (told : List (Event V)) (stats : Stats) :
    told.foldl charge stats =
      { stats with
        nodes := stats.nodes + told.countP isAssigned
        checks := stats.checks + (told.countP isAssigned + told.countP isRejected)
        backtracks := stats.backtracks + told.countP isBacktracked } := by
  induction told generalizing stats with
  | nil => rfl
  | cons e told ih =>
    rw [List.foldl_cons, ih]
    cases e <;> simp [charge, Stats.assigned, Stats.rejected, Stats.backtracked, isAssigned,
      isRejected, isBacktracked, List.countP_cons] <;> omega

end Event

namespace Search

def events (m : Model V) (o : ValueOrder σ V) : Nat → Search σ V → List (Event V)
  | 0, _ => []
  | n + 1, s => events m o n s ++ [(step m o (after m o n s)).1]

/-- How many frames hold no value: the deepest one, as long as the search runs. -/
def undecided (s : Search σ V) : Nat := if s.status = .running then 1 else 0

/-- How many steps the counters stand for. Every check and every value taken back is a step, and one
more finds the first frame exhausted. -/
def stepCount (s : Search σ V) : Nat :=
  s.stats.checks + s.stats.backtracks + if s.status = .unsatisfiable then 1 else 0

section
variable {m : Model V} {o : ValueOrder σ V} {givens : Assignment V} {memory : σ}
  {s next : Search σ V} {e : Event V}

private theorem depth_descend (start : Nat) (h : s.status = .running) :
    (descend m o start s).depth = s.depth + (descend m o start s).undecided := by
  rcases descend_eq m o start s with ⟨_, he⟩ | he <;> rw [he, undecided]
  · exact congrArg (s.depth + ·) (if_pos h).symm
  · rfl

namespace Moves

theorem replay (hm : Moves m o s e next) : e.replay s.assignment = next.assignment := by
  cases hm with
  | reject _ => rfl
  | assign _ =>
    rw [assignment_descend]
    rfl
  | backtrack _ => rfl
  | fail _ => rfl

private theorem charge (hm : Moves m o s e next) : e.charge s.stats = next.stats := by
  cases hm with
  | reject _ => rfl
  | assign _ =>
    rw [stats_descend]
    rfl
  | backtrack _ => rfl
  | fail _ => rfl

private theorem depth_eq (hm : Moves m o s e next)
    (h : s.depth + s.stats.backtracks = s.stats.nodes + s.undecided) :
    next.depth + next.stats.backtracks = next.stats.nodes + next.undecided := by
  cases hm with
  | reject _ => exact h
  | assign _ =>
    rw [stats_descend, depth_descend _ rfl]
    simp only [depth, undecided, List.length_cons, if_true] at h ⊢
    omega
  | backtrack _ =>
    simp only [depth, undecided, List.length_cons, if_true] at h ⊢
    omega
  | fail _ =>
    simp only [depth, undecided, List.length_cons, List.length_nil, if_true, reduceCtorEq,
      if_false] at h ⊢
    omega

private theorem stepCount_eq (hm : Moves m o s e next) : next.stepCount = s.stepCount + 1 := by
  cases hm with
  | reject _ =>
    simp only [stepCount, reduceCtorEq, if_false]
    omega
  | assign _ =>
    rw [stepCount, if_neg (status_descend _ rfl), stats_descend]
    simp only [stepCount, reduceCtorEq, if_false]
    omega
  | backtrack _ =>
    simp only [stepCount, reduceCtorEq, if_false]
    omega
  | fail _ => simp only [stepCount, reduceCtorEq, if_false, if_true]

end Moves

/-- What is computed along the events is what a state shows, if every move keeps it so. -/
theorem foldl_events {α : Type} {f : α → Event V → α} {view : Search σ V → α}
    (h : start m o memory givens = .ok s)
    (hmoves : ∀ {t next : Search σ V} {e}, Moves m o t e next → f (view t) e = view next)
    (hfinished : ∀ shown status, f shown (.finished status) = shown) (n : Nat) :
    (events m o n s).foldl f (view s) = view (after m o n s) := by
  induction n with
  | zero => rfl
  | succ n ih =>
    rw [events, List.foldl_append, ih, List.foldl_cons, List.foldl_nil, after]
    rcases (Stacked.after h n).moves_or_finished with hm | ⟨_, he⟩
    · exact hmoves hm
    · rw [he]
      exact hfinished _ _

theorem depth_after (h : start m o memory givens = .ok s) (n : Nat) :
    (after m o n s).depth + (after m o n s).stats.backtracks =
      (after m o n s).stats.nodes + (after m o n s).undecided := by
  refine after_induction (P := fun s => s.depth + s.stats.backtracks = s.stats.nodes + s.undecided) h
    ?_ Moves.depth_eq n
  obtain ⟨_, _, rfl⟩ := start_eq_ok h
  split
  · rw [stats_descend, depth_descend 0 rfl]
    rfl
  · rfl

/-- A search is finished from that step on which its counters at the end stand for. -/
theorem isFinished_after_iff (h : start m o memory givens = .ok s) (ha : m.agrees givens = true)
    (n : Nat) : (after m o n s).isFinished = true ↔ (run m o s).stepCount ≤ n := by
  obtain ⟨last, hlast⟩ := exists_finished_iff_le (m := m) (o := o) s
  have hcount : ∀ k ≤ last, (after m o k s).stepCount = k := by
    intro k
    induction k with
    | zero =>
      intro _
      obtain ⟨_, _, rfl⟩ := start_eq_ok h
      rw [if_pos ha, after, stepCount, if_neg (status_descend 0 rfl), stats_descend]
      rfl
    | succ k ih =>
      intro hk
      rcases (Stacked.after h k).moves_or_finished with hm | ⟨hf, _⟩
      · rw [after, hm.stepCount_eq, ih (Nat.le_of_succ_le hk)]
      · exact absurd ((hlast k).1.mp (isFinished_iff.mpr hf)) (Nat.not_le_of_lt hk)
  rw [← (hlast last).2 (Nat.le_refl last), hcount last (Nat.le_refl last)]
  exact (hlast n).1

/-- The events told since the start are a full account of a search over some givens. -/
structure Account (m : Model V) (givens : Assignment V) (told : List (Event V))
    (s : Search σ V) : Prop where
  replay_eq : told.foldl Event.replay givens = s.assignment
  nodes_eq : s.stats.nodes = told.countP Event.isAssigned
  backtracks_eq : s.stats.backtracks = told.countP Event.isBacktracked
  checks_eq : s.stats.checks = told.countP Event.isAssigned + told.countP Event.isRejected
  running : s.status = .running → s.depth + s.stats.backtracks = 1 + s.stats.nodes
  /-- Each variable that was open at first has a frame, and its value was not taken back. -/
  solved : s.status = .solved → s.depth = (openVariables m givens).length ∧
    s.stats.nodes = (openVariables m givens).length + s.stats.backtracks
  unsatisfiable : s.status = .unsatisfiable → s.depth = 0 ∧ s.stats.nodes = s.stats.backtracks

private theorem Stacked.depth_of_solved (h : Stacked m o givens s) (hs : givens.size = m.count)
    (hr : s.status = .solved) : s.depth = (openVariables m givens).length := by
  cases h with
  | running => cases hr
  | solved h ho =>
    rw [h.openVariables_eq hs, ho, List.append_nil, List.length_reverse, List.length_map, depth]
  | unsatisfiable => cases hr

private theorem Stacked.depth_of_unsatisfiable (h : Stacked m o givens s)
    (hr : s.status = .unsatisfiable) : s.depth = 0 := by
  cases h with
  | running => cases hr
  | solved => cases hr
  | unsatisfiable => rfl

theorem account_after (h : start m o memory givens = .ok s) (n : Nat) :
    Account m givens (events m o n s) (after m o n s) := by
  obtain ⟨_, hs, hstart⟩ := start_eq_ok h
  have hstacked := Stacked.after h n
  have hdepth := depth_after h n
  have hfirst : s.assignment = givens ∧ s.stats = {} := by
    rw [hstart]
    split
    · exact ⟨assignment_descend 0, stats_descend 0⟩
    · exact ⟨rfl, rfl⟩
  have hreplay := foldl_events h Moves.replay (fun _ _ => rfl) n
  have hstats := foldl_events h Moves.charge (fun _ _ => rfl) n
  rw [hfirst.1] at hreplay
  rw [hfirst.2, Event.foldl_charge] at hstats
  simp only [Nat.zero_add] at hstats
  rw [undecided] at hdepth
  refine
    { replay_eq := hreplay
      nodes_eq := by rw [← hstats]
      backtracks_eq := by rw [← hstats]
      checks_eq := by rw [← hstats]
      running := fun hr => ?_
      solved := fun hr => ?_
      unsatisfiable := fun hr => ?_ }
  · rw [if_pos hr] at hdepth
    omega
  · have hk := hstacked.depth_of_solved hs hr
    simp only [hr, reduceCtorEq, if_false] at hdepth
    omega
  · have hk := hstacked.depth_of_unsatisfiable hr
    simp only [hr, reduceCtorEq, if_false] at hdepth
    omega

end

/-- After any number of steps the events are a full account of a search whose givens do not conflict,
and it is finished from the step on that is counted by its checks and the values taken back, with one
more when the values ran out. -/
theorem events_account {m : Model V} {o : ValueOrder σ V} {memory : σ} {givens : Assignment V}
    {s : Search σ V} (h : start m o memory givens = .ok s) (ha : m.agrees givens = true) :
    (∀ n, Account m givens (events m o n s) (after m o n s)) ∧
      ∀ n, (after m o n s).isFinished = true ↔
        (run m o s).stats.checks + (run m o s).stats.backtracks +
          (if (run m o s).status = .unsatisfiable then 1 else 0) ≤ n :=
  ⟨account_after h, isFinished_after_iff h ha⟩

/-- With the last queen given, two values are taken back before the other three stand; with the third
one given, all are taken back, and the last of the steps finds no row left for the first queen. -/
theorem events_account_of_given_queens :
    let m := Queens.model 4
    let o : ValueOrder Unit Nat := .natural
    let last : Assignment Nat := .ofList [none, none, none, some 1]
    let third : Assignment Nat := .ofList [none, none, some 1, none]
    (∃ s, start m o () last = .ok s ∧ m.agrees last = true ∧
      Account m last (events m o 18 s) (after m o 18 s) ∧
      (after m o 18 s).status = .solved ∧ (after m o 18 s).stats.backtracks = 2 ∧
      ∀ n, (after m o n s).isFinished = true ↔ 18 ≤ n) ∧
    ∃ s, start m o () third = .ok s ∧ m.agrees third = true ∧
      Account m third (events m o 11 s) (after m o 11 s) ∧
      (after m o 11 s).status = .running ∧ (after m o 11 s).stats.backtracks = 2 ∧
      ∀ n, (after m o n s).isFinished = true ↔ 20 ≤ n := by
  intro m o last third
  have hlast : start m o () last = .ok (descend m o 0 ⟨last, [], {}, .running, ()⟩) := rfl
  have hthird : start m o () third = .ok (descend m o 0 ⟨third, [], {}, .running, ()⟩) := rfl
  have hcount (s : Search Unit Nat) (k : Nat) (hk : (after m o k s).status ≠ .running)
      (hc : (after m o k s).stepCount = k) : (run m o s).stepCount = k := by
    rw [← run_after k s, run_of_finished hk, hc]
  have hsolved := hcount (descend m o 0 ⟨last, [], {}, .running, ()⟩) 18 (by decide +kernel)
    (by decide +kernel)
  have hexhausted := hcount (descend m o 0 ⟨third, [], {}, .running, ()⟩) 20 (by decide +kernel)
    (by decide +kernel)
  obtain ⟨haccount, hfinished⟩ := events_account hlast rfl
  obtain ⟨haccount', hfinished'⟩ := events_account hthird rfl
  refine ⟨⟨_, hlast, rfl, haccount 18, by decide +kernel, by decide +kernel, fun n => ?_⟩,
    _, hthird, rfl, haccount' 11, by decide +kernel, by decide +kernel, fun n => ?_⟩
  · rw [← hsolved]
    exact hfinished n
  · rw [← hexhausted]
    exact hfinished' n

end Search
end ConstraintSearch
