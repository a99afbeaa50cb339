import ConstraintSearch.CommandLine.Session
import ConstraintSearch.Proofs.InPlace
import ConstraintSearch.Proofs.Puzzle
import ConstraintSearch.Proofs.Search.Pausing

/-! Puzzles that are solved in one call, stepped by somebody else or animated. All come to the same
end. -/
namespace ConstraintSearch

namespace CommandLine

private theorem forIn_printLine {α : Type} (line : α → String) (xs : List α) (printed : String) :
    ∃ printed', (forIn xs PUnit.unit fun x _ => do
      printLine (line x)
      pure (ForInStep.yield PUnit.unit) : Session PUnit) printed = (.ok PUnit.unit, printed') := by
  induction xs generalizing printed with
  | nil => exact ⟨printed, rfl⟩
  | cons x xs ih =>
    rw [List.forIn_cons]
    exact ih (printed ++ (line x ++ "\n"))

variable {P V : Type} [Puzzle P V]

private theorem solve_at_once (options : Options) (form : V → String) (e : Engine Unit V) (p : P)
    (printed : String) :
    (solve { options with animate := false } form e p printed).1 =
      (Puzzle.solve p e).map fun answer => (answer.1, answer.2.1) := by
  unfold solve
  cases Puzzle.solve p e <;> rfl

private theorem solve_animated (options : Options) (form : V → String) (e : Engine Unit V) (p : P)
    (printed : String) :
    (solve { options with animate := true } form e p printed).1 =
      (Puzzle.solveTracing p e).map fun answer => (answer.2.1, answer.2.2.1) := by
  unfold solve
  cases Puzzle.solveTracing p e with
  | error failure => rfl
  | ok answer =>
    obtain ⟨events, report, q, e'⟩ := answer
    obtain ⟨printed', hprint⟩ := forIn_printLine
      (fun told => eventLine form (told.2 + 1) told.1.2 told.1.1) events.zipIdx printed
    change ((forIn events.zipIdx PUnit.unit _ >>= _ : Session _) printed).1 = _
    rw [InPlace.bind_of_ok hprint]
    rfl

end CommandLine

namespace Puzzle
variable {P V σ : Type} [Puzzle P V] {p q : P} {e : Engine σ V} {s : Search σ V}

/-- However a search of the puzzle is carried out, it comes to the same end. -/
structure EndsAlike (p : P) : Prop where
  /-- A pause after some steps makes no difference: the request is refused for the same reason, or it
  has the same report and leaves the same engine behind. -/
  paused : ∀ {σ : Type} (e : Engine σ V) (k : Nat),
    ((search p e).map fun s =>
      let last := Search.run (model p) e.order (Search.after (model p) e.order k s)
      (last.report, e.resume last)) = (solve p e).map fun (report, _, e') => (report, e')
  /-- Steps lead to the state that solving ends with. Fewer than so many do not finish the search,
  and further ones answer that it is finished and change nothing. -/
  stepped : ∀ {σ : Type} (e : Engine σ V) (s : Search σ V), search p e = .ok s →
    ∃ n last q, solve p e = .ok (last.report, q, e.resume last) ∧ apply p last.report = .ok q ∧
      (∀ k, (Search.after (model p) e.order k s).isFinished = true ↔ n ≤ k) ∧
      (∀ k, n ≤ k → Search.after (model p) e.order k s = last) ∧
      Search.step (model p) e.order last = (.finished last.status, last)
  /-- Events that are told on the way come beside the answer. -/
  traced : ∀ {σ : Type} (e : Engine σ V),
    (solveTracing p e).map (fun (_, answer) => answer) = solve p e
  /-- The command line has the same report and the same puzzle in the end, whatever it shows. -/
  animated : ∀ (options : CommandLine.Options) (form : V → String) (e : Engine Unit V)
    (printed : String),
    (CommandLine.solve { options with animate := true } form e p printed).1 =
      (CommandLine.solve { options with animate := false } form e p printed).1

/-- Any report can be applied to a puzzle that a search can start from. -/
def Applicable (p : P) : Prop :=
  ∀ givens, initial p = .ok givens → ∀ report, ∃ q, apply p report = .ok q

private theorem solve_of_search_error {failure : Failure} (h : search p e = .error failure) :
    solve p e = .error failure := by
  unfold search at h
  unfold solve
  cases hi : initial p with
  | error reason =>
    rw [hi] at h
    cases h
    rfl
  | ok givens =>
    rw [hi] at h
    change e.search (model p) givens = _ at h
    change (e.solve (model p) givens >>= _) = _
    rw [Engine.solve, h]
    rfl

namespace Applicable

private theorem solve_eq_ok (h : Applicable p) (hs : search p e = .ok s) :
    ∃ q, apply p (Search.run (model p) e.order s).report = .ok q ∧
      solve p e = .ok ((Search.run (model p) e.order s).report, q,
        e.resume (Search.run (model p) e.order s)) := by
  unfold search at hs
  obtain ⟨givens, hi, hs⟩ := Failure.bind_eq_ok hs
  obtain ⟨q, hq⟩ := h givens hi (Search.run (model p) e.order s).report
  refine ⟨q, hq, Puzzle.solve_eq_ok hi ?_ hq⟩
  rw [Engine.solve, hs]
  rfl

private theorem map_solveTracing (h : Applicable p) (e : Engine σ V) :
    (solveTracing p e).map (fun (_, answer) => answer) = solve p e := by
  unfold solveTracing
  cases hs : search p e with
  | error failure =>
    rw [solve_of_search_error hs]
    rfl
  | ok s =>
    obtain ⟨q, hq, hsolve⟩ := h.solve_eq_ok hs
    change (apply p (Search.trace (model p) e.order [] s).2.report >>= _).map _ = _
    rw [hsolve, Search.trace_snd, hq]
    rfl

theorem endsAlike (h : Applicable p) : EndsAlike p where
  paused e k := by
    cases hs : search p e with
    | error failure =>
      rw [solve_of_search_error hs]
      rfl
    | ok s =>
      obtain ⟨q, _, hsolve⟩ := h.solve_eq_ok hs
      rw [hsolve]
      exact congrArg (fun last => Except.ok (last.report, e.resume last)) (Search.run_after k s)
  stepped e s hs := by
    obtain ⟨q, hq, hsolve⟩ := h.solve_eq_ok hs
    obtain ⟨n, hn⟩ := Search.exists_finished_iff_le (m := model p) (o := e.order) s
    refine ⟨n, _, q, hsolve, hq, fun k => (hn k).1, fun k => (hn k).2, ?_⟩
    exact Search.step_of_finished (Search.isFinished_iff.mp (Search.isFinished_run s))
  traced := h.map_solveTracing
  animated options form e printed := by
    rw [CommandLine.solve_animated, CommandLine.solve_at_once, ← h.map_solveTracing e]
    cases solveTracing p e <;> rfl

end Applicable

end Puzzle

theorem Colouring.Map.applicable (m : Colouring.Map) : Puzzle.Applicable m :=
  fun _ _ report => ⟨m.apply report, rfl⟩

theorem Queens.Board.applicable (b : Queens.Board) : Puzzle.Applicable b :=
  fun _ _ report => ⟨b.apply report, rfl⟩

theorem Sudoku.Board.applicable (b : Sudoku.Board) : Puzzle.Applicable b := by
  intro givens hi report
  obtain ⟨outcome, stats⟩ := report
  cases outcome with
  | solved found => exact ⟨_, rfl⟩
  | unsatisfiable =>
    have hi : b.initial = .ok givens := hi
    change ∃ q, b.apply ⟨.unsatisfiable, stats⟩ = .ok q
    rw [Sudoku.Board.apply, hi]
    exact ⟨_, rfl⟩

/-- A search over a map, a grid or a board, whatever is displayed and whatever the value order is and
remembers, comes to the same end by solving, by running after a pause, by steps and by animation. -/
theorem Puzzle.solving_ends_alike :
    (∀ m : Colouring.Map, EndsAlike m) ∧ (∀ b : Sudoku.Board, EndsAlike b) ∧
      ∀ b : Queens.Board, EndsAlike b :=
  ⟨fun m => m.applicable.endsAlike, fun b => b.applicable.endsAlike,
    fun b => b.applicable.endsAlike⟩

end ConstraintSearch
