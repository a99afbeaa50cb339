import ConstraintSearch.Proofs.Search.Domains
import ConstraintSearch.Proofs.Stepping

/-! Requests that are refused. A search is refused before its value order is asked anything, and a
puzzle before anything is applied to it, so that neither is changed. To see this, requests are
carried out here on an engine and a puzzle that change in place. -/
namespace ConstraintSearch
variable {P V σ τ α β : Type}

/-- Why a search over a model is refused. Of several reasons it is the first of these. -/
inductive Refused (m : Model V) (givens : Assignment V) : Failure → Prop
  | noVariables (h0 : m.count = 0) : Refused m givens .noVariables
  /-- The lowest variable without values is named, whether it has a given or not. -/
  | emptyDomain {var : Nat} (hlt : var < m.count) (hempty : m.domain var = [])
      (hlower : ∀ lower < var, m.domain lower ≠ []) : Refused m givens (.emptyDomain var)
  | assignmentSize (hpos : 0 < m.count) (hdomains : ∀ var < m.count, m.domain var ≠ [])
      (hsize : givens.size ≠ m.count) : Refused m givens (.assignmentSize m.count givens.size)

/-- The answer of a request and what it leaves behind. If it is refused, that is what was there
before. -/
def settle (before : τ) : Except Failure (α × τ) → Except Failure α × τ
  | .ok (answer, after) => (.ok answer, after)
  | .error failure => (.error failure, before)

namespace Engine

/-- Opens a search with the engine, which remembers at once what its order was asked. -/
def searchInPlace (m : Model V) (givens : Assignment V) : InPlace (Engine σ V) (Search σ V) := do
  m.validate
  if givens.size ≠ m.count then throw (.assignmentSize m.count givens.size)
  let e ← get
  let s : Search σ V := ⟨givens, [], {}, .running, e.memory⟩
  if m.agrees givens then
    let s := Search.descend m e.order 0 s
    set (e.resume s)
    return s
  else return { s with status := .unsatisfiable }

def solveInPlace (m : Model V) (givens : Assignment V) : InPlace (Engine σ V) (Report V) := do
  let s ← searchInPlace m givens
  let e ← get
  let last := Search.run m e.order s
  set (e.resume last)
  return last.report

end Engine

namespace Puzzle
variable [Puzzle P V]

/-- A request to an engine that is beside a puzzle. -/
def besidePuzzle (request : InPlace (Engine σ V) α) : InPlace (P × Engine σ V) α :=
  fun (p, e) => ((request e).1, (p, (request e).2))

/-- Searches a puzzle to the end and applies the report to it. -/
def solveInPlace : InPlace (P × Engine σ V) (Report V) := do
  let (p, _) ← get
  let report ← besidePuzzle (Engine.solveInPlace (model p) (← initial p))
  let p ← apply p report
  modify fun (_, e) => (p, e)
  return report

end Puzzle

section
variable {m : Model V} {givens : Assignment V} {failure : Failure}

private theorem Model.emptyVariable?_eq_some_iff {var : Nat} : m.emptyVariable? = some var ↔
    var < m.count ∧ m.domain var = [] ∧ ∀ lower < var, m.domain lower ≠ [] := by
  simp [emptyVariable?, List.find?_range_eq_some, and_left_comm]

theorem Refused.none_iff : (∀ failure, ¬ Refused m givens failure) ↔
    m.validate = .ok () ∧ givens.size = m.count := by
  constructor
  · intro h
    have hpos : 0 < m.count := Nat.pos_of_ne_zero fun h0 => h _ (.noVariables h0)
    have hnone : m.emptyVariable? = none := by
      refine Option.eq_none_iff_forall_ne_some.mpr fun var hf => ?_
      obtain ⟨hlt, hempty, hlower⟩ := Model.emptyVariable?_eq_some_iff.mp hf
      exact h _ (.emptyDomain hlt hempty hlower)
    have hv : m.validate = .ok () := by
      rw [Model.validate, if_neg (Nat.ne_of_gt hpos), hnone]
    refine ⟨hv, Decidable.not_not.mp fun hs => ?_⟩
    exact h _ (.assignmentSize hpos (Model.validate_eq_ok_iff.mp hv).2 hs)
  · rintro ⟨hv, hs⟩ failure hr
    obtain ⟨hpos, hdomains⟩ := Model.validate_eq_ok_iff.mp hv
    cases hr with
    | noVariables h0 => exact Nat.ne_of_gt hpos h0
    | emptyDomain hlt hempty => exact hdomains _ hlt hempty
    | assignmentSize _ _ hsize => exact hsize hs

private theorem Refused.start_eq (h : Refused m givens failure) (o : ValueOrder σ V) (memory : σ) :
    Search.start m o memory givens = .error failure := by
  unfold Search.start
  cases h with
  | noVariables h0 =>
    rw [Model.validate, if_pos h0]
    rfl
  | emptyDomain hlt hempty hlower =>
    rw [Model.validate, if_neg (Nat.ne_of_gt (Nat.zero_lt_of_lt hlt)),
      Model.emptyVariable?_eq_some_iff.mpr ⟨hlt, hempty, hlower⟩]
    rfl
  | assignmentSize hpos hdomains hsize =>
    rw [Model.validate_eq_ok_iff.mpr ⟨hpos, hdomains⟩]
    exact if_pos hsize

end

namespace Engine
variable {e : Engine σ V} {m : Model V} {givens : Assignment V} {failure : Failure}

theorem search_eq_error_iff : e.search m givens = .error failure ↔ Refused m givens failure := by
  refine ⟨fun h => ?_, fun h => h.start_eq e.order e.memory⟩
  by_cases hacc : ∀ failure, ¬ Refused m givens failure
  · obtain ⟨hv, hs⟩ := Refused.none_iff.mp hacc
    rw [search, Search.start_of_validate e.order e.memory hv hs] at h
    cases h
  · obtain ⟨reason, hr⟩ := not_forall_not.mp hacc
    rw [search, hr.start_eq] at h
    cases h
    exact hr

theorem solve_eq_error_iff : e.solve m givens = .error failure ↔ Refused m givens failure := by
  rw [← search_eq_error_iff (e := e), solve]
  cases e.search m givens with
  | error failure' =>
    change (Except.error failure' = _) ↔ _
    rw [Except.error.injEq, Except.error.injEq]
  | ok s => exact iff_of_false (fun h => by cases h) (fun h => by cases h)

theorem searchInPlace_eq (e : Engine σ V) (m : Model V) (givens : Assignment V) :
    searchInPlace m givens e = settle e ((e.search m givens).map fun s => (s, e.resume s)) := by
  rw [search, Search.start]
  unfold searchInPlace
  cases m.validate with
  | error failure => rfl
  | ok _ =>
    by_cases hs : givens.size ≠ m.count
    · simp only [if_pos hs]
      rfl
    · by_cases ha : m.agrees givens = true
      · simp only [if_neg hs, if_pos ha]
        rfl
      · simp only [if_neg hs, if_neg ha]
        rfl

theorem solveInPlace_eq (e : Engine σ V) (m : Model V) (givens : Assignment V) :
    solveInPlace m givens e = settle e (e.solve m givens) := by
  have hsearch := searchInPlace_eq e m givens
  unfold solve
  cases hs : e.search m givens with
  | error failure =>
    rw [hs] at hsearch
    exact InPlace.bind_of_error hsearch
  | ok s =>
    rw [hs] at hsearch
    rw [solveInPlace, InPlace.bind_of_ok hsearch]
    rfl

/-- A request that is answered without asking the value order: whatever the order is, the answer is
the same and the engine is left as it was, also one whose order remembers every question. -/
structure AnswersUnasked (memory : σ) (m : Model V) (givens : Assignment V)
    (answer : Except Failure (Search σ V)) : Prop where
  searchInPlace : ∀ o : ValueOrder σ V,
    Engine.searchInPlace m givens ⟨o, memory⟩ = (answer, ⟨o, memory⟩)
  solveInPlace : ∀ o : ValueOrder σ V,
    Engine.solveInPlace m givens ⟨o, memory⟩ = (answer.map Search.report, ⟨o, memory⟩)

private theorem AnswersUnasked.of_refused (h : Refused m givens failure) (memory : σ) :
    AnswersUnasked memory m givens (.error failure) where
  searchInPlace o := by
    rw [searchInPlace_eq, search_eq_error_iff.mpr h]
    rfl
  solveInPlace o := by
    rw [solveInPlace_eq, solve_eq_error_iff.mpr h]
    rfl

private theorem AnswersUnasked.of_finished {memory : σ} {s : Search σ V} (hf : s.status ≠ .running)
    (hm : s.memory = memory) (h : ∀ o, Search.start m o memory givens = .ok s) :
    AnswersUnasked memory m givens (.ok s) where
  searchInPlace o := by
    rw [searchInPlace_eq, search, h, ← hm]
    rfl
  solveInPlace o := by
    have hsolve : solve ⟨o, memory⟩ m givens = .ok (s.report, ⟨o, memory⟩) := by
      rw [solve, search, h]
      change Except.ok (Search.report _, { order := o, memory := Search.memory _ : Engine σ V }) = _
      rw [Search.run_of_finished hf, hm]
    rw [solveInPlace_eq, hsolve]
    rfl

/-- What becomes of a request to search, made with a whole engine and in place. -/
structure TakesRequest (e : Engine σ V) (m : Model V) (givens : Assignment V) : Prop where
  /-- There is an error exactly if there is a reason, and the error is the reason. -/
  search_eq_error_iff : ∀ failure, e.search m givens = .error failure ↔ Refused m givens failure
  solve_eq_error_iff : ∀ failure, e.solve m givens = .error failure ↔ Refused m givens failure
  searchInPlace_eq : Engine.searchInPlace m givens e =
    settle e ((e.search m givens).map fun s => (s, e.resume s))
  solveInPlace_eq : Engine.solveInPlace m givens e = settle e (e.solve m givens)
  refused : ∀ failure, Refused m givens failure → AnswersUnasked e.memory m givens (.error failure)
  conflicting : (∀ failure, ¬ Refused m givens failure) → ∀ var value,
    givens.get? var = some value → m.consistent givens var value = false →
      AnswersUnasked e.memory m givens (.ok ⟨givens, [], {}, .unsatisfiable, e.memory⟩)
  decided : (∀ failure, ¬ Refused m givens failure) →
    (∀ var < m.count, ∃ value, givens.get? var = some value) →
    (∀ var value, givens.get? var = some value → m.consistent givens var value = true) →
      AnswersUnasked e.memory m givens (.ok ⟨givens, [], {}, .solved, e.memory⟩)
  /-- Otherwise the first question is about the lowest variable without a given. -/
  opened : (∀ failure, ¬ Refused m givens failure) →
    (∀ var value, givens.get? var = some value → m.consistent givens var value = true) →
    ∀ var < m.count, givens.get? var = none → (∀ lower < var, givens.isAssigned lower = true) →
      let (values, memory) := e.order.arrange var (m.domain var) e.memory
      Engine.searchInPlace m givens e =
        (.ok ⟨givens, [⟨var, [], values⟩], {}, .running, memory⟩, { e with memory })

theorem takesRequest (e : Engine σ V) (m : Model V) (givens : Assignment V) :
    e.TakesRequest m givens where
  search_eq_error_iff _ := Engine.search_eq_error_iff
  solve_eq_error_iff _ := Engine.solve_eq_error_iff
  searchInPlace_eq := e.searchInPlace_eq m givens
  solveInPlace_eq := e.solveInPlace_eq m givens
  refused _ h := .of_refused h e.memory
  conflicting h var value hg hc := by
    have ha : ¬ m.agrees givens = true := by
      intro ha
      rw [Model.agrees_eq_true_iff.mp ha var value hg] at hc
      cases hc
    obtain ⟨hv, hs⟩ := Refused.none_iff.mp h
    refine .of_finished ?_ rfl fun o => ?_
    · exact Status.noConfusion
    · rw [Search.start_of_validate o e.memory hv hs, if_neg ha]
  decided h hcomplete hc := by
    have hn : Search.nextUnassigned m givens 0 = none := by
      refine List.find?_eq_none.mpr fun var hv => ?_
      rw [Assignment.isAssigned_iff.mpr (hcomplete var (by simpa using hv))]
      decide
    obtain ⟨hv, hs⟩ := Refused.none_iff.mp h
    refine .of_finished ?_ rfl fun o => ?_
    · exact Status.noConfusion
    · rw [Search.start_of_validate o e.memory hv hs,
        if_pos (Model.agrees_eq_true_iff.mpr hc), Search.descend, hn]
  opened h hc var hlt hnone hlower := by
    have hn : Search.nextUnassigned m givens 0 = some var := by
      have hopen := Assignment.isAssigned_eq_false_iff.mpr hnone
      simpa [Search.nextUnassigned, List.find?_range'_eq_some, hlt, hopen] using hlower
    obtain ⟨hv, hs⟩ := Refused.none_iff.mp h
    rw [Engine.searchInPlace_eq, search, Search.start_of_validate e.order e.memory hv hs,
      if_pos (Model.agrees_eq_true_iff.mpr hc), Search.descend, hn]
    rfl

end Engine

namespace Puzzle

private theorem besidePuzzle_eq {request : InPlace (Engine σ V) α} {answer : Except Failure α}
    {e e' : Engine σ V} (h : request e = (answer, e')) (p : P) :
    besidePuzzle request (p, e) = (answer, (p, e')) := by
  rw [besidePuzzle, h]

variable [Puzzle P V] {p : P} {e : Engine σ V} {failure : Failure}

theorem solveInPlace_eq (p : P) (e : Engine σ V) :
    solveInPlace (p, e) = match initial p >>= e.solve (model p) with
      | .error failure => (.error failure, (p, e))
      | .ok (report, e') => match apply p report with
        | .error failure => (.error failure, (p, e'))
        | .ok q => (.ok report, (q, e')) := by
  rw [solveInPlace, InPlace.get_bind]
  dsimp only
  cases initial p with
  | error failure =>
    rw [InPlace.bind_of_error (InPlace.lift_eq rfl _)]
    rfl
  | ok givens =>
    have hs := Engine.solveInPlace_eq e (model p) givens
    rw [InPlace.bind_of_ok (InPlace.lift_eq rfl _), Failure.ok_bind]
    cases h : e.solve (model p) givens with
    | error failure =>
      rw [h] at hs
      rw [InPlace.bind_of_error (besidePuzzle_eq hs p)]
    | ok answer =>
      obtain ⟨report, e'⟩ := answer
      rw [h] at hs
      rw [InPlace.bind_of_ok (besidePuzzle_eq hs p)]
      dsimp only
      cases apply p report <;> rfl

private theorem fst_of_solveInPlace_error {after : P × Engine σ V}
    (h : solveInPlace (p, e) = (.error failure, after)) : after.1 = p := by
  rw [solveInPlace_eq] at h
  split at h
  · cases h
    rfl
  · split at h <;> cases h
    rfl

/-- A puzzle is refused for what it is searched for, and nothing is changed by that. -/
structure RefusesAtomically (p : P) : Prop where
  solve_eq_error_iff : ∀ {σ : Type} (e : Engine σ V) (failure : Failure),
    solve p e = .error failure ↔ initial p = .error failure ∨
      ∃ givens, initial p = .ok givens ∧ Refused (model p) givens failure
  solveInPlace_eq : ∀ {σ : Type} (e : Engine σ V),
    Puzzle.solveInPlace (p, e) = settle (p, e) (solve p e)
  unchanged : ∀ {σ : Type} (e : Engine σ V) (failure : Failure) (after : P × Engine σ V),
    Puzzle.solveInPlace (p, e) = (.error failure, after) → after = (p, e)

namespace Applicable

private theorem solve_cases (h : Applicable p) (e : Engine σ V) :
    (∃ failure, (initial p >>= e.solve (model p)) = .error failure ∧ solve p e = .error failure) ∨
      ∃ report e' q, (initial p >>= e.solve (model p)) = .ok (report, e') ∧
        apply p report = .ok q ∧ solve p e = .ok (report, q, e') := by
  cases hi : initial p with
  | error failure =>
    refine .inl ⟨failure, rfl, ?_⟩
    rw [solve, hi]
    rfl
  | ok givens =>
    rw [Failure.ok_bind]
    cases hs : e.solve (model p) givens with
    | error failure =>
      refine .inl ⟨failure, rfl, ?_⟩
      rw [solve, hi]
      change (e.solve (model p) givens >>= _) = _
      rw [hs]
      rfl
    | ok answer =>
      obtain ⟨q, hq⟩ := h givens hi answer.1
      exact .inr ⟨_, _, q, rfl, hq, Puzzle.solve_eq_ok hi hs hq⟩

private theorem solve_eq_error_iff (h : Applicable p) : solve p e = .error failure ↔
    initial p = .error failure ∨
      ∃ givens, initial p = .ok givens ∧ Refused (model p) givens failure := by
  have hfirst : solve p e = .error failure ↔
      (initial p >>= e.solve (model p)) = .error failure := by
    rcases h.solve_cases e with ⟨reason, hs, he⟩ | ⟨report, e', q, hs, _, he⟩ <;> rw [hs, he]
    · simp
    · simp
  rw [hfirst]
  cases initial p with
  | error reason => simp [bind, Except.bind]
  | ok givens =>
    rw [Failure.ok_bind, Engine.solve_eq_error_iff]
    simp

private theorem solveInPlace_eq (h : Applicable p) (e : Engine σ V) :
    Puzzle.solveInPlace (p, e) = settle (p, e) (solve p e) := by
  rw [Puzzle.solveInPlace_eq]
  rcases h.solve_cases e with ⟨failure, hs, he⟩ | ⟨report, e', q, hs, hq, he⟩
  · rw [hs, he]
    rfl
  · rw [hs, he]
    dsimp only
    rw [hq]
    rfl

theorem refusesAtomically (h : Applicable p) : RefusesAtomically p where
  solve_eq_error_iff _ _ := h.solve_eq_error_iff
  solveInPlace_eq := h.solveInPlace_eq
  unchanged e failure after herror := by
    rw [h.solveInPlace_eq e] at herror
    cases hs : solve p e with
    | error reason =>
      rw [hs] at herror
      cases herror
      rfl
    | ok answer =>
      rw [hs] at herror
      cases herror

end Applicable

end Puzzle

/-- A request is refused for a model without variables, for an empty domain and for a wrong number
of slots, in this order, and for nothing else. The value order is not asked before a request is
refused, nor when the givens conflict or leave nothing to decide, so the engine is the same for its
next search. Maps, grids and boards whose request is refused are as they were before; this holds of
any other puzzle too. -/
theorem requests_refused_atomically :
    (∀ {σ V : Type} (e : Engine σ V) (m : Model V) (givens : Assignment V),
      e.TakesRequest m givens) ∧
    (∀ m : Colouring.Map, Puzzle.RefusesAtomically m) ∧
    (∀ b : Sudoku.Board, Puzzle.RefusesAtomically b) ∧
    (∀ b : Queens.Board, Puzzle.RefusesAtomically b) ∧
    ∀ {P V σ : Type} [Puzzle P V] (p : P) (e : Engine σ V) (failure : Failure)
      (after : P × Engine σ V),
      Puzzle.solveInPlace (p, e) = (.error failure, after) → after.1 = p := by
  refine ⟨fun e m givens => e.takesRequest m givens, fun m => m.applicable.refusesAtomically,
    fun b => b.applicable.refusesAtomically, fun b => b.applicable.refusesAtomically, ?_⟩
  exact fun _ _ _ _ => Puzzle.fst_of_solveInPlace_error

/-- Four queens, of which two have no rows to stand in or all have the same ones, and a map without
regions that displays a colour. The order counts its questions. -/
theorem requests_refused_atomically_of_counted_questions :
    let e : Engine Nat Nat := ⟨⟨fun _ domain asked => (domain, asked + 1)⟩, 0⟩
    let board := Queens.model 4
    let narrow : Model Nat :=
      { board with domain := fun var => if var % 2 = 0 then List.range 4 else [] }
    let short : Assignment Nat := .ofList [none, some 2]
    let conflict : Assignment Nat := .ofList [some 1, none, some 1, none]
    let placed : Assignment Nat := .ofList [some 1, some 3, some 0, some 2]
    let m := (Colouring.Map.blank [] #[]).apply ⟨.solved (.ofList [some .red]), ⟨3, 5, 1, {}⟩⟩
    let natural : Engine Unit Colouring.Colour := ⟨.natural, ()⟩
    Engine.solveInPlace narrow short e = (.error (.emptyDomain 1), e) ∧
      Engine.solveInPlace board short e = (.error (.assignmentSize 4 2), e) ∧
      Engine.solveInPlace board conflict e = (.ok ⟨.unsatisfiable, {}⟩, e) ∧
      Engine.solveInPlace board placed e = (.ok ⟨.solved placed, {}⟩, e) ∧
      Puzzle.solveInPlace (m, natural) = (.error .noVariables, (m, natural)) := by
  intro e board narrow short conflict placed m natural
  obtain ⟨hrequest, hmap, -⟩ := requests_refused_atomically
  have hboard : ∀ var < 4, board.domain var ≠ [] := by decide
  have haccepted (givens : Assignment Nat) (hs : givens.size = 4) (failure : Failure) :
      ¬ Refused board givens failure :=
    Refused.none_iff.mpr ⟨rfl, hs⟩ failure
  refine ⟨?_, ?_, ?_, ?_, ?_⟩
  · exact ((hrequest e narrow short).refused _
      (.emptyDomain (by decide) rfl (by decide))).solveInPlace e.order
  · exact ((hrequest e board short).refused _
      (.assignmentSize (by decide) hboard (by decide))).solveInPlace e.order
  · exact ((hrequest e board conflict).conflicting (haccepted _ rfl) 0 1 rfl
      rfl).solveInPlace e.order
  · refine ((hrequest e board placed).decided (haccepted _ rfl) ?_ ?_).solveInPlace e.order
    · have hcomplete : placed.isComplete = true :=
        Assignment.isComplete_iff_values?.mpr ⟨[1, 3, 0, 2], rfl⟩
      exact Assignment.isComplete_iff_exists.mp hcomplete
    · exact Model.agrees_eq_true_iff.mp (by decide)
  · rw [(hmap m).solveInPlace_eq, ((hmap m).solve_eq_error_iff natural .noVariables).mpr
      (.inr ⟨_, rfl, .noVariables rfl⟩)]
    rfl

end ConstraintSearch
