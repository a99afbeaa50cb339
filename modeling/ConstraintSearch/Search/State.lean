import ConstraintSearch.Model
import ConstraintSearch.Search.ValueOrder
import ConstraintSearch.Stats

/-!
Depth-first search as a machine that takes one small step at a time: it tries one value or takes
one back. Between steps the partial assignment can be looked at.
-/

namespace ConstraintSearch

inductive Status where
  | running
  | solved
  | unsatisfiable
deriving DecidableEq, Inhabited

inductive Event (V : Type) where
  /-- The value passed the check and the variable now holds it. -/
  | assigned (var : Nat) (value : V)
  /-- The value failed the check. -/
  | rejected (var : Nat) (value : V)
  /-- Everything below the variable failed, and its value was taken back. -/
  | backtracked (var : Nat)
  /-- The search is over. Further steps change nothing. -/
  | finished (status : Status)
deriving DecidableEq

/-- A variable being decided: the values already tried, the latest first, and those ahead. -/
structure Frame (V : Type) where
  var : Nat
  tried : List V
  ahead : List V

inductive Outcome (V : Type) where
  | solved (solution : Assignment V)
  | unsatisfiable
deriving DecidableEq

namespace Outcome
variable {V : Type}

def isSolved : Outcome V → Bool
  | .solved _ => true
  | .unsatisfiable => false

def solution? : Outcome V → Option (Assignment V)
  | .solved solution => some solution
  | .unsatisfiable => none

theorem isSolved_iff {o : Outcome V} : o.isSolved = true ↔ ∃ b, o = .solved b := by
  cases o <;> simp [isSolved]

theorem not_isSolved_iff {o : Outcome V} : o.isSolved = false ↔ o = .unsatisfiable := by
  cases o <;> simp [isSolved]

end Outcome

structure Report (V : Type) where
  outcome : Outcome V
  stats : Stats
deriving DecidableEq

/-- The state of a search. The deepest frame comes first, and the memory is that of the value
order. -/
structure Search (σ V : Type) where
  assignment : Assignment V
  frames : List (Frame V)
  stats : Stats
  status : Status
  memory : σ

namespace Search
variable {σ V : Type}

def depth (s : Search σ V) : Nat := s.frames.length

def isFinished (s : Search σ V) : Bool := s.status != .running

def nextUnassigned (m : Model V) (a : Assignment V) (start : Nat) : Option Nat :=
  (List.range' start (m.count - start)).find? fun var => !a.isAssigned var

/-- Opens a frame for the next variable to decide, which asks the value order; without one the
search is solved. -/
def descend (m : Model V) (o : ValueOrder σ V) (start : Nat) (s : Search σ V) : Search σ V :=
  match nextUnassigned m s.assignment start with
  | some var =>
    let (ahead, memory) := o.arrange var (m.domain var) s.memory
    { s with frames := ⟨var, [], ahead⟩ :: s.frames, memory }
  | none => { s with status := .solved }

/-- The state before the first step. Values that are there from the start are givens: they are
never changed. If they conflict the search is over, and the value order is not asked. -/
def start (m : Model V) (o : ValueOrder σ V) (memory : σ) (initial : Assignment V) :
    Except Failure (Search σ V) := do
  m.validate
  if initial.size ≠ m.count then .error (.assignmentSize m.count initial.size)
  else
    let s : Search σ V := ⟨initial, [], {}, .running, memory⟩
    if m.agrees initial then .ok (descend m o 0 s)
    else .ok { s with status := .unsatisfiable }

/-- Tries the next value of the deepest frame. When it has none left the frame is closed and the
value of the frame above is taken back; without such a frame the search has failed. -/
def advance (m : Model V) (o : ValueOrder σ V) (s : Search σ V) : Event V × Search σ V :=
  match s with
  | ⟨assignment, [], stats, _, memory⟩ =>
    (.finished .unsatisfiable, ⟨assignment, [], stats, .unsatisfiable, memory⟩)
  | ⟨assignment, ⟨var, tried, value :: ahead⟩ :: below, stats, status, memory⟩ =>
    let frames := ⟨var, value :: tried, ahead⟩ :: below
    let stats := { stats with checks := stats.checks + 1 }
    if m.consistent assignment var value then
      let stats := { stats with nodes := stats.nodes + 1 }
      (.assigned var value,
        descend m o (var + 1) ⟨assignment.assign var value, frames, stats, status, memory⟩)
    else (.rejected var value, ⟨assignment, frames, stats, status, memory⟩)
  | ⟨assignment, ⟨_, _, []⟩ :: parent :: below, stats, status, memory⟩ =>
    let stats := { stats with backtracks := stats.backtracks + 1 }
    (.backtracked parent.var,
      ⟨assignment.unassign parent.var, parent :: below, stats, status, memory⟩)
  | ⟨assignment, [⟨_, _, []⟩], stats, _, memory⟩ =>
    (.finished .unsatisfiable, ⟨assignment, [], stats, .unsatisfiable, memory⟩)

/-- One step; a finished search stays as it is. -/
def step (m : Model V) (o : ValueOrder σ V) (s : Search σ V) : Event V × Search σ V :=
  match s.status with
  | .running => advance m o s
  | status => (.finished status, s)

/-- The result so far. A search that still runs has found nothing. -/
def report (s : Search σ V) : Report V :=
  match s.status with
  | .solved => ⟨.solved s.assignment, s.stats⟩
  | _ => ⟨.unsatisfiable, s.stats⟩

end Search

end ConstraintSearch
