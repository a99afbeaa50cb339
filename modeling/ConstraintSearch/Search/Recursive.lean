import ConstraintSearch.Search.Engine

/-!
The search as a recursion over the variables still to decide. It says what the stepping machine
is meant to compute, without a stack.
-/

namespace ConstraintSearch.Search
variable {σ V : Type}

/-- What a recursion comes to: the assignment found, if any, the counters and the memory. -/
structure Result (σ V : Type) where
  found : Option (Assignment V)
  stats : Stats
  memory : σ

/-- Tries the values of one variable in turn, given how to decide the variables below it. A value
below which nothing is found is taken back. -/
def tryValues (m : Model V) (below : Assignment V → Stats → σ → Result σ V) (var : Nat)
    (a : Assignment V) : List V → Stats → σ → Result σ V
  | [], stats, memory => ⟨none, stats, memory⟩
  | value :: rest, stats, memory =>
    let stats := { stats with checks := stats.checks + 1 }
    if m.consistent a var value then
      match below (a.assign var value) { stats with nodes := stats.nodes + 1 } memory with
      | ⟨some found, stats, memory⟩ => ⟨some found, stats, memory⟩
      | ⟨none, stats, memory⟩ =>
        tryValues m below var a rest { stats with backtracks := stats.backtracks + 1 } memory
    else tryValues m below var a rest stats memory

/-- Decides variables from the first to the last. The value order is asked once for each variable
that is reached. -/
def decide (m : Model V) (o : ValueOrder σ V) : List Nat → Assignment V → Stats → σ → Result σ V
  | [], a, stats, memory => ⟨some a, stats, memory⟩
  | var :: rest, a, stats, memory =>
    let (values, memory) := o.arrange var (m.domain var) memory
    tryValues m (decide m o rest) var a values stats memory

def openVariables (m : Model V) (a : Assignment V) : List Nat :=
  (List.range m.count).filter fun var => !a.isAssigned var

/-- The result from some givens. Conflicting givens have none. -/
def solveRecursively (m : Model V) (o : ValueOrder σ V) (givens : Assignment V) (memory : σ) :
    Result σ V :=
  if m.agrees givens then decide m o (openVariables m givens) givens {} memory
  else ⟨none, {}, memory⟩

end ConstraintSearch.Search
