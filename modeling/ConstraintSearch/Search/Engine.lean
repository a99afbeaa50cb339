import ConstraintSearch.Search.Run

/-!
Engines: a value order together with what it remembers from one search to the next.
-/

namespace ConstraintSearch

structure Engine (σ V : Type) where
  order : ValueOrder σ V
  memory : σ

namespace Engine
variable {σ V : Type}

def search (e : Engine σ V) (m : Model V) (givens : Assignment V) :
    Except Failure (Search σ V) :=
  Search.start m e.order e.memory givens

/-- The engine after a search: its memory is where the search left it. -/
def resume (e : Engine σ V) (s : Search σ V) : Engine σ V := { e with memory := s.memory }

/-- Searches to the end. A refused request leaves the engine as it was. -/
def solve (e : Engine σ V) (m : Model V) (givens : Assignment V) :
    Except Failure (Report V × Engine σ V) := do
  let first ← e.search m givens
  let last := Search.run m e.order first
  return (last.report, e.resume last)

end Engine

/-- The engine of an algorithm, which most algorithms do not have. -/
def Algorithm.engine {σ V : Type} (algorithm : Algorithm) (order : ValueOrder σ V) (memory : σ) :
    Except Failure (Engine σ V) :=
  if algorithm.isImplemented then .ok ⟨order, memory⟩
  else .error (.unsupportedAlgorithm algorithm)

end ConstraintSearch
