import ConstraintSearch.Proofs.History
import ConstraintSearch.Proofs.Search.Memory

/-! Puzzles that forget what was done with them. It shows in what they display and have counted, but
a search comes out as if nothing had been done. -/
namespace ConstraintSearch.Puzzle
variable {P V σ : Type} [Puzzle P V] {first p q : P} {edits : P → P → Prop} {past : List P}

/-- A puzzle that acts as another one, whatever they display. -/
structure ActsAs (first p : P) : Prop where
  model_eq : model p = model first
  initial_eq : initial p = initial first
  apply_eq : ∀ report, apply p report = apply first report
  reset_eq : reset p = reset first

/-- A puzzle that nothing has been done with. It displays what a search starts from. -/
structure Untouched (p : P) : Prop where
  initial_eq : initial p = .ok (displayed p)
  stats_eq : stats p = {}
  reset_eq : reset p = .ok p

/-- Whatever has been done with it, a puzzle acts as the first one, which nothing was done with. -/
structure Forgets (first p : P) : Prop where
  untouched : Untouched first
  initial_eq : initial p = initial first
  /-- Resetting gives the first puzzle back, and doing so again changes nothing. -/
  reset_eq : reset p = .ok first
  /-- A search is refused for the same reason, or has the same report and leaves the same puzzle and
  the same engine behind. -/
  solve_eq : ∀ {σ : Type} (e : Engine σ V), solve p e = solve first e
  /-- Solving twice is solving once, unless the order remembers the first time. -/
  again : ∀ {σ : Type} {e e' : Engine σ V} {report : Report V} {q : P}, e.order.Permutes (model p) →
    e.order.KeepsMemory → solve p e = .ok (report, q, e') →
      e' = e ∧ solve q e = .ok (report, q, e)

private theorem ActsAs.solve_eq (h : ActsAs first p) (e : Engine σ V) :
    solve p e = solve first e := by
  simp only [solve, h.model_eq, h.initial_eq, h.apply_eq]

private theorem engine_of_solve {e e' : Engine σ V} {report : Report V} (ho : e.order.KeepsMemory)
    (h : solve p e = .ok (report, q, e')) : e' = e := by
  unfold solve at h
  obtain ⟨givens, _, h⟩ := Failure.bind_eq_ok h
  obtain ⟨⟨_, _⟩, hs, h⟩ := Failure.bind_eq_ok h
  obtain ⟨_, _, h⟩ := Failure.bind_eq_ok h
  cases h
  exact Engine.solve_keeps ho hs

/-- When all puzzles on the way act as the first, everything is forgotten. -/
theorem History.forgets (hfirst : Untouched first)
    (hacts : ∀ {past : List P} {p : P}, History edits first past p → ActsAs first p)
    (h : History edits first past p) : Forgets first p where
  untouched := hfirst
  initial_eq := (hacts h).initial_eq
  reset_eq := (hacts h).reset_eq.trans hfirst.reset_eq
  solve_eq := (hacts h).solve_eq
  again := by
    intro σ e e' report q hp ho hs
    obtain rfl := engine_of_solve ho hs
    have hq := h.solve hp hs
    rw [(hacts h).solve_eq] at hs
    exact ⟨rfl, ((hacts hq).solve_eq e').trans hs⟩

def Unedited (_ _ : P) : Prop := False

end ConstraintSearch.Puzzle
