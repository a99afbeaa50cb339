import ConstraintSearch.Proofs.Search.Reports
import ConstraintSearch.Proofs.Search.Solutions

/-! Values from outside their domains. A search looks for values in the domains alone, but nobody
compares a given with the domain of its variable. -/
namespace ConstraintSearch
variable {σ V : Type} {m : Model V} {givens found : Assignment V} {report : Report V}

/-- All values are from the domains of their variables. -/
def Assignment.InDomains (m : Model V) (a : Assignment V) : Prop :=
  ∀ var value, a.get? var = some value → value ∈ m.domain var

namespace Engine
variable {e e' : Engine σ V}

theorem exists_solve_iff :
    (∃ answer, e.solve m givens = .ok answer) ↔ m.validate = .ok () ∧ givens.size = m.count := by
  constructor
  · rintro ⟨answer, h⟩
    unfold solve at h
    obtain ⟨s, hs, _⟩ := Failure.bind_eq_ok h
    exact ⟨(Search.start_eq_ok hs).1, (Search.start_eq_ok hs).2.1⟩
  · rintro ⟨hv, hs⟩
    exact ⟨_, solve_eq hv hs⟩

private theorem unsatisfiable_of_not_agrees (h : e.solve m givens = .ok (report, e'))
    (ha : m.agrees givens = false) : report.outcome = .unsatisfiable := by
  obtain ⟨hv, hs⟩ := exists_solve_iff.mp ⟨_, h⟩
  rw [solve_eq hv hs, Search.solveRecursively, ha] at h
  cases h
  rfl

theorem Reports.get?_eq (h : e.Reports m givens report) (hf : report.outcome = .solved found)
    (he : e.order.Permutes m) {var : Nat} (hv : var < m.count) :
    ∃ value, found.get? var = some value ∧
      (givens.get? var = some value ∨ givens.get? var = none ∧ value ∈ m.domain var) := by
  obtain ⟨_, hcomplete, _⟩ := h.grounded hf
  obtain ⟨value, hx⟩ := Assignment.isComplete_iff_exists.mp hcomplete var
    (Nat.lt_of_lt_of_eq hv (h.size_eq hf).symm)
  refine ⟨value, hx, ?_⟩
  cases hg : givens.get? var with
  | none => exact .inr ⟨rfl, h.mem_domain hf he hg hx⟩
  | some given => exact .inl ((h.keeps hf hg).symm.trans hx)

theorem Reports.inDomains_iff (h : e.Reports m givens report) (hf : report.outcome = .solved found)
    (he : e.order.Permutes m) : found.InDomains m ↔ givens.InDomains m := by
  constructor
  · exact fun hfound var value hg => hfound var value (h.keeps hf hg)
  · intro hgivens var value hx
    cases hg : givens.get? var with
    | none => exact h.mem_domain hf he hg hx
    | some given =>
      rw [h.keeps hf hg] at hx
      exact Option.some.inj hx ▸ hgivens var given hg

/-- A request is accepted for what its model and the number of its slots are, whatever the givens
hold. A solution has a value for every variable, the given one or, without any, one of its domain; so
all of them are from their domains exactly if the givens are. A given that fails the check against
the others, from its domain or not, leaves no solution. -/
theorem solve_inDomains_iff (he : e.order.Permutes m) :
    ((∃ answer, e.solve m givens = .ok answer) ↔ m.validate = .ok () ∧ givens.size = m.count) ∧
      ∀ report e', e.solve m givens = .ok (report, e') →
        (∀ found, report.outcome = .solved found →
          (∀ var < m.count, ∃ value, found.get? var = some value ∧
            (givens.get? var = some value ∨ givens.get? var = none ∧ value ∈ m.domain var)) ∧
          (found.InDomains m ↔ givens.InDomains m)) ∧
        ∀ var value, givens.get? var = some value → m.consistent givens var value = false →
          report.outcome = .unsatisfiable := by
  refine ⟨exists_solve_iff, fun report e' h => ⟨fun found hf => ?_, fun var value hg hc => ?_⟩⟩
  · have hr := Reports.of_solve h
    exact ⟨fun var hv => hr.get?_eq hf he hv, hr.inDomains_iff hf he⟩
  · refine unsatisfiable_of_not_agrees h (Bool.eq_false_iff.mpr fun ha => ?_)
    rw [Model.agrees_eq_true_iff.mp ha var value hg] at hc
    cases hc

/-- A queen that is given on a board of four rows is part of a solution on the board. Two that are
given in the same row far off the board attack each other. -/
theorem solve_inDomains_iff_of_given_queens :
    let inside : Assignment Nat := .ofList [none, some 3, none, none]
    let beside : Assignment Nat := .ofList [some 9, some 9, none, none]
    (.natural : ValueOrder Unit Nat).Permutes (Queens.model 4) ∧
      inside.InDomains (Queens.model 4) ∧ ¬ beside.InDomains (Queens.model 4) ∧
      (∃ report e' found, Engine.solve ⟨.natural, ()⟩ (Queens.model 4) inside = .ok (report, e') ∧
        report.outcome = .solved found ∧ found.InDomains (Queens.model 4)) ∧
      ∃ report e', Engine.solve ⟨.natural, ()⟩ (Queens.model 4) beside = .ok (report, e') ∧
        report.outcome = .unsatisfiable := by
  intro inside beside
  have he := ValueOrder.natural_permutes (σ := Unit) (Queens.model 4)
  have hinside : inside.InDomains (Queens.model 4) := by
    intro var value hx
    have hall : ∀ queen ∈ inside.assigned, queen.2 ∈ List.range 4 := by decide
    exact hall (var, value) (Assignment.mem_assigned.mpr hx)
  have hbeside : ¬ beside.InDomains (Queens.model 4) :=
    fun h => absurd (h 0 9 rfl) (by decide)
  obtain ⟨haccepted, hreport⟩ :=
    @solve_inDomains_iff Unit Nat (Queens.model 4) inside ⟨.natural, ()⟩ he
  obtain ⟨⟨report, e'⟩, hsolve⟩ := haccepted.mpr ⟨rfl, rfl⟩
  have hfound : ∃ found, report.outcome = .solved found := by
    rw [solve_eq rfl rfl] at hsolve
    cases hsolve
    exact ⟨_, rfl⟩
  obtain ⟨found, hf⟩ := hfound
  obtain ⟨haccepted', hreport'⟩ :=
    @solve_inDomains_iff Unit Nat (Queens.model 4) beside ⟨.natural, ()⟩ he
  obtain ⟨⟨report', e''⟩, hsolve'⟩ := haccepted'.mpr ⟨rfl, rfl⟩
  exact ⟨he, hinside, hbeside,
    ⟨report, e', found, hsolve, hf, ((hreport report e' hsolve).1 found hf).2.mpr hinside⟩,
    report', e'', hsolve', (hreport' report' e'' hsolve').2 0 9 rfl rfl⟩

/-- A solution with a value from outside its domain: the given queen stands far off the board, and
the other three are placed on it. -/
theorem solve_keeps_distant_queen :
    let givens : Assignment Nat := .ofList [some 9, none, none, none]
    (.natural : ValueOrder Unit Nat).Permutes (Queens.model 4) ∧
      9 ∉ (Queens.model 4).domain 0 ∧
      ∃ report e', Engine.solve ⟨.natural, ()⟩ (Queens.model 4) givens = .ok (report, e') ∧
        report.outcome = .solved (.ofList [some 9, some 0, some 3, some 1]) := by
  intro givens
  refine ⟨ValueOrder.natural_permutes _, by decide, _, _, solve_eq rfl rfl, ?_⟩
  decide

end Engine

end ConstraintSearch
