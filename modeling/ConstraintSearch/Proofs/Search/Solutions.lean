import ConstraintSearch.Proofs.Constraint
import ConstraintSearch.Proofs.Search.Completions
import ConstraintSearch.Proofs.Search.Refinement
import ConstraintSearch.Search.Engine

/-! Solving a model given by constraints. The engine reports a solution exactly if there is one;
with a fixed order of values it is the first, variable by variable. -/
namespace ConstraintSearch
variable {σ V : Type}

namespace Search
variable {m : Model V} {constraints : List (Constraint V)} {givens a b : Assignment V}

private theorem extends_assign {var : Nat} {rest : List Nat} {value : V}
    (hx : b.get? var = some value) (hself : (a.assign var value).get? var = some value)
    (hrest : ∀ other ∈ rest, (a.assign var value).get? other = none)
    (hsame : ∀ other ∉ var :: rest, b.get? other = a.get? other) :
    ∀ other y, (a.assign var value).get? other = some y → b.get? other = some y := by
  intro other y hy
  by_cases ho : other ∈ var :: rest
  · rcases List.mem_cons.mp ho with rfl | ho
    · rwa [hx, ← hself]
    · rw [hrest other ho] at hy
      cases hy
  · have hn : other ≠ var := fun he => ho (he ▸ List.mem_cons_self)
    rwa [hsame other ho, ← a.get?_assign_of_ne hn value]

/-- The completions of a coherent assignment are the coherent assignments that differ from it at
the listed variables only, with values of their domains there. -/
theorem completes_iff (h : m.GivenBy constraints) (hs : a.size = m.count)
    (ha : Coherent constraints a) {vars : List Nat} (hnodup : vars.Nodup)
    (hopen : ∀ var ∈ vars, var < m.count ∧ a.get? var = none) :
    Completes m vars a b ↔ b.size = a.size ∧ (∀ var ∉ vars, b.get? var = a.get? var) ∧
      (∀ var ∈ vars, ∃ value ∈ m.domain var, b.get? var = some value) ∧ Coherent constraints b := by
  induction vars generalizing a with
  | nil =>
    constructor
    · intro hb
      rw [show b = a from hb]
      exact ⟨rfl, fun _ _ => rfl, fun _ hv => absurd hv List.not_mem_nil, ha⟩
    · rintro ⟨hsize, hsame, _, _⟩
      exact Assignment.ext_get? hsize fun var _ => hsame var List.not_mem_nil
  | cons var rest ih =>
    obtain ⟨hvar, hnodup⟩ := List.nodup_cons.mp hnodup
    obtain ⟨hlt, hnone⟩ := hopen var List.mem_cons_self
    have hne {other : Nat} (ho : other ∈ rest) : other ≠ var := fun he => hvar (he ▸ ho)
    have hrest (value : V) : ∀ other ∈ rest, other < m.count ∧
        (a.assign var value).get? other = none := by
      intro other ho
      rw [a.get?_assign_of_ne (hne ho)]
      exact hopen other (List.mem_cons_of_mem _ ho)
    have hself (value : V) := Assignment.get?_assign_self (hs ▸ hlt) value
    have hstep (value : V) (hc : Coherent constraints (a.assign var value)) :=
      ih (a := a.assign var value) ((Assignment.size_assign ..).trans hs) hc hnodup (hrest value)
    constructor
    · rintro ⟨value, hd, hok, hr⟩
      have hc := (h.consistent_iff_coherent hs hlt ha value).mp hok
      obtain ⟨hsize, hsame, hin, hco⟩ := (hstep value hc).mp hr
      refine ⟨hsize.trans (Assignment.size_assign ..), fun other ho => ?_, fun other ho => ?_, hco⟩
      · rw [List.mem_cons, not_or] at ho
        rw [hsame other ho.2, a.get?_assign_of_ne ho.1]
      · rcases List.mem_cons.mp ho with rfl | ho
        · exact ⟨value, hd, (hsame other hvar).trans (hself value)⟩
        · exact hin other ho
    · rintro ⟨hsize, hsame, hin, hco⟩
      obtain ⟨value, hd, hx⟩ := hin var List.mem_cons_self
      have hc := hco.of_extends
        (extends_assign hx (hself value) (fun other ho => (hrest value other ho).2) hsame)
      refine ⟨value, hd, (h.consistent_iff_coherent hs hlt ha value).mpr hc,
        (hstep value hc).mpr ⟨hsize.trans (Assignment.size_assign ..).symm, ?_, ?_, hco⟩⟩
      · intro other ho
        by_cases he : other = var
        · rw [he, hx, hself value]
        · rw [a.get?_assign_of_ne he]
          exact hsame other fun hm => (List.mem_cons.mp hm).elim he ho
      · exact fun other ho => hin other (List.mem_cons_of_mem _ ho)

theorem agrees_of_solution (h : m.GivenBy constraints) (hs : givens.size = m.count)
    (hb : Solution m constraints givens b) : m.agrees givens = true := by
  rw [h.agrees_iff hs]
  exact ((h.coherent_iff_holds hb.size_eq hb.complete).mpr hb.holds).of_extends hb.keeps

/-- The solutions are the completions of givens that do not conflict. -/
theorem completes_openVariables_iff (h : m.GivenBy constraints) (hs : givens.size = m.count)
    (ha : m.agrees givens = true) :
    Completes m (openVariables m givens) givens b ↔ Solution m constraints givens b := by
  have hnodup := (openVariables_ascending m givens).imp Nat.ne_of_lt
  rw [completes_iff h hs ((h.agrees_iff hs).mp ha) hnodup fun var hv => mem_openVariables.mp hv]
  constructor
  · rintro ⟨hsize, hsame, hin, hco⟩
    have hgiven : ∀ var value, givens.get? var = some value → b.get? var = some value := by
      intro var value hx
      rw [hsame var fun hm => ?_, hx]
      rw [mem_openVariables, hx] at hm
      cases hm.2
    have hcomplete : b.isComplete = true := by
      rw [Assignment.isComplete_iff_exists]
      intro var hlt
      cases hx : givens.get? var with
      | none =>
        obtain ⟨value, _, hv⟩ := hin var (mem_openVariables.mpr ⟨by omega, hx⟩)
        exact ⟨value, hv⟩
      | some value => exact ⟨value, hgiven var value hx⟩
    refine ⟨hsize.trans hs, hcomplete, hgiven, fun var hlt hx value hv => ?_,
      (h.coherent_iff_holds (hsize.trans hs) hcomplete).mp hco⟩
    obtain ⟨other, hd, ho⟩ := hin var (mem_openVariables.mpr ⟨hlt, hx⟩)
    rw [hv] at ho
    exact Option.some.inj ho ▸ hd
  · intro hb
    have hco := (h.coherent_iff_holds hb.size_eq hb.complete).mpr hb.holds
    refine ⟨hb.size_eq.trans hs.symm, fun var hm => ?_, fun var hm => ?_, hco⟩
    · cases hx : givens.get? var with
      | some value => exact hb.keeps var value hx
      | none =>
        have hge : b.size ≤ var := by
          rw [mem_openVariables, not_and'] at hm
          have := hm hx
          have := hb.size_eq
          omega
        exact Assignment.get?_of_size_le hge
    · obtain ⟨hlt, hx⟩ := mem_openVariables.mp hm
      obtain ⟨value, hv⟩ := Assignment.isComplete_iff_exists.mp hb.complete var (by
        rw [hb.size_eq]
        exact hlt)
      exact ⟨value, hb.inDomain var hlt hx value hv, hv⟩

end Search

/-- What a report says of the solutions that keep some givens: the solution in it is one, without
one there is none, and it comes first when the value order always answers the same lists. -/
structure Report.Answers [DecidableEq V] (report : Report V) (m : Model V)
    (constraints : List (Constraint V)) (o : ValueOrder σ V) (givens : Assignment V) : Prop where
  solution : ∀ b, report.outcome = .solved b → Solution m constraints givens b
  exhausted : report.outcome = .unsatisfiable → ∀ b, ¬ Solution m constraints givens b
  first : ∀ lists : Nat → List V,
    (∀ var memory, (o.arrange var (m.domain var) memory).1 = lists var) →
    ∀ b, report.outcome = .solved b → ∀ c, Solution m constraints givens c →
      c = b ∨ b.Precedes lists c

section
variable [DecidableEq V] {m : Model V} {constraints : List (Constraint V)} {o : ValueOrder σ V}
  {givens : Assignment V} {report : Report V}

private theorem Report.Answers.of_solved {b : Assignment V} (ho : report.outcome = .solved b)
    (hb : Solution m constraints givens b)
    (hfirst : ∀ lists : Nat → List V,
      (∀ var memory, (o.arrange var (m.domain var) memory).1 = lists var) →
      ∀ c, Solution m constraints givens c → c = b ∨ b.Precedes lists c) :
    report.Answers m constraints o givens where
  solution b hb := by
    rw [ho] at hb
    cases hb
    assumption
  exhausted hn := by
    rw [ho] at hn
    cases hn
  first lists hl b hb := by
    rw [ho] at hb
    cases hb
    exact hfirst lists hl

private theorem Report.Answers.of_unsatisfiable (ho : report.outcome = .unsatisfiable)
    (hnone : ∀ b, ¬ Solution m constraints givens b) : report.Answers m constraints o givens where
  solution b hb := by
    rw [ho] at hb
    cases hb
  exhausted _ := hnone
  first lists _ b hb := by
    rw [ho] at hb
    cases hb

theorem Report.Answers.isSolved_iff (h : report.Answers m constraints o givens) :
    report.outcome.isSolved = true ↔ ∃ b, Solution m constraints givens b := by
  constructor
  · intro hs
    obtain ⟨b, ho⟩ := Outcome.isSolved_iff.mp hs
    exact ⟨b, h.solution b ho⟩
  · rintro ⟨b, hb⟩
    cases hs : report.outcome.isSolved with
    | true => rfl
    | false => exact absurd hb (h.exhausted (Outcome.not_isSolved_iff.mp hs) b)

end

namespace Engine
variable {m : Model V} {constraints : List (Constraint V)} {givens : Assignment V} {e : Engine σ V}

/-- An engine that accepts a request answers with the result of the recursive search. -/
theorem solve_eq (hv : m.validate = .ok ()) (hs : givens.size = m.count) :
    e.solve m givens =
      .ok ((Search.solveRecursively m e.order givens e.memory).report,
        { e with memory := (Search.solveRecursively m e.order givens e.memory).memory }) := by
  have hstart := Search.start_of_validate e.order e.memory hv hs
  obtain ⟨hreport, hmemory⟩ := Search.run_eq_solveRecursively hstart
  rw [solve, search, hstart, ← hreport, ← hmemory]
  rfl

/-- The report of an accepted request says what solutions there are. -/
theorem solve_answers [DecidableEq V] (hm : m.GivenBy constraints) (he : e.order.Permutes m)
    (hv : m.validate = .ok ()) (hs : givens.size = m.count) :
    ∃ report e', e.solve m givens = .ok (report, e') ∧
      report.Answers m constraints e.order givens := by
  refine ⟨_, _, solve_eq hv hs, ?_⟩
  rw [Search.solveRecursively]
  by_cases ha : m.agrees givens = true
  · rw [if_pos ha]
    have hiff (b : Assignment V) := Search.completes_openVariables_iff (b := b) hm hs ha
    cases hr : Search.decide m e.order (Search.openVariables m givens) givens {} e.memory with
    | mk found stats memory =>
      cases found with
      | some found =>
        have hf := congrArg Search.Result.found hr
        refine .of_solved rfl ?_ fun lists hl c hc => ?_
        · exact (hiff found).mp (Search.completes_of_decide he Search.lt_of_mem_openVariables hf)
        · exact Search.decide_precedes he hl (Search.openVariables_ascending m givens)
            Search.lt_of_mem_openVariables hs hf ((hiff c).mpr hc)
      | none =>
        have hf := congrArg Search.Result.found hr
        refine .of_unsatisfiable rfl fun b hb => ?_
        exact Search.not_completes_of_decide he Search.lt_of_mem_openVariables hf b
          ((hiff b).mpr hb)
  · rw [if_neg ha]
    exact .of_unsatisfiable rfl fun b hb => ha (Search.agrees_of_solution hm hs hb)

/-- An engine whose order permutes the domains solves a model given by constraints exactly if some
complete assignment keeps the givens, takes the other values from their domains and satisfies every
constraint; it answers with such an assignment. An order that depends on the variable and its domain
alone leads to the first one. -/
theorem solved_iff_exists_solution [DecidableEq V] (hm : m.GivenBy constraints)
    (hv : m.validate = .ok ()) (he : e.order.Permutes m) (hs : givens.size = m.count) :
    ∃ report e', e.solve m givens = .ok (report, e') ∧
      (report.outcome.isSolved = true ↔ ∃ b, Solution m constraints givens b) ∧
      (∀ b, report.outcome = .solved b → Solution m constraints givens b) ∧
      ∀ lists : Nat → List V,
        (∀ var memory, (e.order.arrange var (m.domain var) memory).1 = lists var) →
        ∀ b, report.outcome = .solved b → ∀ c, Solution m constraints givens c →
          c = b ∨ b.Precedes lists c := by
  obtain ⟨report, e', hsolve, ha⟩ := solve_answers hm he hv hs
  exact ⟨report, e', hsolve, ha.isSolved_iff, ha.solution, ha.first⟩

/-- Three numbers of sum six, the first below the second, the second given: the values are tried
from the last, so the first number is two and not one. -/
theorem solved_iff_exists_solution_of_sum :
    let constraints : List (Constraint Nat) :=
      [⟨[0, 1], by decide, fun xs => xs.getD 0 0 < xs.getD 1 0⟩,
        ⟨[2, 0, 1], by decide, fun xs => xs.foldl (· + ·) 0 = 6⟩]
    let m := Model.ofConstraints [[1, 2, 3], [1, 2, 3], [1, 2]] constraints
    let givens : Assignment Nat := .ofList [none, some 3, none]
    let b : Assignment Nat := .ofList [some 2, some 3, some 1]
    m.GivenBy constraints ∧ m.validate = .ok () ∧ (.reversed : ValueOrder Unit Nat).Permutes m ∧
      givens.size = m.count ∧
      (∃ report e', Engine.solve ⟨.reversed, ()⟩ m givens = .ok (report, e') ∧
        report.outcome = .solved b) ∧
      Solution m constraints givens b ∧
      ∀ c, Solution m constraints givens c →
        c = b ∨ b.Precedes (fun var => (m.domain var).reverse) c := by
  intro constraints m givens b
  have hm : m.GivenBy constraints := Model.givenBy_ofConstraints (by decide)
  have hv : m.validate = .ok () := rfl
  have he := ValueOrder.reversed_permutes (σ := Unit) m
  have hs : givens.size = m.count := rfl
  obtain ⟨report, e', hsolve, _, hsol, hfirst⟩ :=
    solved_iff_exists_solution (e := ⟨.reversed, ()⟩) hm hv he hs
  have hb : report.outcome = .solved b := by
    rw [solve_eq hv hs] at hsolve
    cases hsolve
    rfl
  exact ⟨hm, hv, he, hs, ⟨report, e', hsolve, hb⟩, hsol b hb, hfirst _ (fun _ _ => rfl) b hb⟩

end Engine

end ConstraintSearch
