import ConstraintSearch.Proofs.Search.Domains
import ConstraintSearch.Proofs.Search.FailureCost
import ConstraintSearch.Proofs.Search.Solutions
import Mathlib.Algebra.Order.BigOperators.Group.List

/-! Hints: values of a solution that are added to the givens. A search in the natural order still finds
the solution, and it costs no more. What it walks below a value that fails lies within what it walks
there without the hints, and a hint takes away the values that were tried before it. -/
namespace ConstraintSearch
open Assignment (Within)
variable {σ V : Type}

namespace Stats

/-- No counter is larger than the other's. -/
structure AtMost (x y : Stats) : Prop where
  nodes : x.nodes ≤ y.nodes
  checks : x.checks ≤ y.checks
  backtracks : x.backtracks ≤ y.backtracks

namespace AtMost
variable {x y z : Stats}

theorem refl (x : Stats) : x.AtMost x := ⟨Nat.le_refl _, Nat.le_refl _, Nat.le_refl _⟩

theorem trans (h : x.AtMost y) (h' : y.AtMost z) : x.AtMost z :=
  ⟨h.nodes.trans h'.nodes, h.checks.trans h'.checks, h.backtracks.trans h'.backtracks⟩

private theorem assigned (h : x.AtMost y) : x.assigned.AtMost y.assigned :=
  ⟨Nat.succ_le_succ h.nodes, Nat.succ_le_succ h.checks, h.backtracks⟩

private theorem rejected (h : x.AtMost y) : x.rejected.AtMost y.rejected :=
  ⟨h.nodes, Nat.succ_le_succ h.checks, h.backtracks⟩

private theorem backtracked (h : x.AtMost y) : x.backtracked.AtMost y.backtracked :=
  ⟨h.nodes, h.checks, Nat.succ_le_succ h.backtracks⟩

private theorem raise (h : x.AtMost y) {nodes nodes' checks checks' : Nat} (hn : nodes ≤ nodes')
    (hc : checks ≤ checks') : (x.raise nodes checks).AtMost (y.raise nodes' checks') :=
  ⟨Nat.add_le_add h.nodes hn, Nat.add_le_add h.checks hc, Nat.add_le_add h.backtracks hn⟩

end AtMost

private theorem atMost_assigned (x : Stats) : x.AtMost x.assigned :=
  ⟨Nat.le_succ _, Nat.le_succ _, Nat.le_refl _⟩

private theorem atMost_rejected (x : Stats) : x.AtMost x.rejected :=
  ⟨Nat.le_refl _, Nat.le_succ _, Nat.le_refl _⟩

private theorem atMost_backtracked (x : Stats) : x.AtMost x.backtracked :=
  ⟨Nat.le_refl _, Nat.le_refl _, Nat.le_succ _⟩

private theorem atMost_raise (x : Stats) (nodes checks : Nat) : x.AtMost (x.raise nodes checks) :=
  ⟨Nat.le_add_right .., Nat.le_add_right .., Nat.le_add_right ..⟩

end Stats

namespace Search

/-- The second assignment is the first with hints: values of other variables, from their domains.
Together they break no constraint. -/
structure Hinted (m : Model V) (constraints : List (Constraint V)) (a b : Assignment V) : Prop where
  within : a.Within b
  size_eq : a.size = m.count
  mem_domain : ∀ var value, a.get? var = none → b.get? var = some value → value ∈ m.domain var
  coherent : Coherent constraints b

section
variable {m : Model V} {constraints : List (Constraint V)} {a b c : Assignment V} {var : Nat}
  {rest : List Nat}

namespace Hinted

private theorem size_eq' (h : Hinted m constraints a b) : b.size = m.count :=
  h.within.size_eq.trans h.size_eq

private theorem coherent_left (h : Hinted m constraints a b) : Coherent constraints a :=
  h.coherent.of_extends h.within.keeps

private theorem take (h : Hinted m constraints a b) {value : V} (hv : b.get? var = some value) :
    Hinted m constraints (a.assign var value) b where
  within := h.within.assign_left hv
  size_eq := (a.size_assign var value).trans h.size_eq
  mem_domain other x hx hb := by
    refine h.mem_domain other x ?_ hb
    have hne : other ≠ var := by
      intro he
      rw [he, Assignment.get?_assign_self (h.within.size_eq ▸ Assignment.lt_size_of_get? hv)] at hx
      cases hx
    rwa [a.get?_assign_of_ne hne] at hx
  coherent := h.coherent

private theorem assign (h : Hinted m constraints a b) {value : V}
    (hc : Coherent constraints (b.assign var value)) :
    Hinted m constraints (a.assign var value) (b.assign var value) where
  within := h.within.assign var value
  size_eq := (a.size_assign var value).trans h.size_eq
  mem_domain other x hx hb := by
    by_cases hother : other = var ∧ var < a.size
    · rw [Assignment.get?_assign, if_pos hother] at hx
      cases hx
    · rw [Assignment.get?_assign, if_neg hother] at hx
      rw [Assignment.get?_assign, h.within.size_eq, if_neg hother] at hb
      exact h.mem_domain other x hx hb
  coherent := hc

private theorem consistent_left (hm : m.GivenBy constraints) (h : Hinted m constraints a b)
    (hv : var < m.count) {value : V} (hc : m.consistent b var value = true) :
    m.consistent a var value = true := by
  rw [hm.consistent_iff_coherent h.size_eq' hv h.coherent] at hc
  rw [hm.consistent_iff_coherent h.size_eq hv h.coherent_left]
  exact hc.of_extends (h.within.assign var value).keeps

private theorem openVariables_eq_nil (h : Hinted m constraints a b) (ho : openVariables m a = []) :
    openVariables m b = [] := by
  refine List.eq_nil_iff_forall_not_mem.mpr fun var hv => ?_
  obtain ⟨hlt, hb⟩ := mem_openVariables.mp hv
  have ha := mem_openVariables.mpr ⟨hlt, h.within.get?_eq_none hb⟩
  rw [ho] at ha
  cases ha

private theorem openVariables_eq_cons (h : Hinted m constraints a b)
    (ho : openVariables m a = var :: rest) (hv : b.get? var = none) :
    ∃ rest', openVariables m b = var :: rest' := by
  have hopen : var ∈ openVariables m b :=
    mem_openVariables.mpr ⟨(lt_of_openVariables_eq ho).1, hv⟩
  cases hb : openVariables m b with
  | nil =>
    rw [hb] at hopen
    cases hopen
  | cons first rest' =>
    rw [hb] at hopen
    rcases List.mem_cons.mp hopen with rfl | hlater
    · exact ⟨rest', rfl⟩
    · -- a lower variable that is open with the hints is open without them
      have hlt := (lt_of_mem_rest hb var hlater).1
      have hfirst := lt_of_openVariables_eq hb
      have hmem := mem_openVariables.mpr ⟨hfirst.1, h.within.get?_eq_none hfirst.2⟩
      rw [ho] at hmem
      rcases List.mem_cons.mp hmem with rfl | hmem
      · exact ⟨rest', rfl⟩
      · exact absurd (lt_of_mem_rest ho first hmem).1 (Nat.lt_asymm hlt)

/-- Solutions with the hints are solutions without them. -/
theorem solution (h : Hinted m constraints a b) (hc : Solution m constraints b c) :
    Solution m constraints a c where
  size_eq := hc.size_eq
  complete := hc.complete
  keeps var value hv := hc.keeps var value (h.within.keeps var value hv)
  inDomain var hlt hv value hx := by
    cases hb : b.get? var with
    | none => exact hc.inDomain var hlt hb value hx
    | some hint =>
      rw [hc.keeps var hint hb] at hx
      exact Option.some.inj hx ▸ h.mem_domain var hint hv hb
  holds := hc.holds

private theorem completes (hm : m.GivenBy constraints) (h : Hinted m constraints a b)
    (hc : Completes m (openVariables m b) b c) : Completes m (openVariables m a) a c := by
  have ha := (hm.agrees_iff h.size_eq).mpr h.coherent_left
  have hb := (hm.agrees_iff h.size_eq').mpr h.coherent
  rw [completes_openVariables_iff hm h.size_eq' hb] at hc
  exact (completes_openVariables_iff hm h.size_eq ha).mpr (h.solution hc)

end Hinted

private theorem sum_filter_le {p q : V → Bool} {f g : V → Nat} {values : List V}
    (hpq : ∀ value, p value = true → q value = true)
    (hfg : ∀ value, p value = true → f value ≤ g value) :
    ((values.filter p).map f).sum ≤ ((values.filter q).map g).sum := by
  calc
    _ ≤ ((values.filter p).map g).sum :=
      List.sum_le_sum fun value hv => hfg value (List.mem_filter.mp hv).2
    _ ≤ _ := ((List.monotone_filter_right values hpq).map g).sum_le_sum fun _ _ => Nat.zero_le _

private theorem le_sum_filter {p : V → Bool} {f : V → Nat} {values : List V} {value : V}
    (hv : value ∈ values) (hp : p value = true) : f value ≤ ((values.filter p).map f).sum :=
  List.le_sum_of_mem (List.mem_map_of_mem (List.mem_filter.mpr ⟨hv, hp⟩))

private theorem Hinted.tree_le (hm : m.GivenBy constraints) (h : Hinted m constraints a b)
    {vars : List Nat} (ho : openVariables m a = vars) :
    treeNodes m (openVariables m b) b ≤ treeNodes m vars a ∧
      treeChecks m (openVariables m b) b ≤ treeChecks m vars a := by
  induction vars generalizing a b with
  | nil =>
    rw [h.openVariables_eq_nil ho]
    exact ⟨Nat.zero_le _, Nat.zero_le _⟩
  | cons var rest ih =>
    obtain ⟨hlt, hnone⟩ := lt_of_openVariables_eq ho
    rw [treeNodes_cons, treeChecks_cons]
    cases hb : b.get? var with
    | some hint =>
      -- of the subtrees below the variable, the one of the hint is left
      have hd := h.mem_domain var hint hnone hb
      have hc := (hm.consistent_iff_coherent h.size_eq hlt h.coherent_left hint).mpr
        (h.take hb).coherent_left
      obtain ⟨hnodes, hchecks⟩ := ih (h.take hb) (openVariables_assign h.size_eq ho hint)
      have hnodes' := le_sum_filter (f := fun value => treeNodes m rest (a.assign var value) + 1)
        hd hc
      have hchecks' := le_sum_filter (f := fun value => treeChecks m rest (a.assign var value))
        hd hc
      constructor <;> omega
    | none =>
      obtain ⟨rest', ho'⟩ := h.openVariables_eq_cons ho hb
      rw [ho', treeNodes_cons, treeChecks_cons]
      have hleft (value : V) (hc : m.consistent b var value = true) := h.consistent_left hm hlt hc
      have hle (value : V) (hc : m.consistent b var value = true) := by
        have hassign := h.assign
          ((hm.consistent_iff_coherent h.size_eq' hlt h.coherent value).mp hc)
        have hle := ih hassign (openVariables_assign h.size_eq ho value)
        rwa [openVariables_assign h.size_eq' ho'] at hle
      exact ⟨sum_filter_le hleft fun value hc => Nat.add_le_add_right (hle value hc).1 1,
        Nat.add_le_add_left (sum_filter_le hleft fun value hc => (hle value hc).2) _⟩

section
variable {below below' : Assignment V → Stats → σ → Result σ V} {value : V} {values : List V}
  {stats stats' : Stats} {memory memory' : σ}

theorem tryValues_of_found (hc : m.consistent a var value = true)
    (h : (below (a.assign var value) stats.assigned memory).found = some c) :
    tryValues m below var a (value :: values) stats memory =
      below (a.assign var value) stats.assigned memory := by
  rw [tryValues, if_pos hc]
  split
  · rename_i hb
    exact hb.symm
  · rename_i hb
    cases h.symm.trans (congrArg Result.found hb)

private theorem tryValues_of_failed (hc : m.consistent a var value = true)
    (h : (below (a.assign var value) stats.assigned memory).found = none) :
    tryValues m below var a (value :: values) stats memory =
      tryValues m below var a values (below (a.assign var value) stats.assigned memory).stats.backtracked
        (below (a.assign var value) stats.assigned memory).memory := by
  rw [tryValues, if_pos hc]
  split
  · rename_i hb
    cases h.symm.trans (congrArg Result.found hb)
  · rename_i hb
    have hb : below (a.assign var value) stats.assigned memory = _ := hb
    rw [hb]
    rfl

theorem tryValues_of_rejected (hc : ¬ m.consistent a var value = true) :
    tryValues m below var a (value :: values) stats memory =
      tryValues m below var a values stats.rejected memory := by
  rw [tryValues, if_neg hc]
  rfl

private theorem tryValues_eq_below
    (hfail : ∀ value stats memory, (below (a.assign var value) stats memory).found = none →
      stats.AtMost (below (a.assign var value) stats memory).stats)
    (h : (tryValues m below var a values stats memory).found = some c) :
    ∃ value stats' memory', stats.AtMost stats' ∧
      tryValues m below var a values stats memory = below (a.assign var value) stats' memory' := by
  induction values generalizing stats memory with
  | nil => cases h
  | cons value values ih =>
    by_cases hc : m.consistent a var value = true
    · cases hf : (below (a.assign var value) stats.assigned memory).found with
      | some found =>
        rw [tryValues_of_found hc hf]
        exact ⟨value, _, _, stats.atMost_assigned, rfl⟩
      | none =>
        rw [tryValues_of_failed hc hf] at h ⊢
        obtain ⟨next, stats', memory', hle, he⟩ := ih h
        have hback := (hfail value _ _ hf).trans (Stats.atMost_backtracked _)
        exact ⟨next, stats', memory', (stats.atMost_assigned.trans hback).trans hle, he⟩
    · rw [tryValues_of_rejected hc] at h ⊢
      obtain ⟨next, stats', memory', hle, he⟩ := ih h
      exact ⟨next, stats', memory', stats.atMost_rejected.trans hle, he⟩

/-- Two searches try the same values of a variable. The second succeeds where the first does, at no
higher cost, if so it is below each single value. -/
theorem tryValues_atMost
    (hleft : ∀ value, m.consistent b var value = true → m.consistent a var value = true)
    (hfound : ∀ value stats stats' memory memory', stats'.AtMost stats →
      (below (a.assign var value) stats memory).found = some c →
        m.consistent b var value = true ∧
        (below' (b.assign var value) stats' memory').found = some c ∧
        (below' (b.assign var value) stats' memory').stats.AtMost
          (below (a.assign var value) stats memory).stats)
    (hfail : ∀ value stats memory, (below (a.assign var value) stats memory).found = none →
      stats.AtMost (below (a.assign var value) stats memory).stats ∧
      ∀ stats' memory', stats'.AtMost stats → m.consistent b var value = true →
        (below' (b.assign var value) stats' memory').found = none ∧
        (below' (b.assign var value) stats' memory').stats.AtMost
          (below (a.assign var value) stats memory).stats)
    (hle : stats'.AtMost stats)
    (h : (tryValues m below var a values stats memory).found = some c) :
    (tryValues m below' var b values stats' memory').found = some c ∧
      (tryValues m below' var b values stats' memory').stats.AtMost
        (tryValues m below var a values stats memory).stats := by
  induction values generalizing stats stats' memory memory' with
  | nil => cases h
  | cons value values ih =>
    by_cases hca : m.consistent a var value = true
    · cases hf : (below (a.assign var value) stats.assigned memory).found with
      | some found =>
        rw [tryValues_of_found hca hf] at h ⊢
        obtain ⟨hcb, hf', hle'⟩ := hfound value _ _ memory memory' hle.assigned h
        rw [tryValues_of_found hcb hf']
        exact ⟨hf', hle'⟩
      | none =>
        rw [tryValues_of_failed hca hf] at h ⊢
        obtain ⟨hup, hfail'⟩ := hfail value _ _ hf
        by_cases hcb : m.consistent b var value = true
        · obtain ⟨hf', hle'⟩ := hfail' _ memory' hle.assigned hcb
          rw [tryValues_of_failed hcb hf']
          exact ih hle'.backtracked h
        · -- the first search goes down in vain, the second one refuses the value
          rw [tryValues_of_rejected hcb]
          have hchecked : stats.rejected.AtMost stats.assigned :=
            ⟨Nat.le_succ _, Nat.le_refl _, Nat.le_refl _⟩
          exact ih (hle.rejected.trans
            (hchecked.trans (hup.trans (Stats.atMost_backtracked _)))) h
    · have hcb : ¬ m.consistent b var value = true := fun hcb => hca (hleft value hcb)
      rw [tryValues_of_rejected hca] at h ⊢
      rw [tryValues_of_rejected hcb]
      exact ih hle.rejected h

end

section
variable {vars : List Nat} {stats stats' : Stats} {memory memory' : σ}

private theorem Hinted.decide_eq_none (hm : m.GivenBy constraints) (h : Hinted m constraints a b)
    (ho : openVariables m a = vars) (hle : stats'.AtMost stats)
    (hf : (decide m .natural vars a stats memory).found = none) :
    (decide m .natural (openVariables m b) b stats' memory').found = none ∧
      (decide m .natural (openVariables m b) b stats' memory').stats.AtMost
        (decide m .natural vars a stats memory).stats := by
  have hnatural := ValueOrder.natural_permutes (σ := σ) m
  subst ho
  have hf' : (decide m .natural (openVariables m b) b stats' memory').found = none := by
    refine Option.eq_none_iff_forall_not_mem.mpr fun c hc => ?_
    have hb := completes_of_decide hnatural lt_of_mem_openVariables hc
    exact not_completes_of_decide hnatural lt_of_mem_openVariables hf c (h.completes hm hb)
  obtain ⟨hnodes, hchecks⟩ := h.tree_le hm rfl
  rw [stats_decide hnatural lt_of_mem_openVariables hf,
    stats_decide hnatural lt_of_mem_openVariables hf']
  exact ⟨hf', hle.raise hnodes hchecks⟩

private theorem decide_natural_cons : decide m .natural (var :: rest) a stats memory =
    tryValues m (decide m .natural rest) var a (m.domain var) stats memory := rfl

private theorem get?_of_decide (hs : a.size = m.count) (ho : openVariables m a = var :: rest)
    {value : V} (hf : (decide m .natural rest (a.assign var value) stats memory).found = some c) :
    c.get? var = some value := by
  have hn : var ∉ rest := fun hmem => Nat.lt_irrefl var (lt_of_mem_rest ho var hmem).1
  have hc := completes_of_decide (ValueOrder.natural_permutes m)
    (fun other hother => (lt_of_mem_rest ho other hother).2) hf
  rw [hc.get?_of_notMem hn]
  exact Assignment.get?_assign_self (hs ▸ (lt_of_openVariables_eq ho).1) value

private theorem atMost_of_decide (hv : ∀ var ∈ vars, var < m.count)
    (hf : (decide m .natural vars a stats memory).found = none) :
    stats.AtMost (decide m .natural vars a stats memory).stats := by
  rw [stats_decide (ValueOrder.natural_permutes m) hv hf]
  exact stats.atMost_raise ..

private theorem Hinted.decide_eq_some (hm : m.GivenBy constraints) (h : Hinted m constraints a b)
    (hb : b.Within c) (hc : Coherent constraints c) (ho : openVariables m a = vars)
    (hle : stats'.AtMost stats) (hf : (decide m .natural vars a stats memory).found = some c) :
    (decide m .natural (openVariables m b) b stats' memory').found = some c ∧
      (decide m .natural (openVariables m b) b stats' memory').stats.AtMost
        (decide m .natural vars a stats memory).stats := by
  induction vars generalizing a b stats stats' memory memory' with
  | nil =>
    have hac : a = c := Option.some.inj hf
    subst hac
    rw [h.openVariables_eq_nil ho, h.within.antisymm hb]
    exact ⟨rfl, hle⟩
  | cons var rest ih =>
    have hlt := (lt_of_openVariables_eq ho).1
    have hleft (value : V) := openVariables_assign h.size_eq ho value
    have hup (value : V) (stats : Stats) (memory : σ)
        (hf : (decide m .natural rest (a.assign var value) stats memory).found = none) :=
      atMost_of_decide (fun other hother => (lt_of_mem_rest ho other hother).2) hf
    rw [decide_natural_cons] at hf ⊢
    cases hx : b.get? var with
    | some hint =>
      -- the values that are tried before the hint only add to the cost without hints
      obtain ⟨value, stats₁, memory₁, hle₁, he⟩ := tryValues_eq_below hup hf
      rw [he] at hf ⊢
      have hvalue := (get?_of_decide h.size_eq ho hf).symm.trans (hb.keeps var hint hx)
      obtain rfl : value = hint := Option.some.inj hvalue
      exact ih (h.take hx) hb (hleft value) (hle.trans hle₁) hf
    | none =>
      obtain ⟨rest', ho'⟩ := h.openVariables_eq_cons ho hx
      have hright (value : V) := openVariables_assign h.size_eq' ho' value
      have hcoherent (value : V) := hm.consistent_iff_coherent h.size_eq' hlt h.coherent value
      rw [ho', decide_natural_cons]
      refine tryValues_atMost (fun value => h.consistent_left hm hlt) ?_ ?_ hle hf
      · intro value stats stats' memory memory' hle hf
        have hb' := hb.assign_left (get?_of_decide h.size_eq ho hf)
        have hc' := hc.of_extends hb'.keeps
        rw [← hright value]
        exact ⟨(hcoherent value).mpr hc', ih (h.assign hc') hb' (hleft value) hle hf⟩
      · intro value stats memory hf
        refine ⟨hup value stats memory hf, fun stats' memory' hle hcb => ?_⟩
        rw [← hright value]
        exact (h.assign ((hcoherent value).mp hcb)).decide_eq_none hm (hleft value) hle hf

end

end
end Search

namespace Engine
variable {m : Model V} {constraints : List (Constraint V)} {givens found : Assignment V}
  {e e' : Engine σ V} {stats : Stats}

/-- An engine reports a solution when the request is accepted, the givens do not conflict, and the
recursion over the open variables comes to the solution. -/
theorem solve_eq_solved_iff : (∃ e', e.solve m givens = .ok (⟨.solved found, stats⟩, e')) ↔
    (m.validate = .ok () ∧ givens.size = m.count) ∧ m.agrees givens = true ∧
      ∃ memory, Search.decide m e.order (Search.openVariables m givens) givens {} e.memory =
        ⟨some found, stats, memory⟩ := by
  constructor
  · rintro ⟨e', h⟩
    obtain ⟨hv, hs⟩ := exists_solve_iff.mp ⟨_, h⟩
    rw [solve_eq hv hs, Search.solveRecursively] at h
    by_cases ha : m.agrees givens = true
    · rw [if_pos ha] at h
      cases hd : Search.decide m e.order (Search.openVariables m givens) givens {} e.memory with
      | mk found' stats' memory =>
        rw [hd] at h
        cases found' with
        | some b =>
          cases h
          exact ⟨⟨hv, hs⟩, ha, memory, rfl⟩
        | none => cases h
    · rw [if_neg ha] at h
      cases h
  · rintro ⟨⟨hv, hs⟩, ha, memory, hd⟩
    refine ⟨{ e with memory }, ?_⟩
    rw [solve_eq hv hs, Search.solveRecursively, if_pos ha, hd]
    rfl

/-- Hints never change the answer and never cost more. In the natural order, an engine that finds a
solution finds the same one from any values of it that are added to the givens, and none of the
counters is larger. All values of the solution lead to it at no cost. -/
theorem solve_hinted (hm : m.GivenBy constraints) (he : e.order = .natural)
    (h : e.solve m givens = .ok (⟨.solved found, stats⟩, e')) :
    (∀ hinted, givens.Within hinted → hinted.Within found →
      ∃ stats' e'', e.solve m hinted = .ok (⟨.solved found, stats'⟩, e'') ∧
        stats'.AtMost stats) ∧
      ∃ e'', e.solve m found = .ok (⟨.solved found, {}⟩, e'') := by
  obtain ⟨order, memory⟩ := e
  subst he
  obtain ⟨⟨hv, hs⟩, ha, last, hd⟩ := solve_eq_solved_iff.mp ⟨e', h⟩
  have hf := congrArg Search.Result.found hd
  have hsolution := (Search.completes_openVariables_iff hm hs ha).mp
    (Search.completes_of_decide (ValueOrder.natural_permutes m) Search.lt_of_mem_openVariables hf)
  have hcoherent := (hm.coherent_iff_holds hsolution.size_eq hsolution.complete).mpr hsolution.holds
  have hopen : Search.openVariables m found = [] := by
    refine List.eq_nil_iff_forall_not_mem.mpr fun var hvar => ?_
    obtain ⟨hlt, hnone⟩ := Search.mem_openVariables.mp hvar
    obtain ⟨value, hx⟩ := Assignment.isComplete_iff_exists.mp hsolution.complete var
      (Nat.lt_of_lt_of_eq hlt hsolution.size_eq.symm)
    rw [hnone] at hx
    cases hx
  refine ⟨fun hinted hgivens hfound => ?_, ?_⟩
  · have hhints : Search.Hinted m constraints givens hinted :=
      { within := hgivens
        size_eq := hs
        mem_domain := fun var value hg hx =>
          hsolution.inDomain var (hsolution.size_eq ▸
            Assignment.lt_size_of_get? (hfound.keeps var value hx)) hg value
            (hfound.keeps var value hx)
        coherent := hcoherent.of_extends hfound.keeps }
    have hcost : (Search.decide m .natural (Search.openVariables m hinted) hinted {} memory).found =
          some found ∧
        (Search.decide m .natural (Search.openVariables m hinted) hinted {} memory).stats.AtMost _ :=
      hhints.decide_eq_some hm hfound hcoherent rfl (Stats.AtMost.refl {}) hf
    rw [hd] at hcost
    cases hd' : Search.decide m .natural (Search.openVariables m hinted) hinted {} memory with
    | mk found' stats' memory' =>
      rw [hd'] at hcost
      obtain ⟨rfl, hle⟩ := hcost
      obtain ⟨e'', h''⟩ := (solve_eq_solved_iff (e := ⟨.natural, memory⟩)).mpr
        ⟨⟨hv, hhints.size_eq'⟩, (hm.agrees_iff hhints.size_eq').mpr hhints.coherent, memory', hd'⟩
      exact ⟨stats', e'', h'', hle⟩
  · refine solve_eq_solved_iff.mpr ⟨⟨hv, hsolution.size_eq⟩,
      (hm.agrees_iff hsolution.size_eq).mpr hcoherent, memory, ?_⟩
    rw [hopen]
    rfl

/-- Three numbers, the first below the second, that add up to six. The second one is the hint. -/
theorem solve_hinted_of_sum :
    let constraints : List (Constraint Nat) :=
      [⟨[0, 1], by decide, fun xs => xs.getD 0 0 < xs.getD 1 0⟩,
        ⟨[2, 0, 1], by decide, fun xs => xs.foldl (· + ·) 0 = 6⟩]
    let m := Model.ofConstraints [[0, 1, 2], [1, 2, 3], [1, 2]] constraints
    let e : Engine Unit Nat := ⟨.natural, ()⟩
    let givens : Assignment Nat := .ofList [none, none, none]
    let hinted : Assignment Nat := .ofList [none, some 3, none]
    let found : Assignment Nat := .ofList [some 1, some 3, some 2]
    let cost : Stats := { nodes := 8, checks := 18, backtracks := 5 }
    m.GivenBy constraints ∧ givens.Within hinted ∧ hinted.Within found ∧
      e.solve m givens = .ok (⟨.solved found, cost⟩, e) ∧
      ∃ stats e', e.solve m hinted = .ok (⟨.solved found, stats⟩, e') ∧ stats.AtMost cost := by
  intro constraints m e givens hinted found cost
  have hm : m.GivenBy constraints := Model.givenBy_ofConstraints (by decide)
  have hsecond : givens.get? 1 = none := rfl
  have hfirst : hinted.get? 0 = none := rfl
  have hthird : (hinted.assign 0 1).get? 2 = none := rfl
  have hgivens : givens.Within hinted := Assignment.within_assign hsecond 3
  have hfound : hinted.Within found :=
    (Assignment.within_assign hfirst 1).trans (Assignment.within_assign hthird 2)
  have h : e.solve m givens = .ok (⟨.solved found, cost⟩, e) := by
    have hreport : (Search.solveRecursively m e.order givens ()).report = ⟨.solved found, cost⟩ := by
      decide +kernel
    rw [solve_eq rfl rfl, hreport]
  exact ⟨hm, hgivens, hfound, h, (solve_hinted hm rfl h).1 hinted hgivens hfound⟩

end Engine
end ConstraintSearch
