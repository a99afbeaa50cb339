import ConstraintSearch.Proofs.Constraint
import ConstraintSearch.Proofs.Search.Completions
import ConstraintSearch.Proofs.Search.Refinement
import Mathlib.Algebra.Order.Ring.Nat

/-! What the order of the values cannot change: whether a search succeeds, and what a failed search
costs. A failed search walks a whole tree of prefixes, which is described without any order. -/
namespace ConstraintSearch
variable {σ V : Type}

/-- Counters after a failed search: what was assigned was taken back. -/
def Stats.raise (stats : Stats) (nodes checks : Nat) : Stats :=
  { stats with
    nodes := stats.nodes + nodes
    checks := stats.checks + checks
    backtracks := stats.backtracks + nodes }

private theorem Stats.raise_raise (stats : Stats) (nodes checks nodes' checks' : Nat) :
    (stats.raise nodes checks).raise nodes' checks' =
      stats.raise (nodes + nodes') (checks + checks') := by
  simp only [raise, Nat.add_assoc]

namespace Search

/-- All lists of values for the first variables of a list, from the empty one to those for all
variables. A value that a domain repeats counts as often. -/
def prefixes (m : Model V) : List Nat → List (List V)
  | [] => [[]]
  | var :: rest => [] :: (m.domain var).flatMap fun value => (prefixes m rest).map (value :: ·)

/-- Each value passes the check against the assignment and the values before it. -/
def passes (m : Model V) : List Nat → Assignment V → List V → Bool
  | _, _, [] => true
  | [], _, _ :: _ => false
  | var :: rest, a, value :: values =>
    m.consistent a var value && passes m rest (a.assign var value) values

def tree (m : Model V) (vars : List Nat) (a : Assignment V) : List (List V) :=
  (prefixes m vars).filter (passes m vars a)

/-- How many values the domain of the next variable has. After the last variable there are none. -/
def choices (m : Model V) (vars : List Nat) (values : List V) : Nat :=
  match vars.drop values.length with
  | [] => 0
  | var :: _ => (m.domain var).length

/-- The number of prefixes with at least one value. -/
def treeNodes (m : Model V) (vars : List Nat) (a : Assignment V) : Nat :=
  (tree m vars a).countP fun values => !values.isEmpty

def treeChecks (m : Model V) (vars : List Nat) (a : Assignment V) : Nat :=
  ((tree m vars a).map (choices m vars)).sum

/-- What a search over some givens costs when it fails. Conflicting givens cost nothing; else each
prefix that passes is assigned and taken back, and after each the values of the next variable are
checked. -/
def failureCost (m : Model V) (givens : Assignment V) : Stats :=
  if ∀ var < givens.size, ∀ value ∈ givens.get? var, m.consistent givens var value = true then
    { nodes := treeNodes m (openVariables m givens) givens
      checks := treeChecks m (openVariables m givens) givens
      backtracks := treeNodes m (openVariables m givens) givens }
  else {}

/-- Values that pass one after the other can be found for all open variables. -/
def Solvable (m : Model V) (givens : Assignment V) : Prop :=
  m.agrees givens = true ∧ ∃ b, Completes m (openVariables m givens) givens b

section
variable {m : Model V} {a : Assignment V} {var : Nat} {vars rest : List Nat}

/-- Below the root there is a subtree for each value that passes. -/
theorem tree_cons : tree m (var :: rest) a =
    [] :: ((m.domain var).filter (m.consistent a var)).flatMap fun value =>
      (tree m rest (a.assign var value)).map (value :: ·) := by
  rw [tree, prefixes, List.filter_cons_of_pos rfl, List.filter_flatMap]
  congr 1
  induction m.domain var with
  | nil => rfl
  | cons value values ih =>
    rw [List.flatMap_cons, ih, List.filter_map]
    by_cases hc : m.consistent a var value = true
    · rw [List.filter_cons_of_pos hc, List.flatMap_cons]
      congr 2
      refine List.filter_congr fun values _ => ?_
      simp [passes, hc]
    · rw [List.filter_cons_of_neg hc]
      have hnone : (prefixes m rest).filter (passes m (var :: rest) a ∘ (value :: ·)) = [] := by
        simp [List.filter_eq_nil_iff, passes, hc]
      rw [hnone, List.map_nil, List.nil_append]

private theorem length_tree : (tree m vars a).length = treeNodes m vars a + 1 := by
  cases vars with
  | nil => rfl
  | cons var rest =>
    rw [treeNodes, tree_cons, List.length_cons, List.countP_cons_of_neg (by simp)]
    congr 1
    rw [eq_comm, List.countP_eq_length]
    intro values hv
    obtain ⟨value, _, hv⟩ := List.mem_flatMap.mp hv
    obtain ⟨below, _, rfl⟩ := List.mem_map.mp hv
    rfl

theorem treeNodes_cons : treeNodes m (var :: rest) a =
    (((m.domain var).filter (m.consistent a var)).map fun value =>
      treeNodes m rest (a.assign var value) + 1).sum := by
  have hl : treeNodes m (var :: rest) a + 1 = _ := length_tree.symm
  rw [tree_cons, List.length_cons, Nat.add_right_cancel_iff, List.length_flatMap] at hl
  rw [hl]
  simp only [List.length_map, length_tree]

theorem treeChecks_cons : treeChecks m (var :: rest) a = (m.domain var).length +
    (((m.domain var).filter (m.consistent a var)).map fun value =>
      treeChecks m rest (a.assign var value)).sum := by
  rw [treeChecks, tree_cons, List.map_cons, List.sum_cons]
  congr 1
  induction (m.domain var).filter (m.consistent a var) with
  | nil => rfl
  | cons value values ih =>
    rw [List.flatMap_cons, List.map_append, List.sum_append, ih, List.map_map, List.map_cons,
      List.sum_cons]
    rfl

end

section
variable {m : Model V} {o : ValueOrder σ V} {a : Assignment V}

private theorem stats_tryValues {below : Assignment V → Stats → σ → Result σ V} {var : Nat}
    {nodes checks : V → Nat}
    (hbelow : ∀ value stats memory, (below (a.assign var value) stats memory).found = none →
      (below (a.assign var value) stats memory).stats = stats.raise (nodes value) (checks value))
    {values : List V} {stats : Stats} {memory : σ}
    (h : (tryValues m below var a values stats memory).found = none) :
    (tryValues m below var a values stats memory).stats =
      stats.raise ((values.filter (m.consistent a var)).map fun value => nodes value + 1).sum
        (values.length + ((values.filter (m.consistent a var)).map checks).sum) := by
  induction values generalizing stats memory with
  | nil => rfl
  | cons value values ih =>
    rw [tryValues] at h ⊢
    by_cases hc : m.consistent a var value = true
    · rw [if_pos hc] at h ⊢
      have hb := hbelow value
        { stats with checks := stats.checks + 1, nodes := stats.nodes + 1 } memory
      generalize below (a.assign var value)
        { stats with checks := stats.checks + 1, nodes := stats.nodes + 1 } memory = r at h hb ⊢
      obtain ⟨found, stats', memory'⟩ := r
      cases found with
      | some found => cases h
      | none =>
        -- the value is counted once when it is assigned and once when it is taken back
        have hs : ({ stats' with backtracks := stats'.backtracks + 1 } : Stats) =
            stats.raise (nodes value + 1) (checks value + 1) := by
          rw [show stats' = _ from hb rfl]
          simp only [Stats.raise, Stats.mk.injEq, and_true]
          omega
        rw [ih h, hs, Stats.raise_raise, List.filter_cons_of_pos hc, List.map_cons, List.map_cons,
          List.sum_cons, List.sum_cons, List.length_cons]
        congr 1
        omega
    · rw [if_neg hc] at h ⊢
      have hs : ({ stats with checks := stats.checks + 1 } : Stats) = stats.raise 0 1 := rfl
      rw [ih h, hs, Stats.raise_raise, List.filter_cons_of_neg hc, List.length_cons]
      congr 1 <;> omega

/-- A failed search walks the whole tree below an assignment. -/
theorem stats_decide (ho : o.Permutes m) {vars : List Nat} (hv : ∀ var ∈ vars, var < m.count)
    {stats : Stats} {memory : σ} (h : (decide m o vars a stats memory).found = none) :
    (decide m o vars a stats memory).stats =
      stats.raise (treeNodes m vars a) (treeChecks m vars a) := by
  induction vars generalizing a stats memory with
  | nil => cases h
  | cons var rest ih =>
    obtain ⟨hvar, hrest⟩ := List.forall_mem_cons.mp hv
    have hp := ho var hvar memory
    have ht := stats_tryValues (fun value _ _ hn => ih hrest hn) h
    rw [decide]
    refine ht.trans ?_
    rw [treeNodes_cons, treeChecks_cons, hp.length_eq, ((hp.filter _).map _).sum_nat,
      ((hp.filter _).map _).sum_nat]

theorem isSolved_of_solvable (ho : o.Permutes m) {givens : Assignment V} (h : Solvable m givens)
    (memory : σ) : (solveRecursively m o givens memory).report.outcome.isSolved = true := by
  obtain ⟨ha, b, hb⟩ := h
  rw [solveRecursively, if_pos ha, Result.report]
  cases hf : (decide m o (openVariables m givens) givens {} memory).found with
  | some found => rfl
  | none => exact absurd hb (not_completes_of_decide ho lt_of_mem_openVariables hf b)

theorem report_of_not_solvable (ho : o.Permutes m) {givens : Assignment V}
    (h : ¬ Solvable m givens) (memory : σ) :
    (solveRecursively m o givens memory).report = ⟨.unsatisfiable, failureCost m givens⟩ := by
  simp only [solveRecursively, failureCost, ← agrees_iff_forall_lt]
  by_cases ha : m.agrees givens = true
  · rw [if_pos ha, if_pos ha, Result.report]
    cases hf : (decide m o (openVariables m givens) givens {} memory).found with
    | some b => exact absurd ⟨ha, b, completes_of_decide ho lt_of_mem_openVariables hf⟩ h
    | none =>
      rw [stats_decide ho lt_of_mem_openVariables hf]
      simp only [Stats.raise, Nat.zero_add]
  · rw [if_neg ha, if_neg ha]
    rfl

end

/-- Two searches from the same givens, with orders that permute the domains, both come to an end.
Either both are solved, or both fail at the same cost, which is that of walking the whole tree. The
orders may remember, each in its own way. -/
theorem run_report_of_permutes {τ : Type} {m : Model V} {o : ValueOrder σ V} {o' : ValueOrder τ V}
    {givens : Assignment V} {memory : σ} {memory' : τ} {s : Search σ V} {s' : Search τ V}
    (ho : o.Permutes m) (ho' : o'.Permutes m) (h : start m o memory givens = .ok s)
    (h' : start m o' memory' givens = .ok s') :
    ((run m o s).isFinished = true ∧ (run m o' s').isFinished = true) ∧
      (((run m o s).report.outcome.isSolved = true ∧
          (run m o' s').report.outcome.isSolved = true) ∨
        ((run m o s).report = ⟨.unsatisfiable, failureCost m givens⟩ ∧
          (run m o' s').report = ⟨.unsatisfiable, failureCost m givens⟩)) := by
  refine ⟨⟨isFinished_run s, isFinished_run s'⟩, ?_⟩
  rw [(run_eq_solveRecursively h).1, (run_eq_solveRecursively h').1]
  by_cases hsolvable : Solvable m givens
  · exact .inl ⟨isSolved_of_solvable ho hsolvable memory, isSolved_of_solvable ho' hsolvable memory'⟩
  · exact .inr ⟨report_of_not_solvable ho hsolvable memory,
      report_of_not_solvable ho' hsolvable memory'⟩

/-- Three different numbers out of two, one of which the first domain has twice. The second order
turns every other domain round. -/
theorem run_report_of_three_out_of_two :
    let apart (xs : List Nat) : Bool := xs.getD 0 0 != xs.getD 1 0
    let m := Model.ofConstraints [[1, 1, 2], [1, 2], [1, 2]]
      [⟨[0, 1], by decide, apart⟩, ⟨[0, 2], by decide, apart⟩, ⟨[1, 2], by decide, apart⟩]
    let o : ValueOrder Unit Nat := .natural
    let o' : ValueOrder Nat Nat := ⟨fun _ domain asked =>
      (if asked % 2 = 0 then domain else domain.reverse, asked + 1)⟩
    o.Permutes m ∧ o'.Permutes m ∧ ∃ s s', start m o () (.blank 3) = .ok s ∧
      start m o' 0 (.blank 3) = .ok s' ∧
      (run m o s).report = ⟨.unsatisfiable, { nodes := 6, checks := 15, backtracks := 6 }⟩ ∧
      (run m o' s').report = ⟨.unsatisfiable, { nodes := 6, checks := 15, backtracks := 6 }⟩ := by
  intro apart m o o'
  have ho : o.Permutes m := ValueOrder.natural_permutes m
  have ho' : o'.Permutes m := by
    intro var _ asked
    change (if asked % 2 = 0 then m.domain var else (m.domain var).reverse).Perm _
    split
    · exact .refl _
    · exact List.reverse_perm _
  have h : start m o () (.blank 3) = .ok (descend m o 0 ⟨.blank 3, [], {}, .running, ()⟩) := rfl
  have h' : start m o' 0 (.blank 3) = .ok (descend m o' 0 ⟨.blank 3, [], {}, .running, 0⟩) := rfl
  have hcost : failureCost m (.blank 3) = { nodes := 6, checks := 15, backtracks := 6 } := by
    decide +kernel
  refine ⟨ho, ho', _, _, h, h', ?_⟩
  obtain ⟨_, ⟨hs, _⟩ | hr⟩ := run_report_of_permutes ho ho' h h'
  · rw [(run_eq_solveRecursively h).1] at hs
    exact absurd hs (by decide +kernel)
  · rwa [hcost] at hr

end Search

end ConstraintSearch
