import ConstraintSearch.Proofs.Search.Account
import Mathlib.Algebra.BigOperators.Intervals
import Mathlib.Algebra.BigOperators.Ring.Finset

/-! How long a search can take, whatever its model and its value order are. The values ahead of the
frames are a supply that every check draws on, and opening a frame adds less to it than the value
before had left. -/
namespace ConstraintSearch
open Finset (range)
variable {σ V : Type}

/-- How many values the value order answered when the frame was opened. -/
def Frame.width (f : Frame V) : Nat := f.tried.length + f.ahead.length

namespace Search

/-- The checks of a whole tree over some variables, with so many values at each branch. -/
def treeSize (width vars : Nat) : Nat := ∑ i ∈ range vars, width ^ (i + 1)

/-- The checks that the values ahead can still lead to: each its own, and those of the whole tree over
the variables beyond its frame. -/
def supply (width vars : Nat) : List (Frame V) → Nat
  | [] => 0
  | f :: below =>
    f.ahead.length * (1 + treeSize width (vars - (below.length + 1))) + supply width vars below

private theorem treeSize_succ (width vars : Nat) :
    treeSize width (vars + 1) = width * (1 + treeSize width vars) := by
  rw [treeSize, Finset.sum_range_succ', Nat.mul_add, treeSize, Finset.mul_sum, Nat.add_comm]
  congr 1
  · rw [Nat.zero_add, Nat.pow_one, Nat.mul_one]
  · exact Finset.sum_congr rfl fun i _ => Nat.pow_succ'

section
variable {m : Model V} {o : ValueOrder σ V} {givens : Assignment V} {memory : σ}
  {s next : Search σ V} {e : Event V} {width vars : Nat}

private theorem supply_descend {start : Nat} (hdepth : (descend m o start s).depth ≤ vars)
    (hwidth : ∀ f ∈ (descend m o start s).frames, f.width ≤ width) :
    supply width vars (descend m o start s).frames ≤
      supply width vars s.frames + treeSize width (vars - s.depth) := by
  rcases descend_eq m o start s with ⟨var, he⟩ | he
  · rw [he] at hdepth hwidth ⊢
    have hlen : (o.arrange var (m.domain var) s.memory).1.length ≤ width := by
      simpa [Frame.width] using hwidth _ List.mem_cons_self
    have hmul := Nat.mul_le_mul_right (1 + treeSize width (vars - (s.frames.length + 1))) hlen
    have hroom : vars - s.depth = vars - (s.frames.length + 1) + 1 := by
      simp only [depth, List.length_cons] at hdepth ⊢
      omega
    rw [hroom, treeSize_succ, supply, Nat.add_comm]
    exact Nat.add_le_add_left hmul _
  · rw [he]
    exact Nat.le_add_right ..

/-- A move takes from the supply what it checks. -/
theorem Moves.checks_add_supply_le (hm : Moves m o s e next) (hdepth : next.depth ≤ vars)
    (hwidth : ∀ f ∈ next.frames, f.width ≤ width) :
    next.stats.checks + supply width vars next.frames ≤
      s.stats.checks + supply width vars s.frames := by
  cases hm with
  | reject _ =>
    simp only [supply, List.length_cons, Nat.add_one_mul]
    omega
  | assign _ =>
    have hsupply := supply_descend hdepth hwidth
    rw [stats_descend]
    simp only [supply, depth, List.length_cons, Nat.add_one_mul] at hsupply ⊢
    omega
  | backtrack hn => simp only [supply, hn, List.length_nil, Nat.zero_mul, Nat.zero_add, Nat.le_refl]
  | fail _ => exact Nat.add_le_add_left (Nat.zero_le _) _

private theorem Stacked.depth_le (h : Stacked m o givens s) (hs : givens.size = m.count) :
    s.depth ≤ (openVariables m givens).length := by
  obtain ⟨rest, he, _⟩ := h.openVariables_eq hs
  rw [he, List.length_append, List.length_reverse, List.length_map]
  exact Nat.le_add_right ..

theorem checks_add_supply_after (h : start m o memory givens = .ok s)
    (hwidth : ∀ n, ∀ f ∈ (after m o n s).frames, f.width ≤ width)
    (hvars : vars = (openVariables m givens).length) (n : Nat) :
    (after m o n s).stats.checks + supply width vars (after m o n s).frames ≤
      treeSize width vars := by
  obtain ⟨_, hs, hstart⟩ := start_eq_ok h
  have hdepth (n : Nat) : (after m o n s).depth ≤ vars := hvars ▸ (Stacked.after h n).depth_le hs
  refine after_induction
    (P := fun s => s.stats.checks + supply width vars s.frames ≤ treeSize width vars) h ?_ ?_ n
  · have hdepth := hdepth 0
    have hwidth := hwidth 0
    rw [after, hstart] at hdepth hwidth
    rw [hstart]
    by_cases ha : m.agrees givens = true
    · rw [if_pos ha] at hdepth hwidth ⊢
      rw [stats_descend]
      simpa [supply, depth] using supply_descend hdepth hwidth
    · rw [if_neg ha]
      exact Nat.zero_le _
  · intro n _ hm hle
    exact (hm.checks_add_supply_le (hdepth (n + 1)) (hwidth (n + 1))).trans hle

theorem backtracks_le_nodes (h : start m o memory givens = .ok s) (n : Nat) :
    (after m o n s).stats.backtracks ≤ (after m o n s).stats.nodes := by
  have hdepth := depth_after h n
  have hle : (after m o n s).undecided ≤ (after m o n s).depth := by
    rw [undecided, depth]
    split
    · rename_i hr
      exact List.length_pos_of_ne_nil ((Stacked.after h n).frames_ne_nil hr)
    · exact Nat.zero_le _
  omega

theorem nodes_le_checks (h : start m o memory givens = .ok s) (n : Nat) :
    (after m o n s).stats.nodes ≤ (after m o n s).stats.checks := by
  have haccount := account_after h n
  rw [haccount.nodes_eq, haccount.checks_eq]
  exact Nat.le_add_right ..

private theorem width_le_of_answers (h : start m o memory givens = .ok s)
    (ho : ∀ var < m.count, ∀ memory, (o.arrange var (m.domain var) memory).1.length ≤ width)
    (n : Nat) : ∀ f ∈ (after m o n s).frames, f.width ≤ width := by
  intro f hf
  have horderly := (Stacked.after h n).orderly (start_eq_ok h).2.1
  obtain ⟨memory, he⟩ := horderly.arranged f hf
  rw [Frame.width, ← List.length_reverse, ← List.length_append, he]
  exact ho f.var (horderly.frames_lt f hf) memory

private theorem isFinished_of_stepCount_le (h : start m o memory givens = .ok s) {n : Nat}
    (hn : (run m o s).stepCount ≤ n) : (after m o n s).isFinished = true := by
  by_cases ha : m.agrees givens = true
  · exact (isFinished_after_iff h ha n).mpr hn
  · -- conflicting givens leave nothing to search, and no step is made
    obtain ⟨_, _, rfl⟩ := start_eq_ok h
    rw [if_neg ha, after_of_finished Status.noConfusion]
    rfl

private theorem stats_report (s : Search σ V) : s.report.stats = s.stats := by
  unfold report
  split <;> rfl

end

/-- A search comes to an end after finitely many steps, whatever lists the value order answers. If
it opens no frame with more than `width` values, it makes at most the checks of a whole tree over the
variables that are open at first; its steps are the checks, the values taken back and one more. -/
theorem run_bounded {m : Model V} {o : ValueOrder σ V} {memory : σ} {givens : Assignment V}
    {s : Search σ V} (h : start m o memory givens = .ok s) :
    ((∃ n, after m o n s = run m o s) ∧ (run m o s).isFinished = true) ∧
      ((run m o s).report.stats.backtracks ≤ (run m o s).report.stats.nodes ∧
        (run m o s).report.stats.nodes ≤ (run m o s).report.stats.checks) ∧
      ∀ width, (∀ n, ∀ f ∈ (after m o n s).frames, f.width ≤ width) →
        let most := ∑ i ∈ range (openVariables m givens).length, width ^ (i + 1)
        (run m o s).report.stats.checks ≤ most ∧ (after m o (2 * most + 1) s).isFinished = true := by
  obtain ⟨n, hn⟩ := exists_after_eq_run (m := m) (o := o) s
  have hback := backtracks_le_nodes h n
  have hnodes := nodes_le_checks h n
  rw [hn] at hback hnodes
  rw [stats_report]
  refine ⟨⟨⟨n, hn⟩, isFinished_run s⟩, ⟨hback, hnodes⟩, fun width hwidth => ?_⟩
  have hchecks := (Nat.le_add_right ..).trans (checks_add_supply_after h hwidth rfl n)
  rw [hn, treeSize] at hchecks
  refine ⟨hchecks, isFinished_of_stepCount_le h ?_⟩
  rw [stepCount]
  split <;> omega

/-- The last queen is given, and an order that turns the domain round on every second question adds a
number twice that is not on the board. -/
theorem run_bounded_of_given_queen :
    let m := Queens.model 4
    let o : ValueOrder Nat Nat := ⟨fun _ domain asked =>
      (if asked % 2 = 0 then domain else domain.reverse ++ [7, 7], asked + 1)⟩
    let givens : Assignment Nat := .ofList [none, none, none, some 1]
    ∃ s, start m o 4 givens = .ok s ∧ (∀ n, ∀ f ∈ (after m o n s).frames, f.width ≤ 6) ∧
      (run m o s).report.stats.checks ≤ 6 + 36 + 216 ∧
      (after m o 517 s).isFinished = true := by
  intro m o givens
  let s : Search Nat Nat := descend m o 0 ⟨givens, [], {}, .running, 4⟩
  have h : start m o 4 givens = .ok s := rfl
  have ho : ∀ var < m.count, ∀ memory, (o.arrange var (m.domain var) memory).1.length ≤ 6 := by
    intro var _ asked
    change (if asked % 2 = 0 then List.range 4 else (List.range 4).reverse ++ [7, 7]).length ≤ 6
    split <;> decide
  have hwidth := width_le_of_answers h ho
  obtain ⟨hchecks, hfinished⟩ := (run_bounded h).2.2 6 hwidth
  have hmost : ∑ i ∈ range (openVariables m givens).length, 6 ^ (i + 1) = 258 := by decide +kernel
  rw [hmost] at hchecks hfinished
  exact ⟨s, h, hwidth, hchecks, hfinished⟩

end Search
end ConstraintSearch
