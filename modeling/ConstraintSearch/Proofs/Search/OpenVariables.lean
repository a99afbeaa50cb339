import ConstraintSearch.Proofs.Assignment
import ConstraintSearch.Search.Recursive
import Mathlib.Data.List.Sort

/-! The variables a search still has to decide. Looking for the lowest one from a place on reads
the head of the list of them, and what lies further on does not change with what is decided. -/
namespace ConstraintSearch.Search
variable {V : Type}

/-- The variables without a value from `start` on, in order. -/
def openFrom (m : Model V) (a : Assignment V) (start : Nat) : List Nat :=
  (List.range' start (m.count - start)).filter fun var => !a.isAssigned var

theorem openVariables_eq (m : Model V) (a : Assignment V) : openVariables m a = openFrom m a 0 := by
  rw [openVariables, openFrom, List.range_eq_range', Nat.sub_zero]

theorem nextUnassigned_eq (m : Model V) (a : Assignment V) (start : Nat) :
    nextUnassigned m a start = (openFrom m a start).head? :=
  List.head?_filter.symm

theorem mem_openFrom {m : Model V} {a : Assignment V} {start var : Nat} :
    var ∈ openFrom m a start ↔ start ≤ var ∧ var < m.count ∧ a.get? var = none := by
  rw [openFrom, List.mem_filter, List.mem_range'_1, Bool.not_eq_true',
    Assignment.isAssigned_eq_false_iff, ← and_assoc]
  exact and_congr_left fun _ => by omega

theorem mem_openVariables {m : Model V} {a : Assignment V} {var : Nat} :
    var ∈ openVariables m a ↔ var < m.count ∧ a.get? var = none := by
  rw [openVariables_eq, mem_openFrom]
  exact and_iff_right (Nat.zero_le var)

theorem lt_of_mem_openVariables {m : Model V} {a : Assignment V} :
    ∀ var ∈ openVariables m a, var < m.count :=
  fun _ hv => (mem_openVariables.mp hv).1

theorem lt_of_openVariables_eq {m : Model V} {a : Assignment V} {var : Nat} {rest : List Nat}
    (h : openVariables m a = var :: rest) : var < m.count ∧ a.get? var = none := by
  rw [← mem_openVariables, h]
  exact List.mem_cons_self

private theorem openFrom_ascending (m : Model V) (a : Assignment V) (start : Nat) :
    (openFrom m a start).Pairwise (· < ·) :=
  List.Pairwise.filter _ List.pairwise_lt_range'

theorem openVariables_ascending (m : Model V) (a : Assignment V) :
    (openVariables m a).Pairwise (· < ·) := by
  rw [openVariables_eq]
  exact openFrom_ascending m a 0

theorem lt_of_mem_rest {m : Model V} {a : Assignment V} {var : Nat} {rest : List Nat}
    (h : openVariables m a = var :: rest) : ∀ other ∈ rest, var < other ∧ other < m.count := by
  intro other ho
  have hascending := openVariables_ascending m a
  rw [h] at hascending
  exact ⟨(List.pairwise_cons.mp hascending).1 other ho,
    lt_of_mem_openVariables other (h ▸ List.mem_cons_of_mem _ ho)⟩

theorem openFrom_tail {m : Model V} {a : Assignment V} {start var : Nat} {rest : List Nat}
    (h : openFrom m a start = var :: rest) : openFrom m a (var + 1) = rest := by
  have hs := openFrom_ascending m a start
  rw [h, List.pairwise_cons] at hs
  refine (openFrom_ascending m a (var + 1)).eq_of_mem_iff hs.2 fun n => ?_
  have hn : n ∈ var :: rest ↔ start ≤ n ∧ n < m.count ∧ a.get? n = none := by
    rw [← h, mem_openFrom]
  have hv : start ≤ var ∧ var < m.count ∧ a.get? var = none := by
    rw [← mem_openFrom, h]
    exact List.mem_cons_self
  rw [mem_openFrom]
  constructor
  · rintro ⟨hlt, ho⟩
    rcases List.mem_cons.mp (hn.mpr ⟨by omega, ho⟩) with rfl | hr
    · omega
    · exact hr
  · intro hr
    exact ⟨hs.1 n hr, (hn.mp (List.mem_cons_of_mem _ hr)).2⟩

/-- Deciding a variable does not change what is open above it. -/
theorem openFrom_assign (m : Model V) (a : Assignment V) {var start : Nat} (h : var < start)
    (value : V) : openFrom m (a.assign var value) start = openFrom m a start := by
  refine (openFrom_ascending ..).eq_of_mem_iff (openFrom_ascending ..) fun n => ?_
  rw [mem_openFrom, mem_openFrom]
  refine and_congr_right fun hn => ?_
  rw [a.get?_assign_of_ne (by omega : n ≠ var)]

/-- With the lowest open variable decided, the others are left. -/
theorem openVariables_assign {m : Model V} {a : Assignment V} {var : Nat} {rest : List Nat}
    (hs : a.size = m.count) (h : openVariables m a = var :: rest) (value : V) :
    openVariables m (a.assign var value) = rest := by
  have hv := lt_of_openVariables_eq h
  have ha := openVariables_ascending m a
  rw [h, List.pairwise_cons] at ha
  have hm (n : Nat) : n ∈ var :: rest ↔ n < m.count ∧ a.get? n = none := by
    rw [← h, mem_openVariables]
  refine (openVariables_ascending ..).eq_of_mem_iff ha.2 fun n => ?_
  rw [mem_openVariables]
  by_cases hn : n = var
  · subst hn
    rw [Assignment.get?_assign_self (hs ▸ hv.1)]
    constructor
    · rintro ⟨_, hh⟩
      cases hh
    · intro hh
      exact absurd (ha.1 n hh) (Nat.lt_irrefl n)
  · rw [a.get?_assign_of_ne hn, ← hm, List.mem_cons, or_iff_right hn]

end ConstraintSearch.Search
