import ConstraintSearch.Proofs.Search.OpenVariables

/-! What the recursive search finds. A completion gives each open variable in turn a value of its
domain that passes the check; the search finds one exactly if there is one, and with a fixed order
of values it finds the first. -/
namespace ConstraintSearch
variable {σ V : Type}

/-- The order answers the domains of a model with the same values, each as often. -/
def ValueOrder.Permutes (o : ValueOrder σ V) (m : Model V) : Prop :=
  ∀ var < m.count, ∀ memory, (o.arrange var (m.domain var) memory).1.Perm (m.domain var)

/-- At the lowest variable where the two differ, the value of the first stands earlier in the list
of that variable. -/
def Assignment.Precedes [DecidableEq V] (lists : Nat → List V) (a b : Assignment V) : Prop :=
  ∃ var x y, (∀ lower < var, a.get? lower = b.get? lower) ∧ a.get? var = some x ∧
    b.get? var = some y ∧ (lists var).idxOf x < (lists var).idxOf y

theorem ValueOrder.natural_permutes (m : Model V) : (natural : ValueOrder σ V).Permutes m :=
  fun _ _ _ => .refl _

theorem ValueOrder.reversed_permutes (m : Model V) : (reversed : ValueOrder σ V).Permutes m :=
  fun _ _ _ => List.reverse_perm _

namespace Search

/-- `b` comes from `a` by giving the variables of the list, in turn, values of their domains that
pass the check. -/
def Completes (m : Model V) : List Nat → Assignment V → Assignment V → Prop
  | [], a, b => b = a
  | var :: rest, a, b => ∃ value ∈ m.domain var,
      m.consistent a var value = true ∧ Completes m rest (a.assign var value) b

theorem Completes.get?_of_notMem {m : Model V} {vars : List Nat} {a b : Assignment V}
    (h : Completes m vars a b) {var : Nat} (hv : var ∉ vars) : b.get? var = a.get? var := by
  induction vars generalizing a with
  | nil => rw [show b = a from h]
  | cons first rest ih =>
    obtain ⟨value, _, _, hr⟩ := h
    rw [List.mem_cons, not_or] at hv
    rw [ih hr hv.2, a.get?_assign_of_ne hv.1]

section
variable {m : Model V} {below : Assignment V → Stats → σ → Result σ V} {var : Nat} {a : Assignment V}

private theorem tryValues_eq_some {values : List V} {stats : Stats} {memory : σ} {b : Assignment V}
    (h : (tryValues m below var a values stats memory).found = some b) :
    ∃ earlier value later, values = earlier ++ value :: later ∧ m.consistent a var value = true ∧
      (∃ stats memory, (below (a.assign var value) stats memory).found = some b) ∧
      ∀ other ∈ earlier, m.consistent a var other = true →
        ∃ stats memory, (below (a.assign var other) stats memory).found = none := by
  induction values generalizing stats memory with
  | nil => cases h
  | cons value values ih =>
    rw [tryValues] at h
    by_cases hc : m.consistent a var value = true
    · rw [if_pos hc] at h
      split at h
      · rename_i found _ _ hb
        have hf := (congrArg Result.found hb).trans h
        exact ⟨[], value, values, rfl, hc, ⟨_, _, hf⟩, fun other ho => nomatch ho⟩
      · rename_i hb
        obtain ⟨earlier, next, later, rfl, hn, hf, he⟩ := ih h
        refine ⟨value :: earlier, next, later, rfl, hn, hf, fun other ho ho' => ?_⟩
        rcases List.mem_cons.mp ho with rfl | ho
        · exact ⟨_, _, congrArg Result.found hb⟩
        · exact he other ho ho'
    · rw [if_neg hc] at h
      obtain ⟨earlier, next, later, rfl, hn, hf, he⟩ := ih h
      refine ⟨value :: earlier, next, later, rfl, hn, hf, fun other ho ho' => ?_⟩
      rcases List.mem_cons.mp ho with rfl | ho
      · exact absurd ho' hc
      · exact he other ho ho'

private theorem tryValues_eq_none {values : List V} {stats : Stats} {memory : σ}
    (h : (tryValues m below var a values stats memory).found = none) :
    ∀ value ∈ values, m.consistent a var value = true →
      ∃ stats memory, (below (a.assign var value) stats memory).found = none := by
  induction values generalizing stats memory with
  | nil => exact fun value hv => nomatch hv
  | cons first values ih =>
    rw [tryValues] at h
    intro value hv hc
    by_cases hf : m.consistent a var first = true
    · rw [if_pos hf] at h
      split at h
      · cases h
      · rename_i hb
        rcases List.mem_cons.mp hv with rfl | hv
        · exact ⟨_, _, congrArg Result.found hb⟩
        · exact ih h value hv hc
    · rw [if_neg hf] at h
      rcases List.mem_cons.mp hv with rfl | hv
      · exact absurd hc hf
      · exact ih h value hv hc

end

section
variable {m : Model V} {o : ValueOrder σ V}

theorem completes_of_decide (ho : o.Permutes m) {vars : List Nat}
    (hv : ∀ var ∈ vars, var < m.count) {a b : Assignment V} {stats : Stats} {memory : σ}
    (h : (decide m o vars a stats memory).found = some b) : Completes m vars a b := by
  induction vars generalizing a stats memory with
  | nil => exact (Option.some.inj h).symm
  | cons var rest ih =>
    obtain ⟨hvar, hrest⟩ := List.forall_mem_cons.mp hv
    obtain ⟨earlier, value, later, he, hc, ⟨_, _, hf⟩, _⟩ := tryValues_eq_some h
    have hd : value ∈ m.domain var := by
      rw [← (ho var hvar memory).mem_iff, he]
      simp
    exact ⟨value, hd, hc, ih hrest hf⟩

/-- Where nothing is found there is no completion. -/
theorem not_completes_of_decide (ho : o.Permutes m) {vars : List Nat}
    (hv : ∀ var ∈ vars, var < m.count) {a : Assignment V} {stats : Stats} {memory : σ}
    (h : (decide m o vars a stats memory).found = none) (b : Assignment V) :
    ¬ Completes m vars a b := by
  induction vars generalizing a stats memory with
  | nil => cases h
  | cons var rest ih =>
    obtain ⟨hvar, hrest⟩ := List.forall_mem_cons.mp hv
    rintro ⟨value, hd, hc, hr⟩
    have hx : value ∈ (o.arrange var (m.domain var) memory).1 := (ho var hvar memory).mem_iff.mpr hd
    obtain ⟨_, _, hn⟩ := tryValues_eq_none h value hx hc
    exact ih hrest hn hr

private theorem idxOf_lt_idxOf [DecidableEq V] {earlier later : List V} {x y : V}
    (hy : y ∉ earlier) (hne : y ≠ x) :
    (earlier ++ x :: later).idxOf x < (earlier ++ x :: later).idxOf y := by
  have hx : (earlier ++ x :: later).idxOf x ≤ earlier.length := by
    rw [List.idxOf_append]
    split
    · exact List.idxOf_le_length
    · simp
  have hlt : earlier.length < (earlier ++ x :: later).idxOf y := by
    rw [List.idxOf_append, if_neg hy, List.idxOf_cons, beq_false_of_ne (Ne.symm hne), cond_false]
    omega
  exact Nat.lt_of_le_of_lt hx hlt

/-- If the order always answers the same lists, the first completion is found. -/
theorem decide_precedes [DecidableEq V] (ho : o.Permutes m) {lists : Nat → List V}
    (hl : ∀ var memory, (o.arrange var (m.domain var) memory).1 = lists var) {vars : List Nat}
    {a b c : Assignment V} {stats : Stats} {memory : σ} (hs : vars.Pairwise (· < ·))
    (hv : ∀ var ∈ vars, var < m.count) (ha : a.size = m.count)
    (hb : (decide m o vars a stats memory).found = some b) (hc : Completes m vars a c) :
    c = b ∨ b.Precedes lists c := by
  induction vars generalizing a stats memory with
  | nil =>
    left
    exact Eq.trans hc (Option.some.inj hb)
  | cons var rest ih =>
    obtain ⟨earlier, value, later, he, hok, ⟨_, _, hf⟩, hfail⟩ := tryValues_eq_some hb
    rw [hl] at he
    obtain ⟨other, hd, hok', hr⟩ := hc
    obtain ⟨hlow, hs⟩ := List.pairwise_cons.mp hs
    obtain ⟨hvar, hrest⟩ := List.forall_mem_cons.mp hv
    by_cases hx : other = value
    · subst hx
      exact ih hs hrest ((a.size_assign var other).trans ha) hf hr
    · right
      have hb := completes_of_decide ho hrest hf
      have hn : var ∉ rest := fun hm => Nat.lt_irrefl var (hlow var hm)
      have hbv := hb.get?_of_notMem hn
      have hcv := hr.get?_of_notMem hn
      rw [Assignment.get?_assign_self (ha ▸ hvar)] at hbv hcv
      refine ⟨var, value, other, fun lower hlt => ?_, hbv, hcv, ?_⟩
      · -- lower variables are not on the list, so both read what `a` reads
        have hn : lower ∉ rest := fun hm => Nat.lt_asymm hlt (hlow lower hm)
        have hne : lower ≠ var := Nat.ne_of_lt hlt
        rw [hb.get?_of_notMem hn, hr.get?_of_notMem hn, a.get?_assign_of_ne hne,
          a.get?_assign_of_ne hne]
      · -- the other value is not among those that failed before
        have hn : other ∉ earlier := by
          intro hm
          obtain ⟨_, _, hnone⟩ := hfail other hm hok'
          exact not_completes_of_decide ho hrest hnone c hr
        rw [he]
        exact idxOf_lt_idxOf hn hx

end

end Search

end ConstraintSearch
