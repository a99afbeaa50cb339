import ConstraintSearch.Proofs.Constraint

/-! Models that check a value against the values of other variables one by one. They are given by
constraints on pairs of variables. -/
namespace ConstraintSearch
variable {V : Type}

/-- The constraint is about two variables and says that their values fit. -/
structure Constraint.Relates (c : Constraint V) (var other : Nat) (fits : V → V → Prop) : Prop where
  scope_eq : c.scope = [var, other]
  holds_iff : ∀ a, c.holds a = true ↔
    ∃ x y, a.get? var = some x ∧ a.get? other = some y ∧ fits x y

namespace Constraint.Relates
variable {c : Constraint V} {var other : Nat} {fits : V → V → Prop}

theorem of_allows (hs : c.scope = [var, other]) (h : ∀ x y, c.allows [x, y] = true ↔ fits x y) :
    c.Relates var other fits := by
  refine ⟨hs, fun a => ?_⟩
  rw [holds, values?, hs, List.map_cons, List.map_cons, List.map_nil]
  cases a.get? var <;> cases a.get? other <;> simp [h]

private theorem mem_scope (h : c.Relates var other fits) {third : Nat} :
    third ∈ c.scope ↔ third = var ∨ third = other := by
  rw [h.scope_eq, List.mem_cons, List.mem_singleton]

end Constraint.Relates

namespace Model
variable {m : Model V} {neighbours : Nat → List Nat} {pair : Nat → Nat → Constraint V}
  {fits : Nat → V → Nat → V → Prop}

/-- A value passes the check exactly when it fits the values of all neighbours. Neighbours are other
variables, and neighbours of each other; the constraints on the pairs say the same. -/
structure Compares (m : Model V) (neighbours : Nat → List Nat) (pair : Nat → Nat → Constraint V)
    (fits : Nat → V → Nat → V → Prop) : Prop where
  relates : ∀ var other, (pair var other).Relates var other fun x y => fits var x other y
  fits_symm : ∀ var x other y, fits var x other y → fits other y var x
  consistent_iff : ∀ a var value, a.size = m.count → (m.consistent a var value = true ↔
    ∀ other ∈ neighbours var, ∀ y, a.get? other = some y → fits var value other y)
  symm : ∀ var < m.count, ∀ other ∈ neighbours var, var ∈ neighbours other
  ne : ∀ var < m.count, ∀ other ∈ neighbours var, other ≠ var
  lt : ∀ var < m.count, ∀ other ∈ neighbours var, other < m.count

/-- A constraint for each pair of neighbours, in both directions. -/
def pairsOf (m : Model V) (neighbours : Nat → List Nat) (pair : Nat → Nat → Constraint V) :
    List (Constraint V) :=
  (List.range m.count).flatMap fun var => (neighbours var).map (pair var)

private theorem mem_pairsOf {c : Constraint V} :
    c ∈ m.pairsOf neighbours pair ↔ ∃ var < m.count, ∃ other ∈ neighbours var, pair var other = c := by
  simp only [pairsOf, List.mem_flatMap, List.mem_range, List.mem_map]

namespace Compares

theorem givenBy (h : m.Compares neighbours pair fits) : m.GivenBy (m.pairsOf neighbours pair) := by
  refine ⟨fun c hc => ?_, fun a var value hs hv => ?_⟩
  · obtain ⟨first, hf, second, hn, rfl⟩ := mem_pairsOf.mp hc
    intro var hm
    rcases (h.relates first second).mem_scope.mp hm with rfl | rfl
    · exact hf
    · exact h.lt first hf var hn
  · rw [h.consistent_iff a var value hs]
    have hself := Assignment.get?_assign_self (hs ▸ hv) value
    constructor
    · intro hall c hc hvc ho
      obtain ⟨first, hf, second, hn, rfl⟩ := mem_pairsOf.mp hc
      have hr := h.relates first second
      have hne := h.ne first hf second hn
      -- the new value stands on one side of the pair, and the other side is assigned
      rcases hr.mem_scope.mp hvc with rfl | rfl
      · obtain ⟨y, hy⟩ := Assignment.isAssigned_iff.mp (ho second (hr.mem_scope.mpr (.inr rfl)) hne)
        exact (hr.holds_iff _).mpr
          ⟨value, y, hself, (a.get?_assign_of_ne hne value).trans hy, hall second hn y hy⟩
      · obtain ⟨x, hx⟩ := Assignment.isAssigned_iff.mp
          (ho first (hr.mem_scope.mpr (.inl rfl)) (Ne.symm hne))
        refine (hr.holds_iff _).mpr
          ⟨x, value, (a.get?_assign_of_ne (Ne.symm hne) value).trans hx, hself, ?_⟩
        exact h.fits_symm _ _ _ _ (hall first (h.symm first hf var hn) x hx)
    · intro hall other hn y hy
      have hr := h.relates var other
      have hne := h.ne var hv other hn
      have hh := hall _ (mem_pairsOf.mpr ⟨var, hv, other, hn, rfl⟩) (hr.mem_scope.mpr (.inl rfl))
        fun third ht hnt => by
          rcases hr.mem_scope.mp ht with rfl | rfl
          · exact absurd rfl hnt
          · exact Assignment.isAssigned_iff.mpr ⟨y, hy⟩
      obtain ⟨x, z, hx, hz, hxz⟩ := (hr.holds_iff _).mp hh
      rw [hself] at hx
      rw [a.get?_assign_of_ne hne, hy] at hz
      rwa [Option.some.inj hx, Option.some.inj hz]

theorem holds_iff (h : m.Compares neighbours pair fits) {b : Assignment V} (hs : b.size = m.count)
    (hb : b.isComplete = true) :
    (∀ c ∈ m.pairsOf neighbours pair, c.holds b = true) ↔
      ∀ var < m.count, ∀ other ∈ neighbours var, ∀ x y,
        b.get? var = some x → b.get? other = some y → fits var x other y := by
  rw [Assignment.isComplete_iff_exists, hs] at hb
  constructor
  · intro hall var hv other hn x y hx hy
    have hc := hall _ (mem_pairsOf.mpr ⟨var, hv, other, hn, rfl⟩)
    obtain ⟨x', y', hx', hy', hf⟩ := ((h.relates var other).holds_iff b).mp hc
    rw [hx] at hx'
    rw [hy] at hy'
    rwa [Option.some.inj hx', Option.some.inj hy']
  · intro hall c hc
    obtain ⟨var, hv, other, hn, rfl⟩ := mem_pairsOf.mp hc
    obtain ⟨x, hx⟩ := hb var hv
    obtain ⟨y, hy⟩ := hb other (h.lt var hv other hn)
    exact ((h.relates var other).holds_iff b).mpr ⟨x, y, hx, hy, hall var hv other hn x y hx hy⟩

end Compares

end Model

end ConstraintSearch
