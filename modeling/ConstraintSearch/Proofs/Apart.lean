import ConstraintSearch.Proofs.Pairwise

/-! Models whose check only keeps neighbours apart, such as grids of digits and coloured maps. They
are given by constraints on pairs. -/
namespace ConstraintSearch
variable {V : Type} [DecidableEq V]

def Constraint.apart (var other : Nat) : Constraint V :=
  ⟨[var, other], List.cons_ne_nil _ _, fun values => decide values.Nodup⟩

private theorem Constraint.relates_apart (var other : Nat) :
    (apart var other : Constraint V).Relates var other (· ≠ ·) :=
  .of_allows rfl fun x y => by simp [apart]

namespace Model
variable {m : Model V} {neighbours : Nat → List Nat}

/-- A value passes the check exactly when no neighbour has it. Neighbours are other variables, and
neighbours of each other. -/
structure KeepsApart (m : Model V) (neighbours : Nat → List Nat) : Prop where
  consistent_eq : ∀ a var value,
    m.consistent a var value = (neighbours var).all fun other => a.get? other != some value
  symm : ∀ var < m.count, ∀ other ∈ neighbours var, var ∈ neighbours other
  ne : ∀ var < m.count, ∀ other ∈ neighbours var, other ≠ var
  lt : ∀ var < m.count, ∀ other ∈ neighbours var, other < m.count

/-- A constraint for each pair of neighbours, in both directions. -/
def pairs (m : Model V) (neighbours : Nat → List Nat) : List (Constraint V) :=
  (List.range m.count).flatMap fun var => (neighbours var).map (Constraint.apart var)

namespace KeepsApart

theorem consistent_iff (h : m.KeepsApart neighbours) {a : Assignment V} {var : Nat} {value : V} :
    m.consistent a var value = true ↔ ∀ other ∈ neighbours var, a.get? other ≠ some value := by
  simp only [h.consistent_eq, List.all_eq_true, bne_iff_ne]

theorem compares (h : m.KeepsApart neighbours) :
    m.Compares neighbours Constraint.apart fun _ x _ y => x ≠ y where
  relates := Constraint.relates_apart
  fits_symm _ _ _ _ := Ne.symm
  consistent_iff a var value _ := by
    rw [h.consistent_iff]
    refine forall_congr' fun other => forall_congr' fun _ => ?_
    exact ⟨fun hne y hy he => hne (he ▸ hy), fun hall hy => hall value hy rfl⟩
  symm := h.symm
  ne := h.ne
  lt := h.lt

theorem givenBy (h : m.KeepsApart neighbours) : m.GivenBy (m.pairs neighbours) :=
  h.compares.givenBy

/-- A complete assignment satisfies the pairs when it reads differently at neighbours. -/
theorem holds_pairs_iff (h : m.KeepsApart neighbours) {b : Assignment V} (hs : b.size = m.count)
    (hb : b.isComplete = true) :
    (∀ c ∈ m.pairs neighbours, c.holds b = true) ↔
      ∀ var < m.count, ∀ other ∈ neighbours var, b.get? var ≠ b.get? other := by
  rw [show m.pairs neighbours = m.pairsOf neighbours Constraint.apart from rfl,
    h.compares.holds_iff hs hb]
  rw [Assignment.isComplete_iff_exists, hs] at hb
  refine forall_congr' fun var => forall_congr' fun hv => forall_congr' fun other =>
    forall_congr' fun hn => ⟨fun hall he => ?_, fun hne x y hx hy he => ?_⟩
  · obtain ⟨x, hx⟩ := hb var hv
    exact hall x x hx (he ▸ hx) rfl
  · rw [hx, hy, he] at hne
    exact hne rfl

end KeepsApart

end Model

end ConstraintSearch
