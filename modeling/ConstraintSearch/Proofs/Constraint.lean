import ConstraintSearch.Model
import ConstraintSearch.Proofs.Assignment
import Mathlib.Logic.Basic

/-! Models given by constraints. A constraint speaks of a few variables; a model is given by a list
of them when its check is what every constraint that is decided by the new value says. -/
namespace ConstraintSearch
variable {V : Type}

/-- A condition on the values of some variables, at least one. -/
structure Constraint (V : Type) where
  scope : List Nat
  scope_ne_nil : scope ≠ []
  /-- Which values, in the order of the scope, are allowed together. -/
  allows : List V → Bool

namespace Constraint

def values? (c : Constraint V) (a : Assignment V) : Option (List V) := (c.scope.map a.get?).mapM id

/-- The scope is assigned, and its values are allowed. -/
def holds (c : Constraint V) (a : Assignment V) : Bool := (c.values? a).any c.allows

def Assigned (c : Constraint V) (a : Assignment V) : Prop :=
  ∀ var ∈ c.scope, a.isAssigned var = true

theorem holds_congr {c : Constraint V} {a b : Assignment V}
    (h : ∀ var ∈ c.scope, a.get? var = b.get? var) : c.holds a = c.holds b := by
  rw [holds, holds, values?, values?, List.map_congr_left h]

end Constraint

/-- Every constraint whose whole scope is assigned holds. -/
def Coherent (constraints : List (Constraint V)) (a : Assignment V) : Prop :=
  ∀ c ∈ constraints, c.Assigned a → c.holds a = true

/-- The scopes are variables of the model, and a value passes the check exactly when with it every
constraint holds that is about its variable and whose other variables are assigned. -/
structure Model.GivenBy (m : Model V) (constraints : List (Constraint V)) : Prop where
  scope_lt : ∀ c ∈ constraints, ∀ var ∈ c.scope, var < m.count
  consistent_iff : ∀ a var value, a.size = m.count → var < m.count →
    (m.consistent a var value = true ↔ ∀ c ∈ constraints, var ∈ c.scope →
      (∀ other ∈ c.scope, other ≠ var → a.isAssigned other = true) →
        c.holds (a.assign var value) = true)

/-- A complete assignment that keeps the givens, takes all other values from their domains and
satisfies every constraint. -/
structure Solution (m : Model V) (constraints : List (Constraint V)) (givens b : Assignment V) :
    Prop where
  size_eq : b.size = m.count
  complete : b.isComplete = true
  keeps : ∀ var value, givens.get? var = some value → b.get? var = some value
  inDomain : ∀ var < m.count, givens.get? var = none →
    ∀ value, b.get? var = some value → value ∈ m.domain var
  holds : ∀ c ∈ constraints, c.holds b = true

section
variable {constraints : List (Constraint V)} {a b : Assignment V}

theorem Coherent.of_extends (hb : Coherent constraints b)
    (h : ∀ var value, a.get? var = some value → b.get? var = some value) :
    Coherent constraints a := by
  intro c hc ha
  have he : ∀ var ∈ c.scope, a.get? var = b.get? var := by
    intro var hv
    obtain ⟨value, hx⟩ := Assignment.isAssigned_iff.mp (ha var hv)
    rw [hx, h var value hx]
  rw [Constraint.holds_congr he]
  refine hb c hc fun var hv => ?_
  obtain ⟨value, hx⟩ := Assignment.isAssigned_iff.mp (ha var hv)
  exact Assignment.isAssigned_iff.mpr ⟨value, h var value hx⟩

end

namespace Model.GivenBy
variable {m : Model V} {constraints : List (Constraint V)} {a b : Assignment V}

/-- The values of an assignment pass the check exactly when no constraint that they decide is
broken. -/
theorem agrees_iff (h : m.GivenBy constraints) (hs : a.size = m.count) :
    m.agrees a = true ↔ Coherent constraints a := by
  rw [agrees_eq_true_iff]
  constructor
  · intro hall c hc ha
    obtain ⟨var, hv⟩ := List.exists_mem_of_ne_nil c.scope c.scope_ne_nil
    obtain ⟨value, hx⟩ := Assignment.isAssigned_iff.mp (ha var hv)
    have hh := (h.consistent_iff a var value hs (h.scope_lt c hc var hv)).mp (hall var value hx) c hc hv
      fun other ho _ => ha other ho
    rwa [Assignment.assign_of_get? hx] at hh
  · intro hco var value hx
    have hv : var < m.count := hs ▸ Assignment.lt_size_of_get? hx
    refine (h.consistent_iff a var value hs hv).mpr fun c hc hvc ho => ?_
    rw [Assignment.assign_of_get? hx]
    refine hco c hc fun other hm => ?_
    by_cases he : other = var
    · rw [he, Assignment.isAssigned_iff]
      exact ⟨value, hx⟩
    · exact ho other hm he

theorem consistent_iff_coherent (h : m.GivenBy constraints) (hs : a.size = m.count) {var : Nat}
    (hv : var < m.count) (ha : Coherent constraints a) (value : V) :
    m.consistent a var value = true ↔ Coherent constraints (a.assign var value) := by
  rw [h.consistent_iff a var value hs hv]
  constructor
  · intro hall c hc hca
    have hother : ∀ other ∈ c.scope, other ≠ var → a.isAssigned other = true := by
      intro other ho hne
      rw [Assignment.isAssigned, ← a.get?_assign_of_ne hne value]
      exact hca other ho
    by_cases hvc : var ∈ c.scope
    · exact hall c hc hvc hother
    · have hne : ∀ other ∈ c.scope, other ≠ var := fun other ho he => hvc (he ▸ ho)
      rw [Constraint.holds_congr fun other ho => a.get?_assign_of_ne (hne other ho) value]
      exact ha c hc fun other ho => hother other ho (hne other ho)
  · intro hco c hc hvc hother
    refine hco c hc fun other ho => ?_
    by_cases he : other = var
    · rw [he, Assignment.isAssigned_iff]
      exact ⟨value, Assignment.get?_assign_self (hs ▸ hv) value⟩
    · rw [Assignment.isAssigned, a.get?_assign_of_ne he value]
      exact hother other ho he

theorem coherent_iff_holds (h : m.GivenBy constraints) (hs : b.size = m.count)
    (hb : b.isComplete = true) :
    Coherent constraints b ↔ ∀ c ∈ constraints, c.holds b = true := by
  refine forall_congr' fun c => forall_congr' fun hc => ?_
  have ha : c.Assigned b := by
    intro var hv
    rw [Assignment.isComplete_iff] at hb
    exact hb var (hs ▸ h.scope_lt c hc var hv)
  exact ⟨fun hh => hh ha, fun hh _ => hh⟩

end Model.GivenBy

/-- The model of given domains and constraints. Its check skips the constraints that are not yet
decided. -/
def Model.ofConstraints (domains : List (List V)) (constraints : List (Constraint V)) : Model V where
  name := "Constraints"
  description := s!"{domains.length} variables, {constraints.length} constraints"
  count := domains.length
  domain var := domains.getD var []
  consistent a var value := constraints.all fun c =>
    !c.scope.contains var || c.scope.any (fun other => other != var && !a.isAssigned other) ||
      c.holds (a.assign var value)

/-- Any list of constraints on the variables gives a model. -/
theorem Model.givenBy_ofConstraints {domains : List (List V)} {constraints : List (Constraint V)}
    (h : ∀ c ∈ constraints, ∀ var ∈ c.scope, var < domains.length) :
    (ofConstraints domains constraints).GivenBy constraints := by
  refine ⟨h, fun a var value _ _ => ?_⟩
  rw [ofConstraints, List.all_eq_true]
  refine forall_congr' fun c => forall_congr' fun _ => ?_
  rw [Bool.or_eq_true, Bool.or_eq_true, Bool.not_eq_true', List.any_eq_true, or_assoc]
  simp only [Bool.and_eq_true, bne_iff_ne, Bool.not_eq_true', List.contains_eq_mem,
    decide_eq_false_iff_not]
  constructor
  · rintro (hn | ⟨other, ho, hne, hf⟩ | hh) hv hall
    · exact absurd hv hn
    · rw [hall other ho hne] at hf
      cases hf
    · exact hh
  · intro himp
    by_cases hv : var ∈ c.scope
    · by_cases hall : ∀ other ∈ c.scope, other ≠ var → a.isAssigned other = true
      · exact .inr (.inr (himp hv hall))
      · simp only [not_forall, Bool.not_eq_true, exists_prop] at hall
        obtain ⟨other, ho, hne, hf⟩ := hall
        exact .inr (.inl ⟨other, ho, hne, hf⟩)
    · exact .inl hv

end ConstraintSearch
