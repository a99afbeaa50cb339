import ConstraintSearch.Assignment

/-!
Models: what a search needs to know of a problem.
-/

namespace ConstraintSearch

/-- Variables are numbered from zero. The order of the numbers is the order of the search, and
the order of a domain is the natural order of its values. -/
structure Model (V : Type) where
  name : String
  description : String
  count : Nat
  domain : Nat → List V
  /-- Whether giving a variable a value agrees with what the other variables hold. What the
  variable itself holds is meant to be ignored; nothing here enforces that. -/
  consistent : Assignment V → Nat → V → Bool
  /-- Whether that can be found out with variables numbered in words. It can for all variables of
  the model itself. -/
  checkable : Assignment V → Nat → V → Bool := fun _ _ _ => true

def wordLimit : Nat := Nat.pow 2 64

namespace Model
variable {V : Type}

/-- Whether giving any variable a value agrees with the others, also beyond those of the model. -/
def check (m : Model V) (a : Assignment V) (var : Nat) (value : V) : Except Failure Bool :=
  if m.checkable a var value then .ok (m.consistent a var value) else .error .overflow

def emptyVariable? (m : Model V) : Option Nat :=
  (List.range m.count).find? fun var => (m.domain var).isEmpty

/-- Refuses a model without variables and one with an empty domain, in this order. -/
def validate (m : Model V) : Except Failure Unit :=
  if m.count = 0 then .error .noVariables
  else match m.emptyVariable? with
    | some var => .error (.emptyDomain var)
    | none => .ok ()

theorem validate_eq_ok_iff {m : Model V} :
    m.validate = .ok () ↔ 0 < m.count ∧ ∀ var < m.count, m.domain var ≠ [] := by
  have hempty : m.emptyVariable? = none ↔ ∀ var < m.count, m.domain var ≠ [] := by
    simp [emptyVariable?, List.find?_eq_none]
  rw [validate, ← hempty, Nat.pos_iff_ne_zero]
  split
  · rename_i h0
    exact ⟨fun h => (nomatch h), fun h => absurd h0 h.1⟩
  · rename_i h0
    cases m.emptyVariable? with
    | none => exact ⟨fun _ => ⟨h0, rfl⟩, fun _ => rfl⟩
    | some var => exact ⟨fun h => (nomatch h), fun h => (nomatch h.2)⟩

/-- Every value of an assignment agrees with all the others. -/
def agrees (m : Model V) (a : Assignment V) : Bool :=
  a.assigned.all fun (var, value) => m.consistent a var value

theorem agrees_eq_true_iff {m : Model V} {a : Assignment V} : m.agrees a = true ↔
    ∀ var value, a.get? var = some value → m.consistent a var value = true := by
  rw [agrees, List.all_eq_true]
  exact ⟨fun h var value hg => h (var, value) (Assignment.mem_assigned.mpr hg),
    fun h given hg => h given.1 given.2 (Assignment.mem_assigned.mp hg)⟩

end Model

end ConstraintSearch
