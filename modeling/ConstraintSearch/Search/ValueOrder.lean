import ConstraintSearch.Chance.Draw

/-!
Value orders: in which order a search tries the values of a variable.
-/

namespace ConstraintSearch

/-- Arranges a variable's domain for one branch. An order may remember: it is handed its memory
and answers the next one. It is meant to answer a permutation of the domain; nothing here
enforces that. -/
structure ValueOrder (σ V : Type) where
  arrange : (var : Nat) → (domain : List V) → σ → List V × σ

namespace ValueOrder
variable {σ V : Type}

def fixed (arrange : Nat → List V → List V) : ValueOrder σ V :=
  ⟨fun var domain memory => (arrange var domain, memory)⟩

def natural : ValueOrder σ V := fixed fun _ domain => domain

def reversed : ValueOrder σ V := fixed fun _ domain => domain.reverse

/-- Answers the list with the variable's number, whatever the domain is. -/
def listed (lists : List (List V)) : ValueOrder σ V := fixed fun var _ => lists.getD var []

/-- A fresh random arrangement at every branch. -/
def shuffled : ValueOrder Chance.Generator V :=
  ⟨fun _ domain generator => Chance.shuffle domain generator⟩

end ValueOrder

end ConstraintSearch
