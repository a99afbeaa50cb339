import ConstraintSearch.Failure

/-!
Assignments: one slot for each variable of a problem, holding a value or nothing. The number of
slots never changes after the start. Main statements: what is read after a value was given or taken
away (`get?_assign`, `get?_unassign`), and that the list of assigned variables holds what is read
(`mem_assigned`).
-/

namespace ConstraintSearch

structure Assignment (V : Type) where
  slots : Array (Option V)
deriving DecidableEq, Inhabited

namespace Assignment
variable {V : Type}

def blank (count : Nat) : Assignment V := ⟨Array.replicate count none⟩

def ofList (slots : List (Option V)) : Assignment V := ⟨slots.toArray⟩

def toList (a : Assignment V) : List (Option V) := a.slots.toList

def size (a : Assignment V) : Nat := a.slots.size

def isEmpty (a : Assignment V) : Bool := a.slots.isEmpty

/-- A variable without a slot reads as unassigned. -/
def get? (a : Assignment V) (var : Nat) : Option V := a.slots[var]?.join

def isAssigned (a : Assignment V) (var : Nat) : Bool := (a.get? var).isSome

/-- Gives a variable a value. Without a slot for it nothing changes. -/
def assign (a : Assignment V) (var : Nat) (value : V) : Assignment V :=
  ⟨a.slots.setIfInBounds var (some value)⟩

/-- Takes a variable's value away. Without a slot for it nothing changes. -/
def unassign (a : Assignment V) (var : Nat) : Assignment V :=
  ⟨a.slots.setIfInBounds var none⟩

/-- Puts new content into a slot and answers the old, which needs the slot to exist. -/
def exchange (a : Assignment V) (var : Nat) (slot : Option V) :
    Except Failure (Option V × Assignment V) :=
  if var < a.size then .ok (a.get? var, ⟨a.slots.setIfInBounds var slot⟩)
  else .error (.noSlot var a.size)

/-- Takes all values away and keeps the slots. -/
def clear (a : Assignment V) : Assignment V := blank a.size

def assignedCount (a : Assignment V) : Nat := a.slots.countP Option.isSome

/-- Every slot holds a value; so it is when there are no slots. -/
def isComplete (a : Assignment V) : Bool := a.slots.all Option.isSome

/-- The variables that have a value, in order, each with its value. -/
def assigned (a : Assignment V) : List (Nat × V) :=
  a.toList.zipIdx.filterMap fun (slot, var) => slot.map (var, ·)

def values? (a : Assignment V) : Option (List V) := a.toList.mapM id

def diagnostic (form : V → String) (a : Assignment V) : String :=
  let slots := a.toList.map fun
    | some value => "Some(" ++ form value ++ ")"
    | none => "None"
  "Assignment \x7b slots: [" ++ ", ".intercalate slots ++ "] \x7d"

/-! What each operation does to the values that are read. -/

@[simp] theorem size_blank (count : Nat) : (blank count : Assignment V).size = count := by
  simp [blank, size]

@[simp] theorem size_assign (a : Assignment V) (var : Nat) (value : V) :
    (a.assign var value).size = a.size := by
  simp [assign, size]

@[simp] theorem size_unassign (a : Assignment V) (var : Nat) :
    (a.unassign var).size = a.size := by
  simp [unassign, size]

@[simp] theorem get?_blank (count var : Nat) : (blank count : Assignment V).get? var = none := by
  by_cases h : var < count <;> simp [blank, get?, h]

theorem get?_of_size_le {a : Assignment V} {var : Nat} (h : a.size ≤ var) : a.get? var = none := by
  simp only [size] at h
  simp [get?, h]

/-- A value that was given is what is read back, where there is a slot for it. -/
theorem get?_assign (a : Assignment V) (var other : Nat) (value : V) :
    (a.assign var value).get? other =
      if other = var ∧ var < a.size then some value else a.get? other := by
  simp only [assign, get?, size, Array.getElem?_setIfInBounds]
  grind

theorem get?_unassign (a : Assignment V) (var other : Nat) :
    (a.unassign var).get? other = if other = var then none else a.get? other := by
  simp only [unassign, get?, Array.getElem?_setIfInBounds]
  grind

theorem mem_assigned {a : Assignment V} {var : Nat} {value : V} :
    (var, value) ∈ a.assigned ↔ a.get? var = some value := by
  simp only [assigned, toList, get?, List.mem_filterMap, Prod.exists, List.mem_zipIdx_iff_getElem?,
    Option.map_eq_some_iff, Array.getElem?_toList]
  constructor
  · rintro ⟨slot, other, hslot, held, rfl, heq⟩
    cases heq
    simp [hslot]
  · intro h
    exact ⟨some value, var, Option.join_eq_some_iff.1 h, value, rfl, rfl⟩

theorem isComplete_iff {a : Assignment V} :
    a.isComplete = true ↔ ∀ var < a.size, a.isAssigned var = true := by
  rw [isComplete, Array.all_eq_true]
  refine forall_congr' fun var => forall_congr' fun h => ?_
  simp [isAssigned, get?, h]

end Assignment

end ConstraintSearch
