import ConstraintSearch.Failure

/-! Requests that change something in place, one after the other. The second finds what the first
leaves behind, and is not made when the first fails. Draws from a generator and printing are such
requests. -/
namespace ConstraintSearch

/-- A request that changes something in place. It may be refused on the way, and then whatever it
has changed stays changed. -/
abbrev InPlace (τ α : Type) := ExceptT Failure (StateM τ) α

namespace InPlace
variable {τ α β : Type} {first : InPlace τ α} {next : α → InPlace τ β} {before after : τ}
  {failure : Failure}

theorem bind_of_ok {a : α} (h : first before = (.ok a, after)) :
    (first >>= next) before = next a after := by
  change ExceptT.bindCont next (first before).1 (first before).2 = _
  rw [h]
  rfl

theorem bind_of_error (h : first before = (.error failure, after)) :
    (first >>= next) before = (.error failure, after) := by
  change ExceptT.bindCont next (first before).1 (first before).2 = _
  rw [h]
  rfl

theorem bind_eq_ok {b : β} (h : (first >>= next) before = (.ok b, after)) :
    ∃ a between, first before = (.ok a, between) ∧ next a between = (.ok b, after) := by
  rcases hf : first before with ⟨failure | a, between⟩
  · rw [bind_of_error hf] at h
    cases h
  · rw [bind_of_ok hf] at h
    exact ⟨a, between, rfl, h⟩

theorem bind_eq_error (h : (first >>= next) before = (.error failure, after)) :
    first before = (.error failure, after) ∨
      ∃ a between, first before = (.ok a, between) ∧ next a between = (.error failure, after) := by
  rcases hf : first before with ⟨reason | a, between⟩
  · rw [bind_of_error hf] at h
    cases h
    exact .inl rfl
  · rw [bind_of_ok hf] at h
    exact .inr ⟨a, between, rfl, h⟩

theorem get_bind (next : τ → InPlace τ β) (before : τ) :
    ((get : InPlace τ τ) >>= next) before = next before before := rfl

theorem lift_eq {request answer : Except Failure α} (h : request = answer) (before : τ) :
    (liftM request : InPlace τ α) before = (answer, before) := by
  cases h
  cases request <;> rfl

/-- What succeeds once, whatever it finds, succeeds for a whole list. -/
theorem exists_mapM {request : α → InPlace τ β}
    (h : ∀ a before, ∃ b after, request a before = (.ok b, after)) (items : List α) (before : τ) :
    ∃ bs after, items.mapM request before = (.ok bs, after) := by
  induction items generalizing before with
  | nil => exact ⟨[], before, rfl⟩
  | cons a items ih =>
    obtain ⟨b, between, hb⟩ := h a before
    obtain ⟨bs, after, hbs⟩ := ih between
    rw [List.mapM_cons, bind_of_ok hb, bind_of_ok hbs]
    exact ⟨b :: bs, after, rfl⟩

end InPlace
end ConstraintSearch
