import ConstraintSearch.Assignment

/-! Assignments as partial functions from variables to values: an assignment is what is read from
it, and the operations change a single place. -/
namespace ConstraintSearch.Assignment
variable {V : Type}

theorem isAssigned_iff {a : Assignment V} {var : Nat} :
    a.isAssigned var = true ↔ ∃ value, a.get? var = some value := by
  rw [isAssigned, Option.isSome_iff_exists]

theorem isAssigned_eq_false_iff {a : Assignment V} {var : Nat} :
    a.isAssigned var = false ↔ a.get? var = none := by
  rw [isAssigned, Option.isSome_eq_false_iff, Option.isNone_iff_eq_none]

theorem isComplete_iff_exists {a : Assignment V} :
    a.isComplete = true ↔ ∀ var < a.size, ∃ value, a.get? var = some value := by
  rw [isComplete_iff]
  exact forall_congr' fun var => forall_congr' fun _ => isAssigned_iff

theorem lt_size_of_get? {a : Assignment V} {var : Nat} {value : V}
    (h : a.get? var = some value) : var < a.size := by
  rcases Nat.lt_or_ge var a.size with hlt | hge
  · exact hlt
  · rw [get?_of_size_le hge] at h
    cases h

private theorem slot_eq {a : Assignment V} {var : Nat} (h : var < a.size) :
    a.slots[var]? = some (a.get? var) := by
  rw [size] at h
  rw [get?, Array.getElem?_eq_getElem h]
  rfl

/-- Assignments with the same slots are equal when the same values are read from them. -/
theorem ext_get? {a b : Assignment V} (hs : a.size = b.size)
    (h : ∀ var < a.size, a.get? var = b.get? var) : a = b := by
  have hslots : a.slots = b.slots := by
    apply Array.ext_getElem?
    intro var
    rcases Nat.lt_or_ge var a.size with hv | hv
    · rw [slot_eq hv, slot_eq (hs ▸ hv), h var hv]
    · have hb : b.size ≤ var := hs ▸ hv
      rw [Array.getElem?_eq_none hv, Array.getElem?_eq_none hb]
  cases a
  cases b
  exact congrArg Assignment.mk hslots

theorem get?_assign_self {a : Assignment V} {var : Nat} (h : var < a.size) (value : V) :
    (a.assign var value).get? var = some value := by
  rw [get?_assign, if_pos ⟨rfl, h⟩]

theorem get?_assign_of_ne (a : Assignment V) {var other : Nat} (h : other ≠ var) (value : V) :
    (a.assign var value).get? other = a.get? other := by
  rw [get?_assign, if_neg fun hh => h hh.1]

/-- Giving a variable the value that it has changes nothing. -/
theorem assign_of_get? {a : Assignment V} {var : Nat} {value : V}
    (h : a.get? var = some value) : a.assign var value = a := by
  refine ext_get? (size_assign ..) fun other _ => ?_
  rw [get?_assign]
  split
  · rename_i hh
    rw [hh.1, h]
  · rfl

theorem unassign_assign {a : Assignment V} {var : Nat} (h : a.get? var = none) (value : V) :
    (a.assign var value).unassign var = a := by
  refine ext_get? (by simp) fun other _ => ?_
  rw [get?_unassign]
  split
  · rename_i hh
    rw [hh, h]
  · rename_i hh
    rw [get?_assign_of_ne a hh]

/-- The variables that have a value are listed in their order. -/
theorem assigned_ascending (a : Assignment V) : a.assigned.Pairwise (·.1 < ·.1) := by
  have hzip : a.toList.zipIdx.Pairwise (·.2 < ·.2) := by
    rw [← List.pairwise_map (f := Prod.snd) (R := (· < ·)), List.zipIdx_map_snd]
    exact List.pairwise_lt_range'
  rw [assigned, List.pairwise_filterMap]
  refine hzip.imp fun hlt x hx y hy => ?_
  obtain ⟨_, _, rfl⟩ := Option.map_eq_some_iff.mp hx
  obtain ⟨_, _, rfl⟩ := Option.map_eq_some_iff.mp hy
  exact hlt

/-- The values of the variables below a bound come first. -/
theorem mem_takeWhile_assigned {a : Assignment V} {bound var : Nat} {value : V} :
    (var, value) ∈ a.assigned.takeWhile (·.1 < bound) ↔
      var < bound ∧ a.get? var = some value := by
  rw [← mem_assigned]
  have hascending := a.assigned_ascending
  generalize a.assigned = pairs at hascending
  induction pairs with
  | nil => simp
  | cons first rest ih =>
    obtain ⟨hfirst, hrest⟩ := List.pairwise_cons.mp hascending
    by_cases hlt : first.1 < bound
    · rw [List.takeWhile_cons, if_pos (decide_eq_true hlt), List.mem_cons, List.mem_cons]
      constructor
      · rintro (rfl | hmem)
        · exact ⟨hlt, .inl rfl⟩
        · obtain ⟨hvar, hmem⟩ := (ih hrest).mp hmem
          exact ⟨hvar, .inr hmem⟩
      · rintro ⟨hvar, rfl | hmem⟩
        · exact .inl rfl
        · exact .inr ((ih hrest).mpr ⟨hvar, hmem⟩)
    · rw [List.takeWhile_cons, if_neg (by rwa [decide_eq_true_eq])]
      refine iff_of_false List.not_mem_nil ?_
      rintro ⟨hvar, hmem⟩
      rcases List.mem_cons.mp hmem with rfl | hmem
      · exact hlt hvar
      · exact hlt (Nat.lt_trans (hfirst _ hmem) hvar)

@[simp] theorem clear_clear (a : Assignment V) : a.clear.clear = a.clear :=
  congrArg blank (size_blank a.size)

private theorem mapM_id_eq_some_iff {slots : List (Option V)} {values : List V} :
    slots.mapM id = some values ↔ slots = values.map some := by
  constructor
  · intro h
    induction slots generalizing values with
    | nil =>
      cases h
      rfl
    | cons slot rest ih =>
      rw [List.mapM_cons] at h
      obtain ⟨value, hv, h⟩ := Option.bind_eq_some_iff.mp h
      obtain ⟨found, hr, h⟩ := Option.bind_eq_some_iff.mp h
      cases h
      rw [ih hr, List.map_cons, ← hv, id]
  · rintro rfl
    exact List.mapM_map.trans (List.mapM_pure.trans (congrArg some (List.map_id values)))

@[simp] theorem size_ofList_map_some (values : List V) :
    (ofList (values.map some)).size = values.length := by
  simp [ofList, size]

@[simp] theorem get?_ofList_map_some (values : List V) (var : Nat) :
    (ofList (values.map some)).get? var = values[var]? := by
  cases h : values[var]? <;> simp [ofList, get?, h]

theorem values?_eq_some_iff {a : Assignment V} {values : List V} :
    a.values? = some values ↔ a.size = values.length ∧ ∀ var, a.get? var = values[var]? := by
  rw [values?, mapM_id_eq_some_iff]
  constructor
  · intro h
    have ha : a = ofList (values.map some) := by
      rw [ofList, ← h, toList]
    rw [ha]
    exact ⟨size_ofList_map_some values, get?_ofList_map_some values⟩
  · rintro ⟨hs, hget⟩
    have ha : a = ofList (values.map some) :=
      ext_get? (by rw [hs, size_ofList_map_some]) fun var _ => by rw [hget, get?_ofList_map_some]
    rw [ha, toList, ofList]

@[simp] theorem values?_ofList_map_some (values : List V) :
    (ofList (values.map some)).values? = some values :=
  values?_eq_some_iff.mpr ⟨size_ofList_map_some values, get?_ofList_map_some values⟩

theorem isComplete_iff_values? {a : Assignment V} :
    a.isComplete = true ↔ ∃ values, a.values? = some values := by
  constructor
  · intro h
    have hall : ∀ slot ∈ a.toList, slot.isSome = true := by
      rwa [isComplete, ← Array.all_toList, List.all_eq_true] at h
    refine ⟨a.toList.filterMap id, mapM_id_eq_some_iff.mpr ?_⟩
    rw [List.map_filterMap_some_eq_filter_map_isSome, List.map_id, List.filter_eq_self.mpr hall]
  · rintro ⟨values, hv⟩
    refine isComplete_iff_exists.mpr fun var hlt => ?_
    obtain ⟨hs, hget⟩ := values?_eq_some_iff.mp hv
    rw [hget, List.getElem?_eq_getElem (hs ▸ hlt)]
    exact ⟨_, rfl⟩

theorem exchange_some {a : Assignment V} {var : Nat} (h : var < a.size) (value : V) :
    a.exchange var (some value) = .ok (a.get? var, a.assign var value) :=
  if_pos h

theorem exchange_none {a : Assignment V} {var : Nat} (h : var < a.size) :
    a.exchange var none = .ok (a.get? var, a.unassign var) :=
  if_pos h

/-- After an exchange the variable has what was put into its slot, and all others are as before. -/
theorem exchange_eq_ok {a a' : Assignment V} {var : Nat} {slot old : Option V}
    (h : a.exchange var slot = .ok (old, a')) : var < a.size ∧ a'.size = a.size ∧
      ∀ other, a'.get? other = if other = var then slot else a.get? other := by
  by_cases hlt : var < a.size
  · cases slot with
    | some value =>
      rw [exchange_some hlt] at h
      cases h
      refine ⟨hlt, size_assign .., fun other => ?_⟩
      simp [get?_assign, hlt]
    | none =>
      rw [exchange_none hlt] at h
      cases h
      exact ⟨hlt, size_unassign .., a.get?_unassign var⟩
  · rw [exchange, if_neg hlt] at h
    cases h

/-- The second assignment has the same slots and all the values of the first. -/
structure Within (a b : Assignment V) : Prop where
  size_eq : b.size = a.size
  keeps : ∀ var value, a.get? var = some value → b.get? var = some value

namespace Within
variable {a b c : Assignment V}

theorem trans (h : a.Within b) (h' : b.Within c) : a.Within c :=
  ⟨h'.size_eq.trans h.size_eq, fun var value hv => h'.keeps var value (h.keeps var value hv)⟩

theorem get?_eq_none (h : a.Within b) {var : Nat} (hv : b.get? var = none) : a.get? var = none := by
  cases ha : a.get? var with
  | none => rfl
  | some value =>
    rw [h.keeps var value ha] at hv
    cases hv

theorem antisymm (h : a.Within b) (h' : b.Within a) : a = b := by
  refine ext_get? h'.size_eq fun var _ => ?_
  cases ha : a.get? var with
  | some value => exact (h.keeps var value ha).symm
  | none => exact (h'.get?_eq_none ha).symm

theorem assign_left (h : a.Within b) {var : Nat} {value : V} (hv : b.get? var = some value) :
    (a.assign var value).Within b := by
  refine ⟨h.size_eq.trans (a.size_assign var value).symm, fun other x hx => ?_⟩
  rw [get?_assign] at hx
  split at hx
  · rename_i he
    rw [he.1, hv, hx]
  · exact h.keeps other x hx

theorem assign (h : a.Within b) (var : Nat) (value : V) :
    (a.assign var value).Within (b.assign var value) := by
  refine ⟨?_, fun other x hx => ?_⟩
  · rw [size_assign, size_assign, h.size_eq]
  · rw [get?_assign] at hx ⊢
    rw [h.size_eq]
    split at hx
    · rwa [if_pos ‹_›]
    · rw [if_neg ‹_›]
      exact h.keeps other x hx

end Within

theorem within_assign {a : Assignment V} {var : Nat} (h : a.get? var = none) (value : V) :
    a.Within (a.assign var value) := by
  refine ⟨size_assign .., fun other x hx => ?_⟩
  have hne : other ≠ var := by
    intro he
    rw [he, h] at hx
    cases hx
  rwa [get?_assign_of_ne a hne]

end ConstraintSearch.Assignment
