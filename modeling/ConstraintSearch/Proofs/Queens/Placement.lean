import ConstraintSearch.Proofs.Apart
import ConstraintSearch.Queens.Model

/-! The placements that the checker accepts. The model compares each queen with all others, the
checker only with those in later columns; attacks are mutual. -/
namespace ConstraintSearch.Queens
variable {n col col' row row' : Nat} {rows : List Nat}

private theorem distance_comm (a b : Nat) : distance a b = distance b a :=
  Nat.add_comm ..

private theorem attacks_comm (col row col' row' : Nat) :
    attacks col row col' row' = attacks col' row' col row := by
  rw [attacks, attacks, distance_comm row', distance_comm col', BEq.comm]

/-- All rows are on the board, and no two queens attack each other. -/
theorem isPlacement_iff : isPlacement rows = true ↔ (∀ row ∈ rows, row < rows.length) ∧
    ∀ col col' row row', col ≠ col' → rows[col]? = some row → rows[col']? = some row' →
      attacks col row col' row' = false := by
  simp only [isPlacement, Bool.and_eq_true, List.all_eq_true, decide_eq_true_eq, Prod.forall,
    List.mem_zipIdx_iff_getElem?, Bool.or_eq_true, Bool.not_eq_true']
  refine and_congr_right fun _ => ⟨fun hall => ?_, fun hall => ?_⟩
  · have hlt {col col' row row' : Nat} (hc : col < col') (h : rows[col]? = some row)
        (h' : rows[col']? = some row') : attacks col row col' row' = false :=
      (hall row col h row' col' h').resolve_left (Nat.not_le_of_lt hc)
    intro col col' row row' hne h h'
    rcases Nat.lt_or_gt_of_ne hne with hc | hc
    · exact hlt hc h h'
    · rw [attacks_comm]
      exact hlt hc h' h
  · intro row col h row' col' h'
    rcases Nat.lt_or_ge col col' with hc | hc
    · exact .inr (hall col col' row row' (Nat.ne_of_lt hc) h h')
    · exact .inl hc

def others (n col : Nat) : List Nat := (List.range n).filter (· ≠ col)

theorem mem_others : col' ∈ others n col ↔ col' < n ∧ col' ≠ col := by
  rw [others, List.mem_filter, List.mem_range, decide_eq_true_eq]

def unattacked (col col' : Nat) : Constraint Nat :=
  { (Constraint.apart col col' : Constraint Nat) with
    allows := fun rows => !attacks col (rows.getD 0 0) col' (rows.getD 1 0) }

theorem model_compares (n : Nat) :
    (model n).Compares (others n) unattacked fun col row col' row' =>
      attacks col row col' row' = false where
  relates col col' := .of_allows rfl fun row row' => Iff.of_eq (Bool.not_eq_true' _)
  fits_symm col row col' row' h := attacks_comm col row col' row' ▸ h
  consistent_iff a col row hs := by
    simp only [model, List.all_eq_true, Prod.forall, Assignment.mem_assigned, Bool.or_eq_true,
      beq_iff_eq, Bool.not_eq_true', mem_others, and_imp]
    refine forall_congr' fun col' => ⟨fun hall _ hne row' h => ?_, fun hall row' h => ?_⟩
    · exact (hall row' h).resolve_left hne
    · refine or_iff_not_imp_left.mpr fun hne => ?_
      exact hall (Nat.lt_of_lt_of_eq (Assignment.lt_size_of_get? h) hs) hne row' h
  symm col hc col' hc' := mem_others.mpr ⟨hc, Ne.symm (mem_others.mp hc').2⟩
  ne _ _ _ hc' := (mem_others.mp hc').2
  lt _ _ _ hc' := (mem_others.mp hc').1

end ConstraintSearch.Queens
