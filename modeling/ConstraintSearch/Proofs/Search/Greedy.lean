import ConstraintSearch.Proofs.Search.Hints

/-! Searches that never take a value back. So it is when every variable has a value that passes the
check, whatever the variables below it hold. -/
namespace ConstraintSearch
variable {σ V : Type}

/-- As long as no variable from some place on has a value, the one at that place has a value that
passes the check. -/
def Model.NeverStuck (m : Model V) : Prop :=
  ∀ var < m.count, ∀ a : Assignment V, (∀ other, var ≤ other → a.get? other = none) →
    ∃ value ∈ m.domain var, m.consistent a var value = true

namespace Search

/-- A result that was come to by giving so many variables a value each, once and for all. -/
structure Result.Straight (stats : Stats) (vars : Nat) (r : Result σ V) : Prop where
  found : ∃ b, r.found = some b
  nodes_eq : r.stats.nodes = stats.nodes + vars
  backtracks_eq : r.stats.backtracks = stats.backtracks

section
variable {m : Model V} {o : ValueOrder σ V} {a : Assignment V} (stats : Stats) (memory : σ)

private theorem straight_tryValues {below : Assignment V → Stats → σ → Result σ V} {var vars : Nat}
    {values : List V} (hpass : ∃ value ∈ values, m.consistent a var value = true)
    (hbelow : ∀ value stats memory, (below (a.assign var value) stats memory).Straight stats vars) :
    (tryValues m below var a values stats memory).Straight stats (vars + 1) := by
  induction values generalizing stats memory with
  | nil =>
    obtain ⟨_, hv, _⟩ := hpass
    cases hv
  | cons value values ih =>
    by_cases hc : m.consistent a var value = true
    · have hb := hbelow value stats.assigned memory
      obtain ⟨found, hf⟩ := hb.found
      rw [tryValues_of_found hc hf]
      refine ⟨hb.found, hb.nodes_eq.trans ?_, hb.backtracks_eq⟩
      rw [Stats.assigned, Nat.add_assoc, Nat.add_comm 1]
    · obtain ⟨other, hother, hpass⟩ := hpass
      have hlater : other ∈ values := by
        rcases List.mem_cons.mp hother with rfl | hlater
        · exact absurd hpass hc
        · exact hlater
      rw [tryValues_of_rejected hc]
      obtain ⟨hfound, hnodes, hback⟩ := ih stats.rejected memory ⟨other, hlater, hpass⟩
      exact ⟨hfound, hnodes, hback⟩

/-- From some place on all variables are decided in turn, if none of them has a value yet. -/
theorem straight_decide (hm : m.NeverStuck) (ho : o.Permutes m) {start vars : Nat}
    (hcount : start + vars = m.count) (hopen : ∀ other, start ≤ other → a.get? other = none) :
    (decide m o (List.range' start vars) a stats memory).Straight stats vars := by
  induction vars generalizing start a stats memory with
  | zero => exact ⟨⟨a, rfl⟩, rfl, rfl⟩
  | succ vars ih =>
    have hstart : start < m.count := by omega
    rw [List.range'_succ, decide]
    refine straight_tryValues stats _ ?_ fun value stats memory =>
      ih stats memory (by omega) fun other hother => ?_
    · obtain ⟨value, hv, hc⟩ := hm start hstart a hopen
      exact ⟨value, (ho start hstart memory).mem_iff.mpr hv, hc⟩
    · rw [a.get?_assign_of_ne (by omega)]
      exact hopen other (by omega)

private theorem openVariables_blank (m : Model V) :
    openVariables m (.blank m.count) = List.range' 0 m.count := by
  rw [openVariables, ← List.range_eq_range', List.filter_eq_self]
  intro var _
  rw [Bool.not_eq_true', Assignment.isAssigned_eq_false_iff, Assignment.get?_blank]

private theorem agrees_blank (m : Model V) : m.agrees (.blank m.count) = true := by
  refine Model.agrees_eq_true_iff.mpr fun var value hv => ?_
  rw [Assignment.get?_blank] at hv
  cases hv

end

end Search

/-- Without givens such a model is solved in one go. -/
theorem Engine.solve_of_neverStuck {m : Model V} {e : Engine σ V} (hm : m.NeverStuck)
    (hv : m.validate = .ok ()) (he : e.order.Permutes m) :
    ∃ report e', e.solve m (.blank m.count) = .ok (report, e') ∧ report.outcome.isSolved = true ∧
      report.stats.backtracks = 0 ∧ report.stats.nodes = m.count := by
  refine ⟨_, _, solve_eq hv (Assignment.size_blank _), ?_⟩
  rw [Search.solveRecursively, if_pos (Search.agrees_blank m), Search.openVariables_blank]
  obtain ⟨⟨found, hf⟩, hnodes, hback⟩ := Search.straight_decide {} e.memory hm he
    (Nat.zero_add m.count) fun other _ => Assignment.get?_blank m.count other
  rw [Search.Result.report, hf]
  exact ⟨rfl, hback, hnodes.trans (Nat.zero_add _)⟩

end ConstraintSearch
