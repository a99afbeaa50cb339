import ConstraintSearch.Proofs.Queens.Placement
import ConstraintSearch.Proofs.Search.Solutions

/-! Solving a board. The search completes the queens that are given to a placement exactly if the
checker accepts one that has them. -/
namespace ConstraintSearch.Queens
variable {σ : Type} {n : Nat} {givens b c : Assignment Nat} {rows other : List Nat}

/-- A placement with the given queens, one row to a column. -/
structure Completion (givens : Assignment Nat) (rows : List Nat) : Prop where
  length_eq : rows.length = givens.size
  accepted : isPlacement rows = true
  keeps : ∀ col row, givens.get? col = some row → rows[col]? = some row

def OnBoard (n : Nat) (givens : Assignment Nat) : Prop :=
  givens.size = n ∧ ∀ col row, givens.get? col = some row → row < n

theorem validate_model (h : 0 < n) : (model n).validate = .ok () := by
  refine Model.validate_eq_ok_iff.mpr ⟨h, fun _ _ he => ?_⟩
  exact Nat.ne_of_gt h (List.range_eq_nil.mp he)

/-- What a search over a board has to find. -/
abbrev Placing (n : Nat) (givens b : Assignment Nat) : Prop :=
  Solution (model n) ((model n).pairsOf (others n) unattacked) givens b

private theorem Placing.completion (hg : OnBoard n givens) (hb : Placing n givens b)
    (hrows : b.values? = some rows) : Completion givens rows := by
  obtain ⟨hlength, hget⟩ := Assignment.values?_eq_some_iff.mp hrows
  have hn : rows.length = n := hlength.symm.trans hb.size_eq
  have hcol {col row : Nat} (h : rows[col]? = some row) : col < n :=
    hn ▸ (List.getElem?_eq_some_iff.mp h).1
  have hkeeps : ∀ col row, givens.get? col = some row → rows[col]? = some row :=
    fun col row hk => (hget col).symm.trans (hb.keeps col row hk)
  refine ⟨hn.trans hg.1.symm, isPlacement_iff.mpr ⟨fun row hr => ?_, ?_⟩, hkeeps⟩
  · -- rows of given queens need not come from the domain, but are on the board
    obtain ⟨col, h⟩ := List.mem_iff_getElem?.mp hr
    rw [hn]
    cases hk : givens.get? col with
    | some given =>
      rw [hkeeps col given hk] at h
      exact Option.some.inj h ▸ hg.2 col given hk
    | none => exact List.mem_range.mp (hb.inDomain col (hcol h) hk row ((hget col).trans h))
  · intro col col' row row' hne h h'
    have hm := mem_others.mpr ⟨hcol h', Ne.symm hne⟩
    exact ((model_compares n).holds_iff hb.size_eq hb.complete).mp hb.holds col (hcol h) col' hm
      row row' ((hget col).trans h) ((hget col').trans h')

private theorem Completion.placing (hg : OnBoard n givens) (hr : Completion givens rows)
    (hrows : b.values? = some rows) : Placing n givens b := by
  obtain ⟨hlength, hget⟩ := Assignment.values?_eq_some_iff.mp hrows
  obtain ⟨hboard, hapart⟩ := isPlacement_iff.mp hr.accepted
  have hn : rows.length = n := hr.length_eq.trans hg.1
  have hs : b.size = n := hlength.trans hn
  have hcomplete := Assignment.isComplete_iff_values?.mpr ⟨rows, hrows⟩
  refine ⟨hs, hcomplete, fun col row hk => (hget col).trans (hr.keeps col row hk), ?_, ?_⟩
  · intro col _ _ row h
    rw [hget] at h
    exact List.mem_range.mpr (hn ▸ hboard row (List.mem_of_getElem? h))
  · refine ((model_compares n).holds_iff hs hcomplete).mpr fun col _ col' hm row row' h h' => ?_
    rw [hget] at h h'
    exact hapart col col' row row' (Ne.symm (mem_others.mp hm).2) h h'

theorem placing_iff (hg : OnBoard n givens) :
    Placing n givens b ↔ ∃ rows, b.values? = some rows ∧ Completion givens rows := by
  constructor
  · intro hb
    obtain ⟨rows, hrows⟩ := Assignment.isComplete_iff_values?.mp hb.complete
    exact ⟨rows, hrows, hb.completion hg hrows⟩
  · rintro ⟨rows, hrows, hr⟩
    exact hr.placing hg hrows

private theorem idxOf_range {row : Nat} (h : row < n) : (List.range n).idxOf row = row := by
  have hr := List.nodup_range.idxOf_getElem row (Nat.lt_of_lt_of_eq h List.length_range.symm)
  rwa [List.getElem_range] at hr

private theorem Completion.lt_of_precedes (hr : Completion givens rows)
    (ho : Completion givens other) (hb : b.values? = some rows) (hc : c.values? = some other)
    (hs : givens.size = n) (h : b.Precedes (fun _ => List.range n) c) : rows < other := by
  obtain ⟨col, row, row', hlow, hrow, hrow', hlt⟩ := h
  obtain ⟨_, hget⟩ := Assignment.values?_eq_some_iff.mp hb
  obtain ⟨_, hget'⟩ := Assignment.values?_eq_some_iff.mp hc
  have hrange {rows : List Nat} {row : Nat} (h : Completion givens rows)
      (hm : rows[col]? = some row) : (List.range n).idxOf row = row := by
    have hl := (isPlacement_iff.mp h.accepted).1 row (List.mem_of_getElem? hm)
    exact idxOf_range (hs ▸ h.length_eq ▸ hl)
  rw [hget] at hrow
  rw [hget'] at hrow'
  rw [hrange hr hrow, hrange ho hrow'] at hlt
  obtain ⟨hcol, rfl⟩ := List.getElem?_eq_some_iff.mp hrow
  obtain ⟨hcol', rfl⟩ := List.getElem?_eq_some_iff.mp hrow'
  refine List.lt_iff_exists.mpr (.inr ⟨col, hcol, hcol', fun lower hl => ?_, hlt⟩)
  have he := hlow lower hl
  rw [hget, hget', List.getElem?_eq_getElem (Nat.lt_trans hl hcol),
    List.getElem?_eq_getElem (Nat.lt_trans hl hcol')] at he
  exact Option.some.inj he

/-- Solving a board of any size from queens that stand on it never fails. It reports a solution
exactly if some placement completes the given queens. What it finds is such a placement, and the
lexicographically first one when rows are tried in their order. -/
theorem solve_completes (hn : 0 < n) (hg : OnBoard n givens) {e : Engine σ Nat}
    (he : e.order.Permutes (model n)) :
    ∃ report e', e.solve (model n) givens = .ok (report, e') ∧
      (report.outcome.isSolved = true ↔ ∃ rows, Completion givens rows) ∧
      ∀ b, report.outcome = .solved b → ∃ rows, b.values? = some rows ∧ Completion givens rows ∧
        (e.order = .natural → ∀ other, Completion givens other → other = rows ∨ rows < other) := by
  obtain ⟨report, e', hsolve, ha⟩ :=
    Engine.solve_answers (model_compares n).givenBy he (validate_model hn) hg.1
  refine ⟨report, e', hsolve, ha.isSolved_iff.trans ⟨?_, ?_⟩, fun b hb => ?_⟩
  · rintro ⟨b, hb⟩
    obtain ⟨rows, _, hr⟩ := (placing_iff hg).mp hb
    exact ⟨rows, hr⟩
  · rintro ⟨rows, hr⟩
    exact ⟨_, (placing_iff hg).mpr ⟨rows, Assignment.values?_ofList_map_some rows, hr⟩⟩
  · obtain ⟨rows, hrows, hr⟩ := (placing_iff hg).mp (ha.solution b hb)
    refine ⟨rows, hrows, hr, fun hnatural other ho => ?_⟩
    have hlists : ∀ var memory,
        (e.order.arrange var ((model n).domain var) memory).1 = List.range n := by
      rw [hnatural]
      exact fun _ _ => rfl
    have hlisted := Assignment.values?_ofList_map_some other
    have hplacing := (placing_iff hg).mpr ⟨other, hlisted, ho⟩
    rcases ha.first (fun _ => List.range n) hlists b hb _ hplacing with heq | hlt
    · rw [heq, hrows] at hlisted
      exact .inl (Option.some.inj hlisted).symm
    · exact .inr (hr.lt_of_precedes ho hrows hlisted hg.1 hlt)

/-- Five queens of which the third is given. There are two ways to place the others. -/
theorem solve_completes_of_third_queen :
    let givens : Assignment Nat := .ofList [none, none, some 0, none, none]
    let first : List Nat := [1, 3, 0, 2, 4]
    OnBoard 5 givens ∧ (.natural : ValueOrder Unit Nat).Permutes (model 5) ∧
      Completion givens [4, 2, 0, 3, 1] ∧
      ∃ report e' b, Engine.solve ⟨.natural, ()⟩ (model 5) givens = .ok (report, e') ∧
        report.outcome = .solved b ∧ b.values? = some first ∧ Completion givens first ∧
        ∀ other, Completion givens other → other = first ∨ first < other := by
  intro givens first
  have hgiven {col row : Nat} (h : givens.get? col = some row) : col = 2 ∧ row = 0 := by
    have hall : ∀ queen ∈ givens.assigned, queen = (2, 0) := by decide
    exact Prod.mk.inj (hall _ (Assignment.mem_assigned.mpr h))
  have hg : OnBoard 5 givens := ⟨rfl, fun col row h => (hgiven h).2 ▸ by decide⟩
  have he := ValueOrder.natural_permutes (σ := Unit) (model 5)
  have hother : Completion givens [4, 2, 0, 3, 1] := by
    refine ⟨rfl, by decide, fun col row h => ?_⟩
    obtain ⟨rfl, rfl⟩ := hgiven h
    rfl
  obtain ⟨report, e', hsolve, _, hsolved⟩ :=
    solve_completes (e := ⟨.natural, ()⟩) (by decide) hg he
  have hb : report.outcome = .solved (.ofList (first.map some)) := by
    rw [Engine.solve_eq (validate_model (by decide)) hg.1] at hsolve
    cases hsolve
    decide
  obtain ⟨rows, hrows, hr, hfirst⟩ := hsolved _ hb
  obtain rfl : first = rows := Option.some.inj hrows
  exact ⟨hg, he, hother, report, e', _, hsolve, hb, hrows, hr, hfirst rfl⟩

end ConstraintSearch.Queens
