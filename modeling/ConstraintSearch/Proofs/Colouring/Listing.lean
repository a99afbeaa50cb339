import ConstraintSearch.Proofs.Colouring.Adjacency
import Mathlib.Combinatorics.Enumerative.DoubleCounting

/-! The list of borders. Each border is listed once, from its lower end, and counted twice when the
neighbours of all regions are. -/
namespace ConstraintSearch.Colouring.Adjacency
open Finset (range)
variable {adjacency : Adjacency}

private theorem toList_eq (adjacency : Adjacency) :
    adjacency.toList = (List.range adjacency.size).map adjacency.neighbours := by
  refine List.ext_getElem (by simp) fun id hid _ => ?_
  have hid : id < adjacency.size := hid
  simp [neighbours, hid]

theorem edges_eq (adjacency : Adjacency) :
    adjacency.edges = (List.range adjacency.size).flatMap fun id =>
      ((adjacency.neighbours id).filter (id < ·)).map (id, ·) := by
  have hzip : adjacency.toList.zipIdx =
      (List.range adjacency.size).map fun id => (adjacency.neighbours id, id) := by
    refine List.ext_getElem (by simp) fun id hid _ => ?_
    simp [toList_eq]
  rw [edges, hzip, List.flatMap_map]

/-- The borders are listed in order, by the lower end first and by the higher one next. -/
theorem edges_ascending (h : adjacency.Ascending) :
    adjacency.edges.Pairwise (Prod.Lex (· < ·) (· < ·)) := by
  rw [edges_eq, List.pairwise_flatMap]
  constructor
  · intro id _
    exact List.pairwise_map.mpr (((h id).filter _).imp fun hlt => .right id hlt)
  · refine List.pairwise_lt_range.imp fun {low high} hlt edge hedge other hother => ?_
    obtain ⟨_, _, rfl⟩ := List.mem_map.mp hedge
    obtain ⟨_, _, rfl⟩ := List.mem_map.mp hother
    exact .left _ _ hlt

private theorem length_edges (adjacency : Adjacency) : adjacency.edges.length =
    ∑ id ∈ range adjacency.size, ((adjacency.neighbours id).filter (id < ·)).length := by
  rw [edges_eq, List.length_flatMap]
  simp only [List.length_map]
  rfl

private theorem length_filter_eq_card {ns : List Nat} {count : Nat} (hn : ns.Nodup)
    (hlt : ∀ n ∈ ns, n < count) (p : Nat → Prop) [DecidablePred p] :
    (ns.filter p).length = ((range count).filter fun n => n ∈ ns ∧ p n).card := by
  rw [← List.toFinset_card_of_nodup (hn.filter _)]
  congr 1
  ext n
  simpa using fun hm _ => hlt n hm

/-- Every border has two ends, of which each has the other for a neighbour. -/
theorem sum_length_neighbours (h : adjacency.Ascending)
    (hsymm : ∀ a b, b ∈ adjacency.neighbours a → a ∈ adjacency.neighbours b)
    (hne : ∀ id, id ∉ adjacency.neighbours id)
    (hlt : ∀ a b, b ∈ adjacency.neighbours a → b < adjacency.size) :
    ∑ id ∈ range adjacency.size, (adjacency.neighbours id).length = 2 * adjacency.edges.length := by
  have hcount (id : Nat) (p : Nat → Prop) [DecidablePred p] :=
    length_filter_eq_card ((h id).imp Nat.ne_of_lt) (hlt id) p
  have hends (id : Nat) : (adjacency.neighbours id).length =
      ((adjacency.neighbours id).filter (id < ·)).length +
        ((adjacency.neighbours id).filter (· < id)).length := by
    rw [List.length_eq_length_filter_add (id < ·)]
    congr 2
    refine List.filter_congr fun other ho => ?_
    have hother : other ≠ id := fun he => hne id (he ▸ ho)
    rw [← decide_not, decide_eq_decide]
    omega
  -- as a pair of ends, a border can be counted at the lower or at the higher of them
  have hlower : ∑ id ∈ range adjacency.size, ((adjacency.neighbours id).filter (· < id)).length =
      ∑ id ∈ range adjacency.size, ((adjacency.neighbours id).filter (id < ·)).length := by
    simp only [hcount]
    refine Eq.trans ?_ (Finset.sum_card_bipartiteAbove_eq_sum_card_bipartiteBelow
      fun a b => b ∈ adjacency.neighbours a ∧ a < b).symm
    refine Finset.sum_congr rfl fun id _ => congrArg Finset.card ?_
    refine Finset.filter_congr fun other _ => and_congr_left fun _ => ⟨hsymm id other, hsymm other id⟩
  simp only [hends, Finset.sum_add_distrib, hlower, length_edges]
  omega

theorem description_model (h : ∑ id ∈ range adjacency.size, (adjacency.neighbours id).length =
    2 * adjacency.edges.length) (palette : List Colour) :
    (model adjacency palette).description =
      s!"{adjacency.size} regions, {adjacency.edges.length} borders, {palette.length} colours" := by
  have hsum : (adjacency.toList.map List.length).foldl (· + ·) 0 = 2 * adjacency.edges.length := by
    rw [← h, ← List.sum_eq_foldl, toList_eq, List.map_map]
    rfl
  simp only [model, hsum, Nat.mul_div_cancel_left _ Nat.two_pos]

end ConstraintSearch.Colouring.Adjacency
