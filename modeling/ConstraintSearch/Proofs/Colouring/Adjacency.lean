import ConstraintSearch.Colouring.Map
import ConstraintSearch.Proofs.Colouring.Distance
import Mathlib.Data.List.Sort

/-! The adjacency of a map is the relation of its borders, in both directions, whether the borders
are listed or follow from distances. -/
namespace ConstraintSearch.Colouring

private theorem mem_insertAscending {k n : Nat} {ns : List Nat} :
    k ∈ insertAscending n ns ↔ k = n ∨ k ∈ ns := by
  induction ns with
  | nil => simp [insertAscending]
  | cons m rest ih =>
    rw [insertAscending]
    split
    · rw [List.mem_cons]
    · split
      · rename_i h
        rw [h, List.mem_cons]
        exact (or_iff_right_of_imp .inl).symm
      · rw [List.mem_cons, ih, List.mem_cons]
        exact or_left_comm

private theorem pairwise_insertAscending {n : Nat} {ns : List Nat} (h : ns.Pairwise (· < ·)) :
    (insertAscending n ns).Pairwise (· < ·) := by
  induction ns with
  | nil => exact List.pairwise_singleton ..
  | cons m rest ih =>
    obtain ⟨hm, hrest⟩ := List.pairwise_cons.mp h
    rw [insertAscending]
    split
    · rename_i hlt
      refine List.pairwise_cons.mpr ⟨List.forall_mem_cons.mpr ⟨hlt, fun k hk => ?_⟩, h⟩
      exact Nat.lt_trans hlt (hm k hk)
    · split
      · exact h
      · refine List.pairwise_cons.mpr ⟨fun k hk => ?_, ih hrest⟩
        rcases mem_insertAscending.mp hk with rfl | hk
        · omega
        · exact hm k hk

namespace Adjacency

/-- The neighbours of a region make a set: they are listed in order, none of them twice. -/
def Ascending (adjacency : Adjacency) : Prop :=
  ∀ id, (adjacency.neighbours id).Pairwise (· < ·)

/-- As many regions with the same neighbours make the same adjacency. -/
theorem Ascending.ext {adjacency other : Adjacency} (ha : adjacency.Ascending) (ho : other.Ascending)
    (hs : adjacency.size = other.size)
    (h : ∀ a b, b ∈ adjacency.neighbours a ↔ b ∈ other.neighbours a) : adjacency = other := by
  refine Array.ext hs fun id hid hid' => ?_
  have heq : adjacency.neighbours id = other.neighbours id := (ha id).eq_of_mem_iff (ho id) (h id)
  rwa [neighbours, neighbours, Array.getElem?_eq_getElem hid, Array.getElem?_eq_getElem hid'] at heq

private theorem neighbours_eq {adjacency : Adjacency} {id : Nat} {ns : List Nat}
    (h : adjacency[id]? = some ns) : adjacency.neighbours id = ns := by
  rw [neighbours, h, Option.getD_some]

theorem mem_edges {adjacency : Adjacency} {a b : Nat} :
    (a, b) ∈ adjacency.edges ↔ b ∈ adjacency.neighbours a ∧ a < b := by
  simp only [edges, List.mem_flatMap, Prod.exists, List.mem_zipIdx_iff_getElem?,
    Array.getElem?_toList, List.mem_map, List.mem_filter, decide_eq_true_eq, Prod.mk.injEq]
  constructor
  · rintro ⟨ns, id, hns, other, ⟨ho, hlt⟩, rfl, rfl⟩
    exact ⟨neighbours_eq hns ▸ ho, hlt⟩
  · rintro ⟨hb, hlt⟩
    rw [neighbours] at hb
    cases hns : adjacency[a]? with
    | none =>
      rw [hns] at hb
      cases hb
    | some ns =>
      rw [hns] at hb
      exact ⟨ns, a, hns, b, ⟨hb, hlt⟩, rfl, rfl⟩

@[simp] private theorem size_insertEdge (adjacency : Adjacency) (a b : Nat) :
    (adjacency.insertEdge a b).size = adjacency.size := by
  simp [insertEdge]

private theorem mem_neighbours_modify {adjacency : Adjacency} {a n x y : Nat}
    (ha : a < adjacency.size) :
    y ∈ Adjacency.neighbours (adjacency.modify a (insertAscending n)) x ↔
      (x = a ∧ y = n) ∨ y ∈ adjacency.neighbours x := by
  rw [neighbours, neighbours, Array.getElem?_modify]
  by_cases hx : a = x
  · subst hx
    rw [if_pos rfl, Array.getElem?_eq_getElem ha]
    simp [mem_insertAscending]
  · rw [if_neg hx]
    simp [Ne.symm hx]

private theorem Ascending.modify {adjacency : Adjacency} (h : adjacency.Ascending) (a n : Nat) :
    Ascending (Array.modify adjacency a (insertAscending n)) := by
  intro id
  rw [neighbours, Array.getElem?_modify]
  have hid := h id
  rw [neighbours] at hid
  split
  · cases hns : adjacency[id]? with
    | none => exact List.Pairwise.nil
    | some ns =>
      rw [hns] at hid
      exact pairwise_insertAscending hid
  · exact hid

theorem mem_neighbours_insertEdge {adjacency : Adjacency} {a b x y : Nat}
    (ha : a < adjacency.size) (hb : b < adjacency.size) :
    y ∈ (adjacency.insertEdge a b).neighbours x ↔
      ((x, y) = (a, b) ∨ (y, x) = (a, b)) ∨ y ∈ adjacency.neighbours x := by
  rw [insertEdge, mem_neighbours_modify (by simpa using hb), mem_neighbours_modify ha,
    Prod.mk.injEq, Prod.mk.injEq]
  grind

/-- What a border has to be: it joins two different regions of so many. -/
def Joins (count : Nat) (edge : Nat × Nat) : Prop :=
  edge.1 < count ∧ edge.2 < count ∧ edge.1 ≠ edge.2

instance (count : Nat) : DecidablePred (Joins count) :=
  fun edge => inferInstanceAs (Decidable (edge.1 < count ∧ edge.2 < count ∧ edge.1 ≠ edge.2))

def insertEdges (adjacency : Adjacency) (edges : List (Nat × Nat)) : Adjacency :=
  edges.foldl (fun adjacency edge => adjacency.insertEdge edge.1 edge.2) adjacency

private theorem insertEdges_cons (adjacency : Adjacency) (edge : Nat × Nat)
    (rest : List (Nat × Nat)) : adjacency.insertEdges (edge :: rest) =
      (adjacency.insertEdge edge.1 edge.2).insertEdges rest := rfl

@[simp] private theorem size_insertEdges (adjacency : Adjacency) (edges : List (Nat × Nat)) :
    (adjacency.insertEdges edges).size = adjacency.size := by
  induction edges generalizing adjacency with
  | nil => rfl
  | cons edge rest ih => rw [insertEdges_cons, ih, size_insertEdge]

theorem mem_neighbours_insertEdges {adjacency : Adjacency} {edges : List (Nat × Nat)}
    (h : ∀ edge ∈ edges, Joins adjacency.size edge) {x y : Nat} :
    y ∈ (adjacency.insertEdges edges).neighbours x ↔
      ((x, y) ∈ edges ∨ (y, x) ∈ edges) ∨ y ∈ adjacency.neighbours x := by
  induction edges generalizing adjacency with
  | nil => simp [insertEdges]
  | cons edge rest ih =>
    obtain ⟨hedge, hrest⟩ := List.forall_mem_cons.mp h
    rw [insertEdges_cons, ih (by simpa using hrest), mem_neighbours_insertEdge hedge.1 hedge.2.1,
      List.mem_cons, List.mem_cons]
    grind

theorem Ascending.insertEdges {adjacency : Adjacency} (h : adjacency.Ascending)
    (edges : List (Nat × Nat)) : (adjacency.insertEdges edges).Ascending := by
  induction edges generalizing adjacency with
  | nil => exact h
  | cons edge rest ih => exact ih ((h.modify edge.1 edge.2).modify edge.2 edge.1)

/-- A border of a list, which is refused unless it joins two regions. -/
def addEdge (count : Nat) (adjacency : Adjacency) (edge : Nat × Nat) : Except Failure Adjacency :=
  if Joins count edge then .ok (adjacency.insertEdge edge.1 edge.2)
  else .error (.invalidBorder edge.1 edge.2 count)

private theorem foldlM_addEdge (count : Nat) (first : Adjacency) (edges : List (Nat × Nat)) :
    edges.foldlM (addEdge count) first = match edges.find? (¬ Joins count ·) with
      | none => .ok (first.insertEdges edges)
      | some edge => .error (.invalidBorder edge.1 edge.2 count) := by
  induction edges generalizing first with
  | nil => rfl
  | cons edge rest ih =>
    rw [List.foldlM_cons, List.find?_cons, addEdge]
    by_cases h : Joins count edge
    · rw [if_pos h, decide_eq_false (not_not_intro h)]
      exact ih _
    · rw [if_neg h, decide_eq_true h]
      rfl

/-- All borders are put in if each of them joins two regions. Otherwise the first one that does not
is refused. -/
theorem ofEdges_eq (count : Nat) (edges : List (Nat × Nat)) :
    ofEdges count edges = match edges.find? (¬ Joins count ·) with
      | none => .ok (insertEdges (Array.replicate count []) edges)
      | some edge => .error (.invalidBorder edge.1 edge.2 count) :=
  foldlM_addEdge count _ edges

theorem ofEdges_eq_ok_iff {count : Nat} {edges : List (Nat × Nat)} {adjacency : Adjacency} :
    ofEdges count edges = .ok adjacency ↔ (∀ edge ∈ edges, Joins count edge) ∧
      insertEdges (Array.replicate count []) edges = adjacency := by
  have hnone : edges.find? (¬ Joins count ·) = none ↔ ∀ edge ∈ edges, Joins count edge := by
    simp [List.find?_eq_none]
  rw [ofEdges_eq, ← hnone]
  cases edges.find? (¬ Joins count ·) with
  | none => simp
  | some edge => simp

theorem ofEdges_eq_error_iff {count : Nat} {edges : List (Nat × Nat)} {failure : Failure} :
    ofEdges count edges = .error failure ↔ ∃ before edge after, edges = before ++ edge :: after ∧
      (∀ earlier ∈ before, Joins count earlier) ∧ ¬ Joins count edge ∧
      failure = .invalidBorder edge.1 edge.2 count := by
  have hsome (edge : Nat × Nat) : edges.find? (¬ Joins count ·) = some edge ↔ ¬ Joins count edge ∧
      ∃ before after, edges = before ++ edge :: after ∧
        ∀ earlier ∈ before, Joins count earlier := by
    simp [List.find?_eq_some_iff_append]
  rw [ofEdges_eq]
  constructor
  · intro h
    cases hfind : edges.find? (¬ Joins count ·) with
    | none =>
      rw [hfind] at h
      cases h
    | some edge =>
      rw [hfind] at h
      cases h
      obtain ⟨hedge, before, after, he, hbefore⟩ := (hsome edge).mp hfind
      exact ⟨before, edge, after, he, hbefore, hedge, rfl⟩
  · rintro ⟨before, edge, after, he, hbefore, hedge, rfl⟩
    rw [(hsome edge).mpr ⟨hedge, before, after, he, hbefore⟩]

/-- Accepted borders join two regions each, and are the whole adjacency. -/
theorem ofEdges_eq_ok {count : Nat} {edges : List (Nat × Nat)} {adjacency : Adjacency}
    (h : ofEdges count edges = .ok adjacency) :
    (∀ edge ∈ edges, edge.1 < count ∧ edge.2 < count ∧ edge.1 ≠ edge.2) ∧
      adjacency.size = count ∧
      ∀ x y, y ∈ adjacency.neighbours x ↔ (x, y) ∈ edges ∨ (y, x) ∈ edges := by
  obtain ⟨hvalid, rfl⟩ := ofEdges_eq_ok_iff.mp h
  have hsize : (Array.replicate count [] : Adjacency).size = count := Array.size_replicate
  refine ⟨hvalid, (size_insertEdges ..).trans hsize, fun x y => ?_⟩
  have hnone : y ∉ neighbours (Array.replicate count []) x := by
    rw [neighbours, Array.getElem?_replicate]
    split <;> simp
  rw [mem_neighbours_insertEdges (by rwa [hsize]), or_iff_left hnone]

theorem ascending_ofEdges {count : Nat} {edges : List (Nat × Nat)} {adjacency : Adjacency}
    (h : ofEdges count edges = .ok adjacency) : adjacency.Ascending := by
  obtain ⟨_, rfl⟩ := ofEdges_eq_ok_iff.mp h
  refine Ascending.insertEdges (fun id => ?_) edges
  rw [neighbours, Array.getElem?_replicate]
  split <;> exact List.Pairwise.nil

@[simp] theorem size_ofRegions (margin : Binary64) (regions : List Region) :
    (ofRegions margin regions).size = regions.length := by
  simp [ofRegions]

/-- Regions numbered by their places are neighbours when they are different and near enough. -/
theorem mem_neighbours_ofRegions {margin : Binary64} {regions : List Region}
    (hid : ∀ place (region : Region), regions[place]? = some region → region.id = place) {x y : Nat} :
    y ∈ (ofRegions margin regions).neighbours x ↔ x ≠ y ∧
      ∃ r s, regions[x]? = some r ∧ regions[y]? = some s ∧ r.borders margin s = true := by
  rw [neighbours, ofRegions, List.getElem?_toArray, List.getElem?_map]
  cases hr : regions[x]? with
  | none => simp
  | some r =>
    simp only [Option.map_some, Option.getD_some, List.mem_map, List.mem_filter, Bool.and_eq_true,
      bne_iff_ne]
    constructor
    · rintro ⟨s, ⟨hs, hne, hb⟩, rfl⟩
      obtain ⟨place, hplace⟩ := List.mem_iff_getElem?.mp hs
      have hy : s.id = place := hid place s hplace
      refine ⟨fun he => hne ?_, r, s, rfl, hy ▸ hplace, hb⟩
      rw [hid x r hr, he]
    · rintro ⟨hne, r', s, hr', hs, hb⟩
      cases hr'
      refine ⟨s, ⟨List.mem_of_getElem? hs, fun he => hne ?_, hb⟩, hid y s hs⟩
      rw [← hid x r hr, ← he, hid y s hs]

theorem ascending_ofRegions {margin : Binary64} {regions : List Region}
    (h : regions.Pairwise fun r s => r.id < s.id) : (ofRegions margin regions).Ascending := by
  intro id
  rw [neighbours, ofRegions, List.getElem?_toArray, List.getElem?_map]
  cases regions[id]? with
  | none => exact List.Pairwise.nil
  | some region => exact List.pairwise_map.mpr (h.filter _)

end Adjacency

end ConstraintSearch.Colouring
