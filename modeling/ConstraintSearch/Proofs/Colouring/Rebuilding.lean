import ConstraintSearch.Proofs.Colouring.Operations

/-! Maps from lists of borders. Only the pairs that are named matter, and the list of borders of a map
names them all. -/
namespace ConstraintSearch.Colouring.Map
open Adjacency (Joins)
variable {borders : Nat → Nat → Prop} {count : Nat} {edges other : List (Nat × Nat)} {m m' : Map}

/-- The same pairs of regions are named, in whatever order and direction and however often. -/
def SameBorders (edges other : List (Nat × Nat)) : Prop :=
  ∀ a b, (a, b) ∈ edges ∨ (b, a) ∈ edges ↔ (a, b) ∈ other ∨ (b, a) ∈ other

theorem ofEdges_eq_error_iff {failure : Failure} :
    ofEdges count edges = .error failure ↔ Adjacency.ofEdges count edges = .error failure := by
  rw [ofEdges]
  cases Adjacency.ofEdges count edges with
  | error failure =>
    constructor <;>
    · intro h
      cases h
      rfl
  | ok _ =>
    constructor <;>
    · intro h
      cases h

private theorem exists_ofEdges_iff :
    (∃ m, ofEdges count edges = .ok m) ↔ ∀ edge ∈ edges, Joins count edge := by
  constructor
  · rintro ⟨m, hm⟩
    exact (Adjacency.ofEdges_eq_ok_iff.mp (ofEdges_eq_ok hm).1).1
  · intro h
    exact ⟨_, ofEdges_eq_ok_iff.mpr ⟨_, Adjacency.ofEdges_eq_ok_iff.mpr ⟨h, rfl⟩, rfl⟩⟩

theorem eq_of_sameBorders (h : SameBorders edges other) (hm : ofEdges count edges = .ok m)
    (hm' : ofEdges count other = .ok m') : m' = m := by
  obtain ⟨adjacency, ha, rfl⟩ := ofEdges_eq_ok_iff.mp hm
  obtain ⟨adjacency', ha', rfl⟩ := ofEdges_eq_ok_iff.mp hm'
  obtain ⟨_, hsize, hmem⟩ := Adjacency.ofEdges_eq_ok ha
  obtain ⟨_, hsize', hmem'⟩ := Adjacency.ofEdges_eq_ok ha'
  -- neighbours are listed in order, so it does not matter in which order they were put in
  have heq : adjacency' = adjacency := by
    refine (Adjacency.ascending_ofEdges ha').ext (Adjacency.ascending_ofEdges ha)
      (hsize'.trans hsize.symm) fun a b => ?_
    rw [hmem', hmem]
    exact (h a b).symm
  rw [heq]

/-- The list of borders of a map, however it was built, makes the same adjacency again. -/
theorem exists_ofEdges_edges (h : Built borders m) :
    ∃ m', ofEdges m.regions.length m.edges = .ok m' ∧ m'.adjacency = m.adjacency := by
  have hs := h.sound
  have hjoins : ∀ edge ∈ m.edges, Joins m.regions.length edge := by
    rintro ⟨a, b⟩ he
    obtain ⟨hlt, hb⟩ := (hs.mem_edges a b).mp he
    exact ⟨hs.lt b a ((hs.comm a b).mp hb), hs.lt a b hb, Nat.ne_of_lt hlt⟩
  obtain ⟨m', hm'⟩ := exists_ofEdges_iff.mpr hjoins
  have ha := (ofEdges_eq_ok hm').1
  obtain ⟨_, hsize, hmem⟩ := Adjacency.ofEdges_eq_ok ha
  refine ⟨m', hm', (Adjacency.ascending_ofEdges ha).ext hs.ascending
    (hsize.trans hs.size_adjacency.symm) fun a b => ?_⟩
  rw [hmem, hs.mem_edges, hs.mem_edges]
  constructor
  · rintro (⟨_, hb⟩ | ⟨_, ha⟩)
    · exact hb
    · exact (hs.comm b a).mp ha
  · intro hb
    have hne : a ≠ b := fun he => hs.irrefl b (he ▸ hb)
    rcases Nat.lt_or_gt_of_ne hne with hlt | hlt
    · exact .inl ⟨hlt, hb⟩
    · exact .inr ⟨hlt, (hs.comm a b).mp hb⟩

/-- A list of borders is refused exactly if some pair of it does not join two different regions of
the map, and the first such pair is named. Accepted lists that name the same pairs make the same map,
which is searched alike; and the borders that a map lists make its adjacency again. -/
theorem ofEdges_depends_on_borders (count : Nat) (edges : List (Nat × Nat)) :
    ((∃ m, ofEdges count edges = .ok m) ↔ ∀ edge ∈ edges, Joins count edge) ∧
    (∀ failure, ofEdges count edges = .error failure ↔ ∃ before edge after,
      edges = before ++ edge :: after ∧ (∀ earlier ∈ before, Joins count earlier) ∧
        ¬ Joins count edge ∧ failure = .invalidBorder edge.1 edge.2 count) ∧
    (∀ m other m', ofEdges count edges = .ok m → ofEdges count other = .ok m' →
      SameBorders edges other → m'.adjacency = m.adjacency ∧ m'.edges = m.edges ∧
        (∀ id, m'.neighbours id = m.neighbours id) ∧ m' = m ∧
        ∀ {σ : Type} (e : Engine σ Colour), Puzzle.search m' e = Puzzle.search m e ∧
          Puzzle.solveTracing m' e = Puzzle.solveTracing m e) ∧
    ∀ {borders m}, Built borders m →
      ∃ m', ofEdges m.regions.length m.edges = .ok m' ∧ m'.adjacency = m.adjacency := by
  refine ⟨exists_ofEdges_iff, fun failure => ?_, fun m other m' hm hm' h => ?_,
    exists_ofEdges_edges⟩
  · exact ofEdges_eq_error_iff.trans Adjacency.ofEdges_eq_error_iff
  · obtain rfl := eq_of_sameBorders h hm hm'
    exact ⟨rfl, rfl, fun _ => rfl, rfl, fun _ => ⟨rfl, rfl⟩⟩

/-- A path of three regions and a region apart: from its two borders, from the same borders turned and
repeated, and from its own list. A border from a region to itself is refused before a region that does
not exist. -/
theorem ofEdges_depends_on_borders_of_path :
    ofEdges 4 [(0, 1), (3, 3), (9, 0)] = .error (.invalidBorder 3 3 4) ∧
    SameBorders [(0, 1), (1, 2)] [(2, 1), (1, 0), (0, 1)] ∧
    ∃ m, ofEdges 4 [(0, 1), (1, 2)] = .ok m ∧ ofEdges 4 [(2, 1), (1, 0), (0, 1)] = .ok m ∧
      ∃ m', ofEdges m.regions.length m.edges = .ok m' ∧ m'.adjacency = m.adjacency := by
  have hsame : SameBorders [(0, 1), (1, 2)] [(2, 1), (1, 0), (0, 1)] := by
    intro a b
    simp only [List.mem_cons, Prod.mk.injEq, List.not_mem_nil, or_false]
    omega
  obtain ⟨m, hm⟩ := (ofEdges_depends_on_borders 4 [(0, 1), (1, 2)]).1.mpr (by decide)
  obtain ⟨m', hm'⟩ := (ofEdges_depends_on_borders 4 [(2, 1), (1, 0), (0, 1)]).1.mpr (by decide)
  obtain ⟨_, hrefused, _⟩ := ofEdges_depends_on_borders 4 [(0, 1), (3, 3), (9, 0)]
  obtain ⟨_, _, hequal, hagain⟩ := ofEdges_depends_on_borders 4 [(0, 1), (1, 2)]
  obtain ⟨_, _, _, rfl, _⟩ := hequal m _ m' hm hm' hsame
  refine ⟨?_, hsame, m', hm, hm', hagain (.ofEdges hm)⟩
  exact (hrefused _).mpr ⟨[(0, 1)], (3, 3), [(9, 0)], rfl, by decide, by decide, rfl⟩

end ConstraintSearch.Colouring.Map
