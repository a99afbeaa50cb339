import ConstraintSearch.Proofs.Colouring.Building
import ConstraintSearch.Proofs.Colouring.Listing
import ConstraintSearch.Proofs.History
import ConstraintSearch.Proofs.Puzzle
import ConstraintSearch.Proofs.Search.Solutions
import Mathlib.Logic.Relation

/-! What can be done with a map, in any order. Colours, counters and the palette change, and the
borders stay as they were built: a relation without direction, which every reader of it relies on. -/
namespace ConstraintSearch.Colouring.Map
open Finset (range)
variable {allowed : Map → Report Colour → Prop} {borders : Nat → Nat → Prop} {first m m' : Map}

/-- What can be done with a map, when these reports may be applied. An engine may order the values as
it likes, and a request that is refused does nothing. -/
inductive Operation (allowed : Map → Report Colour → Prop) : Map → Map → Prop
  | solve {σ : Type} {m m' : Map} {e e' : Engine σ Colour} {report : Report Colour}
      (h : Puzzle.solve m e = .ok (report, m', e')) : Operation allowed m m'
  | apply {m : Map} {report : Report Colour} (h : allowed m report) :
      Operation allowed m (m.apply report)
  | reset (m : Map) : Operation allowed m m.reset
  | withPaletteSize {m m' : Map} {size : Nat} (h : m.withPaletteSize size = .ok m') :
      Operation allowed m m'

abbrev Reaches (allowed : Map → Report Colour → Prop) : Map → Map → Prop :=
  Relation.ReflTransGen (Operation allowed)

/-- A report may come from anywhere. -/
def AnyReport (_ : Map) (_ : Report Colour) : Prop := True

theorem Operation.built (h : Operation allowed m m') (hm : Built borders m) : Built borders m' := by
  cases h with
  | solve h =>
    obtain ⟨_, ha⟩ := Puzzle.reports_of_solve h
    cases ha
    exact hm.apply _
  | apply _ => exact hm.apply _
  | reset => exact hm.reset
  | withPaletteSize h => exact hm.withPaletteSize h

theorem Reaches.built (h : Reaches allowed first m) (hfirst : Built borders first) :
    Built borders m := by
  induction h with
  | refl => exact hfirst
  | tail _ h ih => exact h.built ih

private theorem Operation.regions_eq (h : Operation allowed m m') : m'.regions = m.regions := by
  cases h with
  | solve h =>
    obtain ⟨_, ha⟩ := Puzzle.reports_of_solve h
    cases ha
    rfl
  | apply _ => rfl
  | reset => rfl
  | withPaletteSize h =>
    obtain ⟨_, rfl⟩ := withPaletteSize_eq_ok h
    rfl

private theorem Reaches.regions_eq (h : Reaches allowed first m) : m.regions = first.regions := by
  induction h with
  | refl => rfl
  | tail _ h ih => exact h.regions_eq.trans ih

/-- Regions have their places for numbers, and neighbours are listed in order. -/
structure Ordered (m : Map) : Prop where
  id_eq : ∀ place (region : Region), m.regions[place]? = some region → region.id = place
  ascending : m.adjacency.Ascending

private theorem ordered_ofEdges {count : Nat} {edges : List (Nat × Nat)}
    (h : ofEdges count edges = .ok m) : Ordered m := by
  obtain ⟨_, ha, rfl⟩ := ofEdges_eq_ok_iff.mp h
  exact ⟨id_points, Adjacency.ascending_ofEdges ha⟩

private theorem ordered_ofRegions (regions : List Region) (margin : Binary64) :
    Ordered (ofRegions regions margin) :=
  ⟨id_numbered, Adjacency.ascending_ofRegions (ascending_numbered regions)⟩

theorem Built.ordered (h : Built borders m) : Ordered m := by
  induction h with
  | ofEdges h => exact ordered_ofEdges h
  | ofRegions regions margin => exact ordered_ofRegions regions margin
  | withPaletteSize _ h ih =>
    obtain ⟨_, rfl⟩ := withPaletteSize_eq_ok h
    exact ⟨ih.id_eq, ih.ascending⟩
  | apply _ _ ih => exact ⟨ih.id_eq, ih.ascending⟩
  | reset _ ih => exact ⟨ih.id_eq, ih.ascending⟩

/-- Regions, adjacency, list of borders and description agree with the borders that the map was built
with. -/
structure Sound (borders : Nat → Nat → Prop) (m : Map) : Prop where
  id_eq : ∀ place (region : Region), m.regions[place]? = some region → region.id = place
  size_adjacency : m.adjacency.size = m.regions.length
  ascending : ∀ id, (m.neighbours id).Pairwise (· < ·)
  mem_neighbours : ∀ a b, b ∈ m.neighbours a ↔ borders a b
  comm : ∀ a b, b ∈ m.neighbours a ↔ a ∈ m.neighbours b
  irrefl : ∀ id, id ∉ m.neighbours id
  lt : ∀ a b, b ∈ m.neighbours a → b < m.regions.length
  /-- Every border is listed once, from the lower region to the higher, and nothing else is. -/
  edges_ascending : m.edges.Pairwise (Prod.Lex (· < ·) (· < ·))
  mem_edges : ∀ a b, (a, b) ∈ m.edges ↔ a < b ∧ b ∈ m.neighbours a
  sum_neighbours : ∑ id ∈ range m.regions.length, (m.neighbours id).length = 2 * m.edges.length
  description_eq : (Puzzle.model m).description =
    s!"{m.regions.length} regions, {m.edges.length} borders, {m.palette.length} colours"

theorem Built.sound (h : Built borders m) : Sound borders m := by
  have hb := h.bordered
  have ho := h.ordered
  have hcomm (a b : Nat) : b ∈ m.neighbours a → a ∈ m.neighbours b := by
    rw [hb.mem_neighbours, hb.mem_neighbours]
    exact hb.symm a b
  have hirrefl (id : Nat) : id ∉ m.neighbours id :=
    fun hid => hb.ne id id ((hb.mem_neighbours id id).mp hid) rfl
  have hlt (a b : Nat) (hab : b ∈ m.neighbours a) : b < m.regions.length :=
    hb.lt a b ((hb.mem_neighbours a b).mp hab)
  have hsum : ∑ id ∈ range m.adjacency.size, (m.adjacency.neighbours id).length =
      2 * m.adjacency.edges.length :=
    Adjacency.sum_length_neighbours ho.ascending hcomm hirrefl (by rwa [hb.size_adjacency])
  exact {
    id_eq := ho.id_eq
    size_adjacency := hb.size_adjacency
    ascending := ho.ascending
    mem_neighbours := hb.mem_neighbours
    comm := fun a b => ⟨hcomm a b, hcomm b a⟩
    irrefl := hirrefl
    lt := hlt
    edges_ascending := Adjacency.edges_ascending ho.ascending
    mem_edges := fun a b => Adjacency.mem_edges.trans and_comm
    sum_neighbours := hb.size_adjacency ▸ hsum
    description_eq := by
      rw [← hb.size_adjacency]
      exact Adjacency.description_model hsum m.palette }

/-- Whatever is done with a map and whatever reports are applied to it, its borders are those that it
was built with: mutual, never from a region to itself, listed once each and counted right. They are
the borders of a list, in either direction, or those between regions that are near enough. -/
theorem sound_of_reaches (h : Reaches AnyReport first m) :
    (∀ count edges, ofEdges count edges = .ok first →
      m.regions.length = count ∧ Sound (fun a b => (a, b) ∈ edges ∨ (b, a) ∈ edges) m) ∧
    ∀ regions margin, first = ofRegions regions margin →
      m.regions = numbered regions ∧ Sound (fun a b => a ≠ b ∧ Near m.regions margin a b) m := by
  constructor
  · intro count edges hfirst
    refine ⟨?_, (h.built (.ofEdges hfirst)).sound⟩
    rw [h.regions_eq, (ofEdges_eq_ok hfirst).2.1]
  · rintro regions margin rfl
    refine ⟨h.regions_eq, ?_⟩
    -- the borders follow from distances, which the new numbers of the regions do not change
    have hnear : (fun a b => a ≠ b ∧ Near m.regions margin a b) =
        fun a b => a ≠ b ∧ Near regions margin a b := by
      rw [h.regions_eq]
      exact funext₂ fun a b => propext (and_congr_right fun _ => near_numbered)
    rw [hnear]
    exact (h.built (.ofRegions regions margin)).sound

/-- Four regions, one with no place on the canvas and one without end, that are solved, given a report
with too many colours, cleared, and left with two colours. -/
theorem sound_of_reaches_of_endless_region :
    let regions : List Region := [⟨7, .zero, .zero, .ofNat 30⟩, ⟨7, .ofNat 70, .zero, .ofNat 30⟩,
      ⟨7, .nan, .zero, .ofNat 30⟩, ⟨7, .ofNat 500, .zero, .infinite false⟩]
    ∃ m, Reaches AnyReport (ofRegions regions (.ofNat 20)) m ∧
      m.edges = [(0, 1), (0, 3), (1, 3)] ∧
      (Puzzle.model m).description = "4 regions, 3 borders, 2 colours" ∧
      Sound (fun a b => a ≠ b ∧ Near m.regions (.ofNat 20) a b) m := by
  intro regions
  let new := ofRegions regions (.ofNat 20)
  let foreign : Report Colour := ⟨.solved (.ofList (List.replicate 9 (some .green))), {}⟩
  have hsize : (Assignment.blank new.regions.length : Assignment Colour).size = new.adjacency.size :=
    (Assignment.size_blank _).trans (bordered_ofRegions regions (.ofNat 20)).size_adjacency.symm
  have hsolve := Puzzle.solve_eq_ok (p := new) (e := (⟨.natural, ()⟩ : Engine Unit Colour)) rfl
    (Engine.solve_eq rfl hsize) rfl
  have htwo (m : Map) : m.withPaletteSize 2 = .ok ({ m with paletteSize := 2 } : Map).reset := rfl
  have happly (m : Map) : Operation AnyReport m (m.apply foreign) := .apply trivial
  have h : Reaches AnyReport new _ := .tail (.tail (.tail (.single (.solve hsolve)) (happly _))
    (.reset _)) (.withPaletteSize (htwo _))
  obtain ⟨_, hsound⟩ := (sound_of_reaches h).2 regions (.ofNat 20) rfl
  have hedges : new.edges = [(0, 1), (0, 3), (1, 3)] := by decide +kernel
  refine ⟨_, h, hedges, ?_, hsound⟩
  rw [hsound.description_eq]
  change s!"{4} regions, {new.edges.length} borders, {2} colours" = _
  rw [hedges]
  rfl

end ConstraintSearch.Colouring.Map
