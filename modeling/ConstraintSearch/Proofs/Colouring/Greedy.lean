import ConstraintSearch.Proofs.Colouring.Solving
import ConstraintSearch.Proofs.Search.Greedy
import Mathlib.Data.Finset.Lattice.Fold
import Mathlib.Data.List.Perm.Subperm
import Mathlib.Order.Lattice.Nat

/-! Maps that are coloured greedily. Regions are decided from the lowest on, so only lower
neighbours can have taken a colour; with more colours than lower neighbours one is always left. -/
namespace ConstraintSearch.Colouring
open Finset (range)

def Adjacency.lowerNeighbours (adjacency : Adjacency) (id : Nat) : List Nat :=
  (adjacency.neighbours id).filter (· < id)

private theorem neverStuck_model {adjacency : Adjacency} {palette : List Colour}
    (hp : palette.Nodup)
    (hlower : ∀ id < adjacency.size, (adjacency.lowerNeighbours id).length < palette.length) :
    (model adjacency palette).NeverStuck := by
  intro id hid a hopen
  let taken := (adjacency.lowerNeighbours id).filterMap a.get?
  have hfew : taken.length < palette.length :=
    Nat.lt_of_le_of_lt (List.length_filterMap_le ..) (hlower id hid)
  obtain ⟨colour, hcolour, hfree⟩ : ∃ colour ∈ palette, colour ∉ taken := by
    by_contra hall
    push Not at hall
    exact Nat.not_le_of_lt hfew (hp.subperm hall).length_le
  refine ⟨colour, hcolour, List.all_eq_true.mpr fun other hother => bne_iff_ne.mpr fun hget => ?_⟩
  refine hfree (List.mem_filterMap.mpr ⟨other, ?_, hget⟩)
  have hlt : other < id := by
    refine Nat.lt_of_not_le fun hle => ?_
    rw [hopen other hle] at hget
    cases hget
  exact List.mem_filter.mpr ⟨hother, decide_eq_true hlt⟩

namespace Map
variable {borders : Nat → Nat → Prop} {m : Map}

private theorem nodup_palette (m : Map) : m.palette.Nodup :=
  List.Nodup.sublist (List.take_sublist ..) (by decide)

/-- Whatever order the colours are tried in, a search decides every region once and takes no colour
back. -/
def SolvedInOneGo (m : Map) : Prop :=
  ∀ {σ : Type} (e : Engine σ Colour), e.order.Permutes (Puzzle.model m) →
    ∃ report m' e', Puzzle.solve m e = .ok (report, m', e') ∧ report.outcome.isSolved = true ∧
      report.stats.backtracks = 0 ∧ report.stats.nodes = m.regions.length

theorem Bordered.solvedInOneGo (h : m.Bordered borders) (hne : m.regions ≠ [])
    (hlower : ∀ id < m.regions.length, (m.adjacency.lowerNeighbours id).length < m.palette.length) :
    m.SolvedInOneGo := by
  intro σ e he
  have hstuck : (Puzzle.model m).NeverStuck :=
    neverStuck_model m.nodup_palette (h.size_adjacency ▸ hlower)
  obtain ⟨report, e', hsolve, hsolved, hback, hnodes⟩ :=
    Engine.solve_of_neverStuck hstuck (h.validate_model hne) he
  rw [show (Puzzle.model m).count = m.regions.length from h.size_adjacency] at hsolve hnodes
  exact ⟨report, _, e', Puzzle.solve_eq_ok rfl hsolve rfl, hsolved, hback, hnodes⟩

/-- A map is coloured without taking a colour back when each region has fewer lower neighbours than
there are colours, and so when the palette is larger than the largest number of neighbours. -/
theorem solved_in_one_go_of_lower_neighbours (hm : m.Built borders) (hne : m.regions ≠ []) :
    ((∀ id < m.regions.length, (m.adjacency.lowerNeighbours id).length < m.palette.length) →
      m.SolvedInOneGo) ∧
    ((range m.regions.length).sup (fun id => (m.neighbours id).length) < m.palette.length →
      m.SolvedInOneGo) := by
  have hb := hm.bordered
  refine ⟨hb.solvedInOneGo hne, fun hmost => hb.solvedInOneGo hne fun id hid => ?_⟩
  calc (m.adjacency.lowerNeighbours id).length
      ≤ (m.neighbours id).length := List.length_filter_le ..
    _ ≤ (range m.regions.length).sup fun id => (m.neighbours id).length :=
        Finset.le_sup (f := fun id => (m.neighbours id).length) (Finset.mem_range.mpr hid)
    _ < m.palette.length := hmost

/-- A region with four neighbours that border nothing else, and two colours, which are tried from
the last. The neighbours of the first region outnumber the colours, but none of them is lower. -/
theorem solved_in_one_go_of_star :
    ∃ m two, ofEdges 5 [(0, 1), (2, 0), (0, 3), (4, 0)] = .ok m ∧ m.withPaletteSize 2 = .ok two ∧
      (two.neighbours 0).length = 4 ∧
      (∀ id < two.regions.length, (two.adjacency.lowerNeighbours id).length < two.palette.length) ∧
      (.reversed : ValueOrder Unit Colour).Permutes (Puzzle.model two) ∧
      ∃ report m' e', Puzzle.solve two ⟨.reversed, ()⟩ = .ok (report, m', e') ∧
        report.outcome.isSolved = true ∧ report.stats.backtracks = 0 ∧ report.stats.nodes = 5 := by
  obtain ⟨m, hm⟩ : ∃ m, ofEdges 5 [(0, 1), (2, 0), (0, 3), (4, 0)] = .ok m := ⟨_, rfl⟩
  obtain ⟨two, htwo⟩ : ∃ two, m.withPaletteSize 2 = .ok two := ⟨_, rfl⟩
  have hbuilt := (Built.ofEdges hm).withPaletteSize htwo
  have hcount : two.regions.length = 5 := by
    cases hm
    cases htwo
    rfl
  have hne : two.regions ≠ [] := List.ne_nil_of_length_pos (hcount ▸ by decide)
  have hlower : ∀ id < two.regions.length,
      (two.adjacency.lowerNeighbours id).length < two.palette.length := by
    rw [hcount]
    cases hm
    cases htwo
    decide
  have hreversed := ValueOrder.reversed_permutes (σ := Unit) (Puzzle.model two)
  have hfour : (two.neighbours 0).length = 4 := by
    cases hm
    cases htwo
    rfl
  have hsolve :=
    (solved_in_one_go_of_lower_neighbours hbuilt hne).1 hlower ⟨.reversed, ()⟩ hreversed
  rw [hcount] at hsolve
  exact ⟨m, two, hm, htwo, hfour, hlower, hreversed, hsolve⟩

end Map

end ConstraintSearch.Colouring
