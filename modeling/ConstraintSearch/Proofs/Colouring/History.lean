import ConstraintSearch.Proofs.InPlace
import ConstraintSearch.Proofs.Colouring.Building
import ConstraintSearch.Proofs.Forgetting

/-! Maps that are searched and cleared in any order. Their structure is never touched, and every
region keeps its place for a colour. -/
namespace ConstraintSearch.Colouring.Map
open Chance Puzzle
variable {origin m m' : Map} {past : List Map}

/-- Maps that have not been touched yet. The palette may be chosen at any time, which makes a new
map. -/
inductive New : Map → Prop
  | ofEdges {count : Nat} {edges : List (Nat × Nat)} {m : Map} (h : ofEdges count edges = .ok m) :
      New m
  | ofRegions (regions : List Region) (margin : Binary64) : New (ofRegions regions margin)
  | generate {settings : Settings} {generator later : Generator} {m : Map}
      (h : generate settings generator = (.ok m, later)) : New m
  | withPaletteSize {origin m m' : Map} {past : List Map} {size : Nat} (hnew : New origin)
      (h : History Unedited origin past m) (hsize : m.withPaletteSize size = .ok m') : New m'

/-- What holds of a map at all times: regions, borders and palette stay, and every region has a place
for its colour. -/
structure Kept (origin m : Map) : Prop where
  regions_eq : m.regions = origin.regions
  adjacency_eq : m.adjacency = origin.adjacency
  paletteSize_eq : m.paletteSize = origin.paletteSize
  size_eq : m.colouring.size = origin.regions.length

def Clear (m : Map) : Prop := m.colouring = .blank m.regions.length ∧ m.stats = {}

theorem Clear.kept (h : origin.Clear) : Kept origin origin :=
  ⟨rfl, rfl, rfl, by rw [h.1, Assignment.size_blank]⟩

namespace Kept

theorem actsAs (h : Kept origin m) (horigin : Kept origin origin) : ActsAs origin m where
  model_eq := by
    change model m.adjacency m.palette = model origin.adjacency origin.palette
    rw [palette, palette, h.adjacency_eq, h.paletteSize_eq]
  initial_eq := by
    change Except.ok (Assignment.blank m.regions.length) = _
    rw [h.regions_eq]
    rfl
  apply_eq report := by
    change Except.ok (m.apply report) = Except.ok (origin.apply report)
    rw [Map.apply, Map.apply, h.regions_eq, h.adjacency_eq, h.paletteSize_eq]
  reset_eq := by
    change Except.ok m.reset = Except.ok origin.reset
    rw [Map.reset, Map.reset, Assignment.clear, Assignment.clear, h.size_eq, horigin.size_eq,
      h.regions_eq, h.adjacency_eq, h.paletteSize_eq]

private theorem apply {σ : Type} {e : Engine σ Colour} {earlier : Map} {report : Report Colour}
    (h : Kept origin m) (hearlier : Kept origin earlier) (hr : Reports earlier e report) :
    Kept origin (m.apply report) := by
  refine ⟨h.regions_eq, h.adjacency_eq, h.paletteSize_eq, ?_⟩
  have hfits := hr.fits rfl
  rw [Assignment.size_blank, hearlier.regions_eq, ← h.regions_eq] at hfits
  exact (Report.size_shown_eq_iff.mpr hfits).trans (congrArg _ h.regions_eq)

private theorem reset (h : Kept origin m) : Kept origin m.reset :=
  ⟨h.regions_eq, h.adjacency_eq, h.paletteSize_eq, (Assignment.size_blank _).trans h.size_eq⟩

theorem of_history (horigin : Kept origin origin) (h : History Unedited origin past m) :
    Kept origin m := by
  refine h.invariant (I := Kept origin) horigin (fun _ _ _ he => he.elim) ?_ ?_ m List.mem_cons_self
  · intro σ p p' earlier e report hp hearlier _ hr ha
    cases ha
    exact hp.apply hearlier hr
  · intro p p' hp hr
    cases hr
    exact hp.reset

end Kept

private theorem clear_of_generate {settings : Settings} {generator later : Generator}
    (h : Map.generate settings generator = (.ok m, later)) : m.Clear := by
  unfold generate at h
  obtain ⟨_, _, _, h⟩ := InPlace.bind_eq_ok h
  obtain ⟨_, _, _, h⟩ := InPlace.bind_eq_ok h
  obtain ⟨_, _, _, h⟩ := InPlace.bind_eq_ok h
  cases h
  exact ⟨rfl, rfl⟩

theorem New.clear (h : m.New) : m.Clear := by
  induction h with
  | @ofEdges count edges m h =>
    obtain ⟨_, _, rfl⟩ := ofEdges_eq_ok_iff.mp h
    exact ⟨rfl, rfl⟩
  | ofRegions regions margin => exact ⟨rfl, rfl⟩
  | generate h => exact clear_of_generate h
  | @withPaletteSize origin m m' past size _ h hsize ih =>
    obtain ⟨_, rfl⟩ := withPaletteSize_eq_ok hsize
    have hk := Kept.of_history ih.kept h
    refine ⟨?_, rfl⟩
    change Assignment.blank m.colouring.size = .blank m.regions.length
    rw [hk.size_eq, hk.regions_eq]

theorem Clear.untouched (h : m.Clear) : Untouched m where
  initial_eq := congrArg Except.ok h.1.symm
  stats_eq := h.2
  reset_eq := by
    change Except.ok m.reset = Except.ok m
    rw [Map.reset, Assignment.clear, h.1, Assignment.size_blank, ← h.1, ← h.2]

end ConstraintSearch.Colouring.Map
