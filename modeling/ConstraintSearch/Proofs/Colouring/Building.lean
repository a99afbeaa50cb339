import ConstraintSearch.Proofs.Colouring.Adjacency

/-! The maps that can be had, and what holds of all of them. Colours, counters and the size of the
palette change; the borders stay as they were built. -/
namespace ConstraintSearch.Colouring.Map
variable {borders : Nat → Nat → Prop} {m m' : Map}

/-- The maps with the given borders: new ones, from a list of borders or from regions, and what
becomes of them. -/
inductive Built : (Nat → Nat → Prop) → Map → Prop
  | ofEdges {count : Nat} {edges : List (Nat × Nat)} {m : Map} (h : ofEdges count edges = .ok m) :
      Built (fun a b => (a, b) ∈ edges ∨ (b, a) ∈ edges) m
  | ofRegions (regions : List Region) (margin : Binary64) :
      Built (fun a b => a ≠ b ∧ ∃ r s, regions[a]? = some r ∧ regions[b]? = some s ∧
        r.borders margin s = true) (ofRegions regions margin)
  | withPaletteSize {borders : Nat → Nat → Prop} {m m' : Map} {size : Nat} (hm : Built borders m)
      (h : m.withPaletteSize size = .ok m') : Built borders m'
  | apply {borders : Nat → Nat → Prop} {m : Map} (hm : Built borders m) (report : Report Colour) :
      Built borders (m.apply report)
  | reset {borders : Nat → Nat → Prop} {m : Map} (hm : Built borders m) : Built borders m.reset

/-- The adjacency has an entry for each region and is the relation of the borders, which have no
direction and join different regions. Some colour may be used. -/
structure Bordered (borders : Nat → Nat → Prop) (m : Map) : Prop where
  size_adjacency : m.adjacency.size = m.regions.length
  mem_neighbours : ∀ a b, b ∈ m.neighbours a ↔ borders a b
  symm : ∀ a b, borders a b → borders b a
  ne : ∀ a b, borders a b → a ≠ b
  lt : ∀ a b, borders a b → b < m.regions.length
  palette_ne_nil : m.palette ≠ []

private theorem Bordered.of_eq (h : Bordered borders m) (hr : m'.regions = m.regions)
    (ha : m'.adjacency = m.adjacency) (hp : m'.palette ≠ []) : Bordered borders m' where
  size_adjacency := by rw [ha, hr, h.size_adjacency]
  mem_neighbours a b := by
    rw [neighbours, ha]
    exact h.mem_neighbours a b
  symm := h.symm
  ne := h.ne
  lt := by
    rw [hr]
    exact h.lt
  palette_ne_nil := hp

theorem Bordered.apply (h : Bordered borders m) (report : Report Colour) :
    Bordered borders (m.apply report) :=
  h.of_eq rfl rfl h.palette_ne_nil

private theorem palette_blank (regions : List Region) (adjacency : Adjacency) :
    (blank regions adjacency).palette = Colour.palette := rfl

/-- The regions of a map that is built from borders alone. -/
def points (count : Nat) : List Region :=
  (List.range count).map fun id => ⟨id, .ofNat id, .zero, .zero⟩

private theorem length_points (count : Nat) : (points count).length = count := by
  rw [points, List.length_map, List.length_range]

theorem id_points {count : Nat} (place : Nat) (region : Region)
    (h : (points count)[place]? = some region) : region.id = place := by
  rw [points, List.getElem?_map] at h
  obtain ⟨id, hid, rfl⟩ := Option.map_eq_some_iff.mp h
  obtain ⟨_, rfl⟩ := List.getElem?_eq_some_iff.mp hid
  exact List.getElem_range ..

theorem ofEdges_eq_ok_iff {count : Nat} {edges : List (Nat × Nat)} :
    ofEdges count edges = .ok m ↔ ∃ adjacency, Adjacency.ofEdges count edges = .ok adjacency ∧
      m = blank (points count) adjacency := by
  rw [ofEdges]
  constructor
  · intro h
    obtain ⟨adjacency, ha, h⟩ := Failure.bind_eq_ok h
    cases h
    exact ⟨adjacency, ha, rfl⟩
  · rintro ⟨adjacency, ha, rfl⟩
    rw [ha]
    rfl

theorem ofEdges_eq_ok {count : Nat} {edges : List (Nat × Nat)} (h : ofEdges count edges = .ok m) :
    Adjacency.ofEdges count edges = .ok m.adjacency ∧ m.regions.length = count ∧
      m.palette = Colour.palette := by
  obtain ⟨_, ha, rfl⟩ := ofEdges_eq_ok_iff.mp h
  exact ⟨ha, length_points count, palette_blank ..⟩

private theorem bordered_ofEdges {count : Nat} {edges : List (Nat × Nat)}
    (h : ofEdges count edges = .ok m) :
    Bordered (fun a b => (a, b) ∈ edges ∨ (b, a) ∈ edges) m := by
  obtain ⟨ha, hcount, hp⟩ := ofEdges_eq_ok h
  obtain ⟨hvalid, hsize, hmem⟩ := Adjacency.ofEdges_eq_ok ha
  refine ⟨hsize.trans hcount.symm, hmem, fun a b => Or.symm, fun a b hab => ?_, fun a b hab => ?_, ?_⟩
  · rcases hab with hab | hab
    · exact (hvalid _ hab).2.2
    · exact Ne.symm (hvalid _ hab).2.2
  · rw [hcount]
    rcases hab with hab | hab
    · exact (hvalid _ hab).2.1
    · exact (hvalid _ hab).1
  · rw [hp]
    exact List.cons_ne_nil _ _

/-- The regions of a map with their places for numbers. -/
def numbered (regions : List Region) : List Region :=
  regions.zipIdx.map fun (region, id) => { region with id }

private theorem getElem?_numbered (regions : List Region) (place : Nat) :
    (numbered regions)[place]? = regions[place]?.map fun region => { region with id := place } := by
  rw [numbered, List.getElem?_map, List.getElem?_zipIdx]
  cases regions[place]? <;> simp

theorem id_numbered {regions : List Region} (place : Nat) (region : Region)
    (h : (numbered regions)[place]? = some region) : region.id = place := by
  rw [getElem?_numbered] at h
  obtain ⟨_, _, rfl⟩ := Option.map_eq_some_iff.mp h
  rfl

theorem ascending_numbered (regions : List Region) :
    (numbered regions).Pairwise fun r s => r.id < s.id := by
  have hplaces : (regions.zipIdx.map Prod.snd).Pairwise (· < ·) := by
    rw [List.zipIdx_map_snd]
    exact List.pairwise_lt_range'
  rw [numbered, List.pairwise_map]
  exact List.pairwise_map.mp hplaces

private theorem length_numbered (regions : List Region) :
    (numbered regions).length = regions.length := by
  simp [numbered]

/-- Two regions of a list are nearer to each other than their radii and the margin together. -/
def Near (regions : List Region) (margin : Binary64) (a b : Nat) : Prop :=
  ∃ r s, regions[a]? = some r ∧ regions[b]? = some s ∧ r.borders margin s = true

theorem near_numbered {regions : List Region} {margin : Binary64} {a b : Nat} :
    Near (numbered regions) margin a b ↔ Near regions margin a b := by
  simp only [Near, getElem?_numbered, Option.map_eq_some_iff]
  constructor
  · rintro ⟨_, _, ⟨r, hr, rfl⟩, ⟨s, hs, rfl⟩, hb⟩
    exact ⟨r, s, hr, hs, hb⟩
  · rintro ⟨r, s, hr, hs, hb⟩
    exact ⟨_, _, ⟨r, hr, rfl⟩, ⟨s, hs, rfl⟩, hb⟩

private theorem mem_neighbours_ofRegions {regions : List Region} {margin : Binary64} {a b : Nat} :
    b ∈ (ofRegions regions margin).neighbours a ↔ a ≠ b ∧ Near regions margin a b :=
  (Adjacency.mem_neighbours_ofRegions id_numbered).trans (and_congr_right fun _ => near_numbered)

theorem bordered_ofRegions (regions : List Region) (margin : Binary64) :
    Bordered (fun a b => a ≠ b ∧ ∃ r s, regions[a]? = some r ∧ regions[b]? = some s ∧
      r.borders margin s = true) (ofRegions regions margin) where
  size_adjacency := Adjacency.size_ofRegions margin (numbered regions)
  mem_neighbours _ _ := mem_neighbours_ofRegions
  symm := by
    rintro a b ⟨hne, r, s, hr, hs, hb⟩
    exact ⟨Ne.symm hne, s, r, hs, hr, (Region.borders_comm ..).trans hb⟩
  ne _ _ h := h.1
  lt := by
    rintro a b ⟨_, _, s, _, hs, _⟩
    exact Nat.lt_of_lt_of_eq (List.getElem?_eq_some_iff.mp hs).1 (length_numbered regions).symm
  palette_ne_nil := List.cons_ne_nil _ _

theorem withPaletteSize_eq_ok {size : Nat} (h : m.withPaletteSize size = .ok m') :
    0 < size ∧ m' = ({ m with paletteSize := size } : Map).reset := by
  rw [withPaletteSize] at h
  split at h
  · cases h
  · rename_i hsize
    rw [not_or] at hsize
    exact ⟨Nat.pos_of_ne_zero hsize.1, (Except.ok.inj h).symm⟩

/-- Every map has the borders it was built with. -/
theorem Built.bordered (h : Built borders m) : Bordered borders m := by
  induction h with
  | ofEdges h => exact bordered_ofEdges h
  | ofRegions regions margin => exact bordered_ofRegions regions margin
  | withPaletteSize _ h ih =>
    obtain ⟨hpos, rfl⟩ := withPaletteSize_eq_ok h
    refine ih.of_eq rfl rfl ?_
    rw [palette, Ne, List.take_eq_nil_iff, not_or]
    exact ⟨Nat.ne_of_gt hpos, List.cons_ne_nil _ _⟩
  | apply _ report ih => exact ih.apply report
  | reset _ ih => exact ih.of_eq rfl rfl ih.palette_ne_nil

end ConstraintSearch.Colouring.Map
