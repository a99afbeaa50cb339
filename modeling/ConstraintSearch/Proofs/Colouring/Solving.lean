import ConstraintSearch.Proofs.Apart
import ConstraintSearch.Proofs.Colouring.Building
import ConstraintSearch.Proofs.Puzzle
import ConstraintSearch.Proofs.Search.Solutions

/-! Solving a map. The search colours it exactly if the colours of its palette suffice for its
borders. -/
namespace ConstraintSearch.Colouring
variable {σ : Type} {borders : Nat → Nat → Prop} {m : Map} {a b : Assignment Colour}

private theorem index_eq_idxOf (c : Colour) : Colour.palette.idxOf c = c.index := by
  cases c <;> rfl

private theorem Colour.idxOf_take {size : Nat} {c : Colour} (h : c ∈ palette.take size) :
    (palette.take size).idxOf c = c.index :=
  calc (palette.take size).idxOf c
      = (palette.take size ++ palette.drop size).idxOf c := by rw [List.idxOf_append, if_pos h]
    _ = c.index := by rw [List.take_append_drop, index_eq_idxOf]

namespace Map

/-- All regions have colours of the palette, different ones at the two ends of a border. -/
structure Proper (m : Map) (borders : Nat → Nat → Prop) (f : Nat → Colour) : Prop where
  mem_palette : ∀ id < m.regions.length, f id ∈ m.palette
  apart : ∀ a b, borders a b → f a ≠ f b

/-- At the first region where the two differ, the first has the earlier colour. -/
def Before (m : Map) (f g : Nat → Colour) : Prop :=
  ∃ id < m.regions.length, (∀ lower < id, f lower = g lower) ∧ (f id).index < (g id).index

/-- What a search over a map has to find. -/
abbrev Painting (m : Map) (b : Assignment Colour) : Prop :=
  Solution (model m.adjacency m.palette) ((model m.adjacency m.palette).pairs m.neighbours)
    (.blank m.regions.length) b

def paint (m : Map) (f : Nat → Colour) : Assignment Colour :=
  .ofList ((List.range m.regions.length).map fun id => some (f id))

@[simp] private theorem size_paint (m : Map) (f : Nat → Colour) :
    (m.paint f).size = m.regions.length := by
  simp [paint, Assignment.ofList, Assignment.size]

private theorem get?_paint (f : Nat → Colour) {id : Nat} (h : id < m.regions.length) :
    (m.paint f).get? id = some (f id) := by
  simp [paint, Assignment.ofList, Assignment.get?, h]

private theorem Proper.before_of_precedes {f g : Nat → Colour} (hf : m.Proper borders f)
    (hg : m.Proper borders g) (hs : a.size = m.regions.length)
    (ha : ∀ id < m.regions.length, a.get? id = some (f id))
    (hb : ∀ id < m.regions.length, b.get? id = some (g id))
    (h : a.Precedes (fun _ => m.palette) b) : m.Before f g := by
  obtain ⟨id, x, y, hlow, hx, hy, hlt⟩ := h
  have hid : id < m.regions.length := Nat.lt_of_lt_of_eq (Assignment.lt_size_of_get? hx) hs
  rw [ha id hid] at hx
  rw [hb id hid] at hy
  obtain rfl := Option.some.inj hx
  obtain rfl := Option.some.inj hy
  refine ⟨id, hid, fun lower hl => ?_, ?_⟩
  · have hl' := Nat.lt_trans hl hid
    have he := hlow lower hl
    rw [ha lower hl', hb lower hl'] at he
    exact Option.some.inj he
  · rwa [palette, Colour.idxOf_take (hf.mem_palette id hid),
      Colour.idxOf_take (hg.mem_palette id hid)] at hlt

namespace Bordered

theorem keepsApart (h : m.Bordered borders) :
    (model m.adjacency m.palette).KeepsApart m.neighbours where
  consistent_eq _ _ _ := rfl
  symm a _ b hb := (h.mem_neighbours b a).mpr (h.symm a b ((h.mem_neighbours a b).mp hb))
  ne a _ b hb := Ne.symm (h.ne a b ((h.mem_neighbours a b).mp hb))
  lt a _ b hb :=
    Nat.lt_of_lt_of_eq (h.lt a b ((h.mem_neighbours a b).mp hb)) h.size_adjacency.symm

theorem validate_model (h : m.Bordered borders) (hne : m.regions ≠ []) :
    (model m.adjacency m.palette).validate = .ok () := by
  refine Model.validate_eq_ok_iff.mpr ⟨?_, fun _ _ => h.palette_ne_nil⟩
  exact Nat.lt_of_lt_of_eq (List.length_pos_iff.mpr hne) h.size_adjacency.symm

/-- The checker looks at each border from one end, which is enough. -/
theorem isProper_iff (h : m.Bordered borders) : m.isProper = true ↔ m.colouring.isComplete = true ∧
    (∀ id colour, m.colourOf? id = some colour → colour ∈ m.palette) ∧
      ∀ a b, borders a b → m.colourOf? a ≠ m.colourOf? b := by
  have hedges : (∀ a b, (a, b) ∈ m.edges → m.colourOf? a ≠ m.colourOf? b) ↔
      ∀ a b, borders a b → m.colourOf? a ≠ m.colourOf? b := by
    constructor
    · intro hall a b hab
      rcases Nat.lt_or_gt_of_ne (h.ne a b hab) with hlt | hlt
      · exact hall a b (Adjacency.mem_edges.mpr ⟨(h.mem_neighbours a b).mpr hab, hlt⟩)
      · have hba := (h.mem_neighbours b a).mpr (h.symm a b hab)
        exact (hall b a (Adjacency.mem_edges.mpr ⟨hba, hlt⟩)).symm
    · intro hall a b hab
      exact hall a b ((h.mem_neighbours a b).mp (Adjacency.mem_edges.mp hab).1)
  rw [← hedges, isProper, Bool.and_eq_true, Bool.and_eq_true, and_assoc]
  simp only [List.all_eq_true, Prod.forall, Assignment.mem_assigned, List.contains_iff_mem,
    bne_iff_ne]
  rfl

theorem painting_iff (h : m.Bordered borders) (hs : b.size = m.regions.length) :
    m.Painting b ↔
      ∃ f, m.Proper borders f ∧ ∀ id < m.regions.length, b.get? id = some (f id) := by
  have hsize : b.size = (model m.adjacency m.palette).count := hs.trans h.size_adjacency.symm
  have hlt {id : Nat} (hid : id < m.regions.length) : id < m.adjacency.size :=
    Nat.lt_of_lt_of_eq hid h.size_adjacency.symm
  constructor
  · intro hb
    have hget : ∀ id < m.regions.length, b.get? id = some ((b.get? id).getD default) := by
      intro id hid
      obtain ⟨colour, hc⟩ := Assignment.isComplete_iff_exists.mp hb.complete id (hs ▸ hid)
      rw [hc, Option.getD_some]
    refine ⟨fun id => (b.get? id).getD default, ⟨fun id hid => ?_, fun x y hxy he => ?_⟩, hget⟩
    · exact hb.inDomain id (hlt hid) (Assignment.get?_blank ..) _ (hget id hid)
    · have hx := h.lt y x (h.symm x y hxy)
      have hy := h.lt x y hxy
      refine (h.keepsApart.holds_pairs_iff hsize hb.complete).mp hb.holds x (hlt hx) y
        ((h.mem_neighbours x y).mpr hxy) ?_
      rw [hget x hx, hget y hy]
      exact congrArg some he
  · rintro ⟨f, hf, hget⟩
    have hcomplete : b.isComplete = true :=
      Assignment.isComplete_iff_exists.mpr fun id hid => ⟨f id, hget id (hs ▸ hid)⟩
    refine ⟨hsize, hcomplete, fun id colour hk => ?_, fun id hid _ colour hc => ?_, ?_⟩
    · rw [Assignment.get?_blank] at hk
      cases hk
    · have hid' := Nat.lt_of_lt_of_eq hid h.size_adjacency
      rw [hget id hid'] at hc
      exact Option.some.inj hc ▸ hf.mem_palette id hid'
    · refine (h.keepsApart.holds_pairs_iff hsize hcomplete).mpr fun x hx y hy he => ?_
      have hxy := (h.mem_neighbours x y).mp hy
      rw [hget x (Nat.lt_of_lt_of_eq hx h.size_adjacency), hget y (h.lt x y hxy)] at he
      exact hf.apart x y hxy (Option.some.inj he)

private theorem solve_eq_ok (h : m.Bordered borders) (hne : m.regions ≠ []) {e : Engine σ Colour}
    (he : e.order.Permutes (Puzzle.model m)) :
    ∃ report e', Puzzle.solve m e = .ok (report, m.apply report, e') ∧
      report.Answers (Puzzle.model m) ((Puzzle.model m).pairs m.neighbours) e.order
        (.blank m.regions.length) := by
  have hs : (Assignment.blank m.regions.length : Assignment Colour).size = m.adjacency.size := by
    rw [Assignment.size_blank, h.size_adjacency]
  obtain ⟨report, e', hsolve, ha⟩ :=
    Engine.solve_answers h.keepsApart.givenBy he (h.validate_model hne) hs
  exact ⟨report, e', Puzzle.solve_eq_ok rfl hsolve rfl, ha⟩

theorem isProper_of_painting (h : m.Bordered borders) (hb : m.Painting m.colouring) :
    m.isProper = true := by
  have hs : m.colouring.size = m.regions.length := hb.size_eq.trans h.size_adjacency
  obtain ⟨f, hf, hget⟩ := (h.painting_iff hs).mp hb
  refine h.isProper_iff.mpr ⟨hb.complete, fun id colour hc => ?_, fun x y hxy he => ?_⟩
  · have hid := Nat.lt_of_lt_of_eq (Assignment.lt_size_of_get? hc) hs
    rw [colourOf?, hget id hid] at hc
    exact Option.some.inj hc ▸ hf.mem_palette id hid
  · rw [colourOf?, colourOf?, hget x (h.lt y x (h.symm x y hxy)), hget y (h.lt x y hxy)] at he
    exact hf.apart x y hxy (Option.some.inj he)

end Bordered

private theorem isProper_blank (hne : m.regions ≠ []) (hb : m.colouring = .blank m.regions.length) :
    m.isProper = false := by
  have hcomplete : m.colouring.isComplete ≠ true := by
    intro hcomplete
    rw [hb, Assignment.isComplete_iff_exists, Assignment.size_blank] at hcomplete
    obtain ⟨colour, hc⟩ := hcomplete 0 (List.length_pos_iff.mpr hne)
    rw [Assignment.get?_blank] at hc
    cases hc
  rw [isProper, Bool.eq_false_iff.mpr hcomplete, Bool.false_and, Bool.false_and]

/-- Solving a map with regions never fails. It reports a solution exactly if the palette colours the
map properly, and then shows such a colouring, the first one when colours are tried in their order.
Without a solution it shows no colours. -/
theorem solve_built (hm : m.Built borders) (hne : m.regions ≠ []) {e : Engine σ Colour}
    (he : e.order.Permutes (Puzzle.model m)) :
    ∃ report m' e', Puzzle.solve m e = .ok (report, m', e') ∧
      (report.outcome.isSolved = true ↔ ∃ f, m.Proper borders f) ∧
      (report.outcome.isSolved = true → m'.isProper = true ∧
        ∃ f, m.Proper borders f ∧ (∀ id < m.regions.length, m'.colourOf? id = some (f id)) ∧
          (e.order = .natural → ∀ g, m.Proper borders g →
            (∀ id < m.regions.length, g id = f id) ∨ m.Before f g)) ∧
      (report.outcome.isSolved = false → (∀ id, m'.colourOf? id = none) ∧ m'.isProper = false) := by
  have h := hm.bordered
  obtain ⟨report, e', hsolve, ha⟩ := h.solve_eq_ok hne he
  refine ⟨report, m.apply report, e', hsolve, ?_⟩
  have hpaint {g : Nat → Colour} (hg : m.Proper borders g) : m.Painting (m.paint g) :=
    (h.painting_iff (size_paint m g)).mpr ⟨g, hg, fun id hid => get?_paint g hid⟩
  refine ⟨ha.isSolved_iff.trans ⟨?_, ?_⟩, fun hr => ?_, fun hr => ?_⟩
  · rintro ⟨b, hb⟩
    obtain ⟨f, hf, _⟩ := (h.painting_iff (hb.size_eq.trans h.size_adjacency)).mp hb
    exact ⟨f, hf⟩
  · rintro ⟨g, hg⟩
    exact ⟨m.paint g, hpaint hg⟩
  · obtain ⟨found, ho⟩ := Outcome.isSolved_iff.mp hr
    have hshown : (m.apply report).colouring = found := by
      rw [apply, ho]
      rfl
    have hfound : m.Painting found := ha.solution found ho
    have hs : found.size = m.regions.length := hfound.size_eq.trans h.size_adjacency
    obtain ⟨f, hf, hget⟩ := (h.painting_iff hs).mp hfound
    refine ⟨?_, f, hf, fun id hid => ?_, ?_⟩
    · exact (h.apply report).isProper_of_painting (hshown ▸ hfound)
    · rw [colourOf?, hshown, hget id hid]
    · intro hn g hg
      have hlists : ∀ var memory,
          (e.order.arrange var ((Puzzle.model m).domain var) memory).1 = m.palette := by
        rw [hn]
        exact fun _ _ => rfl
      rcases ha.first (fun _ => m.palette) hlists found ho _ (hpaint hg) with heq | hlt
      · refine .inl fun id hid => Option.some.inj ?_
        rw [← get?_paint g hid, heq, hget id hid]
      · exact .inr (hf.before_of_precedes hg hs hget (fun id hid => get?_paint g hid) hlt)
  · have hshown : (m.apply report).colouring = .blank m.regions.length := by
      rw [apply, Outcome.not_isSolved_iff.mp hr]
      rfl
    refine ⟨fun id => ?_, isProper_blank (m := m.apply report) hne hshown⟩
    rw [colourOf?, hshown, Assignment.get?_blank]

/-- Three regions that border each other need three colours. -/
theorem solve_built_triangle :
    ∃ m two three, ofEdges 3 [(0, 1), (1, 2), (2, 0)] = .ok m ∧ m.withPaletteSize 2 = .ok two ∧
      m.withPaletteSize 3 = .ok three ∧
      (.natural : ValueOrder Unit Colour).Permutes (Puzzle.model two) ∧
      (.natural : ValueOrder Unit Colour).Permutes (Puzzle.model three) ∧
      (∃ report m' e', Puzzle.solve two ⟨.natural, ()⟩ = .ok (report, m', e') ∧
        report.outcome.isSolved = false ∧ m'.isProper = false) ∧
      ∃ report m' e', Puzzle.solve three ⟨.natural, ()⟩ = .ok (report, m', e') ∧
        report.outcome.isSolved = true ∧ m'.isProper = true := by
  have hnatural (m : Map) := ValueOrder.natural_permutes (σ := Unit) (Puzzle.model m)
  obtain ⟨m, hm⟩ : ∃ m, ofEdges 3 [(0, 1), (1, 2), (2, 0)] = .ok m := ⟨_, rfl⟩
  have hbuilt := Built.ofEdges hm
  obtain ⟨two, htwo⟩ : ∃ two, m.withPaletteSize 2 = .ok two := ⟨_, rfl⟩
  obtain ⟨three, hthree⟩ : ∃ three, m.withPaletteSize 3 = .ok three := ⟨_, rfl⟩
  cases hm
  refine ⟨_, two, three, rfl, htwo, hthree, hnatural _, hnatural _, ?_, ?_⟩
  · have hne : two.regions ≠ [] := by
      cases htwo
      exact List.cons_ne_nil _ _
    obtain ⟨report, m', e', hsolve, hiff, _, hnot⟩ :=
      solve_built (e := ⟨.natural, ()⟩) (hbuilt.withPaletteSize htwo) hne (hnatural _)
    have hr : report.outcome.isSolved = false := by
      rw [← Bool.not_eq_true, hiff]
      rintro ⟨f, hf⟩
      have hpalette : ∀ id < 3, f id = .red ∨ f id = .green := by
        intro id hid
        cases htwo
        simpa [palette, Colour.palette, reset] using hf.mem_palette id hid
      have h01 := hf.apart 0 1 (by decide)
      have h12 := hf.apart 1 2 (by decide)
      have h20 := hf.apart 2 0 (by decide)
      grind
    exact ⟨report, m', e', hsolve, hr, (hnot hr).2⟩
  · have hne : three.regions ≠ [] := by
      cases hthree
      exact List.cons_ne_nil _ _
    obtain ⟨report, m', e', hsolve, hiff, hproper, _⟩ :=
      solve_built (e := ⟨.natural, ()⟩) (hbuilt.withPaletteSize hthree) hne (hnatural _)
    have hr : report.outcome.isSolved = true := by
      refine hiff.mpr ⟨fun id => Colour.palette.getD id default, ?_, ?_⟩
      · cases hthree
        decide
      · intro a b hab
        simp only [List.mem_cons, Prod.mk.injEq, List.not_mem_nil, or_false] at hab
        rcases hab with (⟨rfl, rfl⟩ | ⟨rfl, rfl⟩ | ⟨rfl, rfl⟩) |
          (⟨rfl, rfl⟩ | ⟨rfl, rfl⟩ | ⟨rfl, rfl⟩) <;> decide
    exact ⟨report, m', e', hsolve, hr, (hproper hr).1⟩

end Map

end ConstraintSearch.Colouring
