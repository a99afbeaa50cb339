import ConstraintSearch.Proofs.Sudoku.Encoding
import Mathlib.Algebra.Order.BigOperators.Group.List
import Mathlib.Algebra.Order.Group.Nat

/-! Grids as texts and back. Of a text only the characters that are no separators matter, and these
are read as the cells row by row. A rendered grid holds one mark for each cell, unless a cell holds
more than a digit. -/
namespace ConstraintSearch.Sudoku.Grid

/-- The characters that are left of a text without the separators. -/
def marks (text : String) : List Char := text.toList.filter fun c => !isSeparator c

def IsMark (c : Char) : Prop := c = '.' ∨ c.isDigit = true

instance : DecidablePred IsMark := fun c => inferInstanceAs (Decidable (c = '.' ∨ c.isDigit = true))

/-- The content of a cell that a mark stands for. A dot is an empty cell. -/
def content (c : Char) : Nat := if c = '.' then 0 else c.toNat - '0'.toNat

/-- What makes a text that of a grid: as many marks as there are cells, row by row, and no other
characters but separators. -/
structure Shows (text : String) (g : Grid) : Prop where
  length_eq : (marks text).length = cellCount
  isMark : ∀ c ∈ marks text, IsMark c
  content_eq : ∀ row < 9, ∀ col < 9,
    (marks text)[9 * row + col]?.map content = some (g.get (cellAt row col))

/-- What is wrong with a text that is that of no grid. The number of cells only matters when there
are no other characters, and of these the first is named. -/
inductive Flawed (text : String) : GridFlaw → Prop
  | strayCharacter (before after : List Char) {c : Char} (h : marks text = before ++ c :: after)
      (hbefore : ∀ d ∈ before, IsMark d) (hc : ¬IsMark c) : Flawed text (.strayCharacter c)
  | cellCount (h : ∀ c ∈ marks text, IsMark c) (hlength : (marks text).length ≠ cellCount) :
      Flawed text (.cellCount (marks text).length)

section
variable {text : String} {g : Grid} {c : Char}

private theorem contentOf?_eq_some (h : IsMark c) : contentOf? c = some (content c) := by
  rw [contentOf?, content]
  split
  · rfl
  · rename_i hdot
    rw [if_pos (h.resolve_left hdot)]

private theorem isNone_contentOf? : (contentOf? c).isNone = true ↔ ¬IsMark c := by
  by_cases h : IsMark c
  · rw [contentOf?_eq_some h]
    exact iff_of_false Bool.false_ne_true (not_not_intro h)
  · refine iff_of_true ?_ h
    rw [IsMark, not_or] at h
    rw [contentOf?, if_neg h.1, if_neg h.2, Option.isNone_none]

private theorem content_le (h : IsMark c) : content c ≤ 9 := by
  rw [content]
  split
  · exact Nat.zero_le 9
  · rename_i hdot
    exact Nat.sub_le_of_le_add (Char.isDigit_iff_toNat.mp (h.resolve_left hdot)).2

private theorem isSeparator_eq_false (h : IsMark c) : isSeparator c = false := by
  obtain rfl | hdigit := h
  · decide
  · obtain ⟨hzero, hnine⟩ := Char.isDigit_iff_toNat.mp hdigit
    have hall : ∀ value < 10, isSeparator (Char.ofNat ('0'.toNat + value)) = false := by decide
    obtain ⟨value, hvalue⟩ := Nat.exists_eq_add_of_le hzero
    rw [hvalue] at hnine
    rw [← Char.ofNat_toNat c, hvalue]
    exact hall value (Nat.lt_of_add_lt_add_left (Nat.lt_succ_of_le hnine))

private theorem ofCells?_eq_some_iff {cells : List Nat} :
    ofCells? cells = some g ↔ (List.range cellCount).map g.get = cells := by
  have hcells : (List.range cellCount).map g.get = g.cells.toList := by
    refine List.ext_getElem (by simp [cellCount]) fun cell hcell _ => ?_
    rw [List.length_map, List.length_range] at hcell
    rw [List.getElem_map, List.getElem_range, get_of_lt g hcell]
    exact (Vector.getElem_toList ..).symm
  rw [hcells, ofCells?]
  split
  · rename_i hlength
    rw [Option.some.injEq]
    constructor
    · rintro rfl
      rfl
    · rintro rfl
      rfl
  · rename_i hlength
    refine iff_of_false (by simp) ?_
    rintro rfl
    exact hlength g.cells.length_toList

/-- The text of a grid has its cells in order, and so their number. -/
theorem shows_iff : Shows text g ↔ (∀ c ∈ marks text, IsMark c) ∧
    (List.range cellCount).map g.get = (marks text).map content := by
  constructor
  · intro h
    refine ⟨h.isMark, List.ext_getElem? fun cell => ?_⟩
    rw [List.getElem?_map, List.getElem?_map]
    rcases Nat.lt_or_ge cell cellCount with hlt | hge
    · have hcell := h.content_eq (cell / 9) (by rw [cellCount] at hlt; omega) (cell % 9) (by omega)
      rw [cellAt, Nat.div_add_mod, Nat.div_add_mod'] at hcell
      rw [hcell, List.getElem?_range hlt, Option.map_some]
    · rw [List.getElem?_eq_none (by rwa [List.length_range]),
        List.getElem?_eq_none (by rwa [h.length_eq])]
      rfl
  · rintro ⟨hmark, heq⟩
    have hlength := congrArg List.length heq
    rw [List.length_map, List.length_map, List.length_range] at hlength
    refine ⟨hlength.symm, hmark, fun row hrow col hcol => ?_⟩
    have hlt : 9 * row + col < cellCount := by rw [cellCount]; omega
    rw [← List.getElem?_map, ← heq, List.getElem?_map, List.getElem?_range hlt, cellAt,
      Nat.mul_comm 9]
    rfl

/-- The first character of a text that is no separator and stands for no cell, if any. -/
def stray? (text : String) : Option Char := (marks text).find? fun c => (contentOf? c).isNone

private theorem stray?_eq_none_iff : stray? text = none ↔ ∀ c ∈ marks text, IsMark c := by
  simp only [stray?, List.find?_eq_none, isNone_contentOf?, not_not]

private theorem stray?_eq_some_iff : stray? text = some c ↔
    ¬IsMark c ∧ ∃ before after, marks text = before ++ c :: after ∧ ∀ d ∈ before, IsMark d := by
  simp only [stray?, List.find?_eq_some_iff_append, isNone_contentOf?, Bool.not_eq_true',
    Bool.eq_false_iff, ne_eq, not_not]

private theorem filterMap_contentOf? (h : ∀ c ∈ marks text, IsMark c) :
    (marks text).filterMap contentOf? = (marks text).map content := by
  rw [List.filterMap_congr fun c hc => contentOf?_eq_some (h c hc), List.filterMap_eq_map']

theorem parse_of_shows (h : Shows text g) : parse text = .ok g := by
  obtain ⟨hmark, hcells⟩ := shows_iff.mp h
  have hstray := stray?_eq_none_iff.mpr hmark
  have hread : ofCells? ((marks text).filterMap contentOf?) = some g :=
    ofCells?_eq_some_iff.mpr (hcells.trans (filterMap_contentOf? hmark).symm)
  rw [stray?, marks] at hstray
  rw [marks] at hread
  simp only [parse, hstray, hread]

theorem parse_of_flawed {flaw : GridFlaw} (h : Flawed text flaw) :
    parse text = .error (.invalidGrid flaw) := by
  cases h with
  | strayCharacter before after hmarks hbefore hc =>
    have hstray := stray?_eq_some_iff.mpr ⟨hc, before, after, hmarks, hbefore⟩
    rw [stray?, marks] at hstray
    simp only [parse, hstray]
  | cellCount hmark hlength =>
    have hstray := stray?_eq_none_iff.mpr hmark
    have hread : ofCells? ((marks text).filterMap contentOf?) = none := by
      rw [filterMap_contentOf? hmark, ofCells?, dif_neg (by rwa [List.length_map])]
    rw [stray?, marks] at hstray
    rw [marks] at hread
    simp only [parse, marks, hstray, hread]

private theorem exists_shows (hlength : (marks text).length = cellCount)
    (hmark : ∀ c ∈ marks text, IsMark c) : ∃ g, Shows text g := by
  obtain ⟨g, hcells⟩ : ∃ g, ofCells? ((marks text).map content) = some g :=
    ⟨_, dif_pos (by rwa [List.length_map])⟩
  exact ⟨g, shows_iff.mpr ⟨hmark, ofCells?_eq_some_iff.mp hcells⟩⟩

theorem shows_or_flawed (text : String) : (∃ g, Shows text g) ∨ ∃ flaw, Flawed text flaw := by
  cases hstray : stray? text with
  | some c =>
    obtain ⟨hc, before, after, hmarks, hbefore⟩ := stray?_eq_some_iff.mp hstray
    exact .inr ⟨_, .strayCharacter before after hmarks hbefore hc⟩
  | none =>
    have hmark := stray?_eq_none_iff.mp hstray
    by_cases hlength : (marks text).length = cellCount
    · exact .inl (exists_shows hlength hmark)
    · exact .inr ⟨_, .cellCount hmark hlength⟩

theorem parse_eq_ok_iff : parse text = .ok g ↔ Shows text g := by
  refine ⟨fun h => ?_, parse_of_shows⟩
  obtain ⟨g', hshows⟩ | ⟨flaw, hflawed⟩ := shows_or_flawed text
  · cases h.symm.trans (parse_of_shows hshows)
    exact hshows
  · cases h.symm.trans (parse_of_flawed hflawed)

theorem parse_eq_error_iff {failure : Failure} :
    parse text = .error failure ↔ ∃ flaw, Flawed text flaw ∧ failure = .invalidGrid flaw := by
  constructor
  · intro h
    obtain ⟨g, hshows⟩ | ⟨flaw, hflawed⟩ := shows_or_flawed text
    · cases h.symm.trans (parse_of_shows hshows)
    · exact ⟨flaw, hflawed, Except.error.inj (h.symm.trans (parse_of_flawed hflawed))⟩
  · rintro ⟨flaw, hflawed, rfl⟩
    exact parse_of_flawed hflawed

end

private theorem isMark_of_mem_cellText {value : Nat} {c : Char} (h : c ∈ cellText value) :
    IsMark c := by
  rw [cellText] at h
  split at h
  · exact .inl (List.mem_singleton.mp h)
  · exact .inr (Nat.isDigit_of_mem_toDigits (by decide) (by decide) h)

private theorem filter_cellText (value : Nat) :
    (cellText value).filter (fun c => !isSeparator c) = cellText value := by
  refine List.filter_eq_self.mpr fun c hc => ?_
  rw [isSeparator_eq_false (isMark_of_mem_cellText hc), Bool.not_false]

private theorem filter_gapBefore (col : Nat) :
    (gapBefore col).filter (fun c => !isSeparator c) = [] := by
  rw [gapBefore]
  split
  · rfl
  · split <;> decide

private theorem filter_ruleBefore (row : Nat) :
    (ruleBefore row).filter (fun c => !isSeparator c) = [] := by
  rw [ruleBefore]
  split
  · decide +kernel
  · rfl

private theorem filter_rowText (values : List Nat) :
    (rowText values).filter (fun c => !isSeparator c) = values.flatMap cellText := by
  calc (rowText values).filter (fun c => !isSeparator c)
      = values.zipIdx.flatMap (fun pair => cellText pair.1) := by
        simp only [rowText, List.filter_append, List.filter_flatMap, filter_gapBefore,
          filter_cellText, List.nil_append]
        exact List.append_nil _
    _ = (values.zipIdx.map Prod.fst).flatMap cellText := (List.flatMap_map ..).symm
    _ = values.flatMap cellText := by rw [List.zipIdx_map_fst]

theorem marks_render (g : Grid) :
    marks g.render = (List.range cellCount).flatMap fun cell => cellText (g.get cell) := by
  have hcells : (List.range 9).flatMap rowCells = List.range cellCount := by decide
  calc marks g.render
      = g.rows.zipIdx.flatMap (fun pair => pair.1.flatMap cellText) := by
        simp only [marks, render, String.toList_ofList, List.filter_flatMap, List.filter_append,
          filter_ruleBefore, filter_rowText, List.nil_append]
    _ = (g.rows.zipIdx.map Prod.fst).flatMap fun row => row.flatMap cellText :=
        (List.flatMap_map ..).symm
    _ = (List.range 9).flatMap fun row =>
          (rowCells row).flatMap fun cell => cellText (g.get cell) := by
        simp only [List.zipIdx_map_fst, rows, List.flatMap_map]
    _ = (List.range cellCount).flatMap fun cell => cellText (g.get cell) := by
        rw [← hcells, List.flatMap_assoc]

private theorem isMark_of_mem_marks_render {g : Grid} {c : Char} (h : c ∈ marks g.render) :
    IsMark c := by
  rw [marks_render] at h
  obtain ⟨_, _, hc⟩ := List.mem_flatMap.mp h
  exact isMark_of_mem_cellText hc

/-- A grid without large cells is rendered with one mark for each cell. -/
theorem shows_render {g : Grid} (h : ∀ cell < cellCount, g.get cell ≤ 9) : Shows g.render g := by
  have hmark : ∀ value ≤ 9, (cellText value).map content = [value] := by decide
  refine shows_iff.mpr ⟨fun c => isMark_of_mem_marks_render, ?_⟩
  calc (List.range cellCount).map g.get
      = (List.range cellCount).flatMap fun cell => [g.get cell] := List.map_eq_flatMap ..
    _ = (List.range cellCount).flatMap fun cell => (cellText (g.get cell)).map content :=
        List.flatMap_congr fun cell hcell => (hmark _ (h cell (List.mem_range.mp hcell))).symm
    _ = (marks g.render).map content := by rw [marks_render, List.map_flatMap]

private theorem lt_length_marks_render {g : Grid} (h : ∃ cell < cellCount, 9 < g.get cell) :
    cellCount < (marks g.render).length := by
  have hone : ∀ value, 1 ≤ (cellText value).length := by
    intro value
    rw [cellText]
    split
    · exact Nat.le_refl 1
    · exact Nat.length_toDigits_pos
  obtain ⟨cell, hcell, hlarge⟩ := h
  have htwo : 1 < (cellText (g.get cell)).length := by
    rw [cellText, if_neg (by omega), ← Nat.not_le,
      Nat.length_toDigits_le_iff (by decide) (by decide)]
    omega
  calc cellCount
      = ((List.range cellCount).map fun _ => 1).sum := by decide
    _ < ((List.range cellCount).map fun cell => (cellText (g.get cell)).length).sum :=
        List.sum_lt_sum _ _ (fun _ _ => hone _) ⟨cell, List.mem_range.mpr hcell, htwo⟩
    _ = (marks g.render).length := by rw [marks_render, List.length_flatMap]

private theorem get_le_of_shows {text : String} {g : Grid} (h : Shows text g) {cell : Nat}
    (hcell : cell < cellCount) : g.get cell ≤ 9 := by
  obtain ⟨hmark, hcells⟩ := shows_iff.mp h
  have hmem : g.get cell ∈ (List.range cellCount).map g.get :=
    List.mem_map_of_mem (List.mem_range.mpr hcell)
  rw [hcells] at hmem
  obtain ⟨c, hc, heq⟩ := List.mem_map.mp hmem
  exact heq ▸ content_le (hmark c hc)

/-- A text is read exactly if each of its marks is a dot or a digit and there are as many as cells,
and then they are the cells row by row; of any other text it is told what is wrong. A rendered grid
is read back as it was, unless some cell holds more than a digit, when there are too many cells. So a
text that is read can be replaced by the rendered grid. -/
theorem parse_and_render :
    (∀ text, (∃ g, parse text = .ok g) ↔
      (marks text).length = cellCount ∧ ∀ c ∈ marks text, IsMark c) ∧
    (∀ text g, parse text = .ok g ↔ Shows text g) ∧
    (∀ text failure, parse text = .error failure ↔
      ∃ flaw, Flawed text flaw ∧ failure = .invalidGrid flaw) ∧
    (∀ g : Grid, (∀ cell < cellCount, g.get cell ≤ 9) → parse g.render = .ok g) ∧
    (∀ g : Grid, (∃ cell < cellCount, 9 < g.get cell) → ∃ count, cellCount < count ∧
      parse g.render = .error (.invalidGrid (.cellCount count))) ∧
    ∀ text g, parse text = .ok g → parse g.render = .ok g := by
  refine ⟨fun text => ?_, fun _ _ => parse_eq_ok_iff, fun _ _ => parse_eq_error_iff,
    fun g h => parse_of_shows (shows_render h), fun g h => ?_, fun text g h => ?_⟩
  · constructor
    · rintro ⟨g, h⟩
      have hshows := parse_eq_ok_iff.mp h
      exact ⟨hshows.length_eq, hshows.isMark⟩
    · rintro ⟨hlength, hmark⟩
      obtain ⟨g, hshows⟩ := exists_shows hlength hmark
      exact ⟨g, parse_of_shows hshows⟩
  · have hlt := lt_length_marks_render h
    refine ⟨_, hlt, parse_of_flawed (.cellCount (fun c => isMark_of_mem_marks_render) ?_)⟩
    exact Nat.ne_of_gt hlt
  · have hshows := parse_eq_ok_iff.mp h
    exact parse_of_shows (shows_render fun cell => get_le_of_shows hshows)

/-- The classic puzzle is read back; the largest content of a cell is not; and a text that holds an
ideographic space and too few cells is refused for the first of two letters. -/
theorem parse_and_render_of_classic :
    (∀ cell < cellCount, Grid.classic.get cell ≤ 9) ∧ parse Grid.classic.render = .ok .classic ∧
    (∃ (g : Grid) (count : Nat), g.get 40 = 255 ∧ cellCount < count ∧
      parse g.render = .error (.invalidGrid (.cellCount count))) ∧
    parse "5|\u3000.+é-x7" = .error (.invalidGrid (.strayCharacter 'é')) := by
  obtain ⟨_, _, hrefused, hread, hlarge, _⟩ := parse_and_render
  have hclassic : ∀ cell < cellCount, Grid.classic.get cell ≤ 9 := by decide
  obtain ⟨bytes, hbytes⟩ : ∃ g : Grid, g.get 40 = 255 :=
    ⟨⟨Grid.empty.cells.set 40 255⟩, by decide⟩
  obtain ⟨count, hcount, herror⟩ := hlarge bytes ⟨40, by decide, by rw [hbytes]; decide⟩
  have hflawed : Flawed "5|\u3000.+é-x7" (.strayCharacter 'é') :=
    .strayCharacter ['5', '.'] ['x', '7'] (by decide +kernel) (by simp [IsMark]) (by decide)
  exact ⟨hclassic, hread _ hclassic, ⟨bytes, count, hbytes, hcount, herror⟩,
    (hrefused _ _).mpr ⟨_, hflawed, rfl⟩⟩

end ConstraintSearch.Sudoku.Grid
