import ConstraintSearch.Proofs.Sudoku.OtherReports

/-! Runs of edits. Each call that goes through moves its cell on by one in a cycle of ten, and a
refused one changes nothing; so it only matters how often each cell was moved. -/
namespace ConstraintSearch.Sudoku.Board
variable {origin b b' : Board} {place other : Nat × Nat}

def content (b : Board) (place : Nat × Nat) : Nat := (b.value? place.1 place.2).getD 0

def display (content : Nat) : Option Nat := if content = 0 then none else some content

/-- A request to edit the cell in some row and column, and what it was answered. -/
structure Call where
  place : Nat × Nat
  answer : Except Failure Nat

namespace Call

/-- The call moved the cell in this row and column on. -/
def moves (call : Call) (row col : Nat) : Bool := call.place == (row, col) && call.answer.isOk

/-- Which calls are refused, and why. -/
structure Answered (b : Board) (call : Call) : Prop where
  outside : call.answer = .error (.cellOutOfBounds call.place.1 call.place.2) ↔
    onGrid call.place.1 call.place.2 = false
  given : call.answer = .error (.fixedCell call.place.1 call.place.2) ↔
    b.isGiven call.place.1 call.place.2 = true
  moved : call.answer.isOk = true ↔
    onGrid call.place.1 call.place.2 = true ∧ b.isGiven call.place.1 call.place.2 = false

end Call

/-- A single edit. If it is refused, the board stays as it is. -/
def editOnce (b : Board) (place : Nat × Nat) : Call × Board :=
  match b.edit place.1 place.2 with
  | .ok next => (⟨place, .ok next.1⟩, next.2)
  | .error failure => (⟨place, .error failure⟩, b)

/-- One edit after the other, refused ones included. -/
def editAll (b : Board) : List (Nat × Nat) → List Call × Board
  | [] => ([], b)
  | place :: places =>
    let rest := (b.editOnce place).2.editAll places
    ((b.editOnce place).1 :: rest.1, rest.2)

/-- What a call is answered on a board that shows digits only. -/
def answer (b : Board) (place : Nat × Nat) : Except Failure Nat :=
  if !onGrid place.1 place.2 then .error (.cellOutOfBounds place.1 place.2)
  else if b.isGiven place.1 place.2 then .error (.fixedCell place.1 place.2)
  else .ok ((b.content place + 1) % 10)

private theorem isGiven_congr (h : b'.givens = b.givens) (row col : Nat) :
    b'.isGiven row col = b.isGiven row col := by
  rw [isGiven, isGiven, isGivenCell, isGivenCell, h]

private theorem cellAt_inj {row col row' col' : Nat} (h : onGrid row col = true)
    (h' : onGrid row' col' = true) :
    cellAt row col = cellAt row' col' ↔ (row, col) = (row', col') := by
  simp only [onGrid, Bool.and_eq_true, decide_eq_true_eq] at h h'
  rw [Prod.mk.injEq, cellAt, cellAt]
  omega

private theorem getD_display (content : Nat) : (display content).getD 0 = content := by
  rw [display]
  split
  · rename_i h
    rw [h, Option.getD_none]
  · rw [Option.getD_some]

private theorem Kept.display_content (h : Kept origin b) (row col : Nat) :
    display (b.content (row, col) % 10) = b.value? row col := by
  rw [content]
  cases hv : b.value? row col with
  | none => rfl
  | some value =>
    have hdigit : value ∈ digits := by
      rw [value?] at hv
      split at hv
      · exact h.isDigit _ _ hv
      · cases hv
    obtain ⟨hpos, hle⟩ := mem_digits.mp hdigit
    rw [Option.getD_some, Nat.mod_eq_of_lt (by omega), display, if_neg (by omega)]

/-- What has become of a board after some calls. Only the cells that were moved have changed. -/
structure After (b : Board) (calls : List Call) (b' : Board) : Prop where
  givens_eq : b'.givens = b.givens
  stats_eq : b'.stats = b.stats
  size_eq : b'.cells.size = b.cells.size
  value?_eq : ∀ row col, onGrid row col = true → b'.value? row col =
    display ((b.content (row, col) + calls.countP (·.moves row col)) % 10)

namespace After
variable {calls calls' : List Call} {b₁ b₂ : Board}

private theorem content_eq (h : After b calls b') {row col : Nat} (hgrid : onGrid row col = true) :
    b'.content (row, col) = (b.content (row, col) + calls.countP (·.moves row col)) % 10 := by
  rw [content, h.value?_eq row col hgrid, getD_display]

private theorem value?_of_unmoved (h : After b calls b') (hb : Kept origin b) {row col : Nat}
    (hnone : calls.countP (·.moves row col) = 0) : b'.value? row col = b.value? row col := by
  by_cases hgrid : onGrid row col = true
  · rw [h.value?_eq row col hgrid, hnone, Nat.add_zero, hb.display_content]
  · rw [value?, value?, if_neg hgrid, if_neg hgrid]

private theorem refused (h : Kept origin b) (hrefused : ∀ call ∈ calls, call.answer.isOk = false) :
    After b calls b := by
  refine ⟨rfl, rfl, rfl, fun row col _ => ?_⟩
  have hnone : calls.countP (·.moves row col) = 0 := by
    refine List.countP_eq_zero.mpr fun call hcall => ?_
    rw [Call.moves, hrefused call hcall, Bool.and_false]
    exact Bool.false_ne_true
  rw [hnone, Nat.add_zero, h.display_content]

theorem trans (h : After b calls b₁) (h' : After b₁ calls' b₂) : After b (calls ++ calls') b₂ := by
  refine ⟨h'.givens_eq.trans h.givens_eq, h'.stats_eq.trans h.stats_eq, h'.size_eq.trans h.size_eq,
    fun row col hgrid => ?_⟩
  rw [h'.value?_eq row col hgrid, h.content_eq hgrid, Nat.mod_add_mod, Nat.add_assoc,
    List.countP_append]

/-- It only matters how often each cell was moved. -/
theorem eq_of_countP (hsize : b.cells.size = cellCount) (h : After b calls b₁)
    (h' : After b calls' b₂) (hcount : ∀ row col,
      calls.countP (·.moves row col) = calls'.countP (·.moves row col)) : b₁ = b₂ := by
  have hcells : b₁.cells = b₂.cells := by
    refine Assignment.ext_get? (h.size_eq.trans h'.size_eq.symm) fun cell hcell => ?_
    rw [h.size_eq, hsize] at hcell
    have hgrid := onGrid_rowOf_colOf hcell
    have hvalue : b₁.value? (rowOf cell) (colOf cell) = b₂.value? (rowOf cell) (colOf cell) := by
      rw [h.value?_eq _ _ hgrid, h'.value?_eq _ _ hgrid, hcount]
    rwa [value?, value?, if_pos hgrid, if_pos hgrid, cellAt_rowOf_colOf] at hvalue
  have hgivens := h.givens_eq.trans h'.givens_eq.symm
  have hstats := h.stats_eq.trans h'.stats_eq.symm
  cases b₁
  cases b₂
  cases hcells
  cases hgivens
  cases hstats
  rfl

end After

private theorem edit_of_outside {row col : Nat} (h : onGrid row col = false) :
    b.edit row col = .error (.cellOutOfBounds row col) := by
  rw [edit, h]
  rfl

private theorem edit_of_given {row col : Nat} (h : b.isGiven row col = true) :
    b.edit row col = .error (.fixedCell row col) := by
  have hgrid : onGrid row col = true := (Bool.and_eq_true_iff.mp h).1
  rw [edit, hgrid, h]
  rfl

private theorem Call.moves_ok (place : Nat × Nat) (content row col : Nat) :
    (⟨place, .ok content⟩ : Call).moves row col = (place == (row, col)) := Bool.and_true _

private theorem Kept.edit_of_open (h : Kept origin b) {row col : Nat}
    (hgrid : onGrid row col = true) (hgiven : b.isGiven row col = false) :
    ∃ b', b.edit row col = .ok ((b.content (row, col) + 1) % 10, b') ∧
      After b [⟨(row, col), .ok ((b.content (row, col) + 1) % 10)⟩] b' := by
  obtain ⟨⟨next, b'⟩, hedit⟩ := h.exists_edit hgrid hgiven
  obtain ⟨_, _, hnext, hgivens, hstats, hsize, hget⟩ := edit_eq_ok hedit
  have hvalue : b.value? row col = b.cells.get? (cellAt row col) := if_pos hgrid
  rw [nextContent_eq (h.isDigit (cellAt row col)), ← hvalue] at hnext
  cases hnext
  refine ⟨b', hedit, hgivens, hstats, hsize, fun row' col' hgrid' => ?_⟩
  rw [List.countP_singleton, Call.moves_ok, value?, if_pos hgrid', hget]
  by_cases hsame : (row, col) = (row', col')
  · obtain ⟨rfl, rfl⟩ := Prod.mk.inj hsame
    rw [if_pos rfl, if_pos (beq_self_eq_true _)]
    rfl
  · have hcell : cellAt row' col' ≠ cellAt row col := fun heq =>
      hsame ((cellAt_inj hgrid hgrid').mp heq.symm)
    rw [if_neg hcell, if_neg (by rwa [beq_iff_eq]), Nat.add_zero, h.display_content, value?,
      if_pos hgrid']

theorem Kept.editOnce (h : Kept origin b) (place : Nat × Nat) :
    (b.editOnce place).1 = ⟨place, b.answer place⟩ ∧ Kept origin (b.editOnce place).2 ∧
      After b [(b.editOnce place).1] (b.editOnce place).2 := by
  have hrefused : ∀ failure, After b [⟨place, .error failure⟩] b := fun _ =>
    .refused h (List.forall_mem_singleton.mpr rfl)
  rw [Board.editOnce, answer]
  cases hgrid : onGrid place.1 place.2 with
  | false =>
    rw [edit_of_outside hgrid]
    exact ⟨rfl, h, hrefused _⟩
  | true =>
    cases hgiven : b.isGiven place.1 place.2 with
    | true =>
      rw [edit_of_given hgiven]
      exact ⟨rfl, h, hrefused _⟩
    | false =>
      obtain ⟨b', hedit, hafter⟩ := h.edit_of_open hgrid hgiven
      rw [hedit]
      exact ⟨rfl, h.edits ⟨place.1, place.2, .inl ⟨_, hedit⟩⟩, hafter⟩

theorem Kept.editAll (h : Kept origin b) (places : List (Nat × Nat)) :
    Kept origin (b.editAll places).2 ∧ After b (b.editAll places).1 (b.editAll places).2 := by
  induction places generalizing b with
  | nil => exact ⟨h, .refused h (List.forall_mem_nil _)⟩
  | cons place places ih =>
    obtain ⟨_, hnext, hfirst⟩ := h.editOnce place
    obtain ⟨hlast, hrest⟩ := ih hnext
    exact ⟨hlast, hfirst.trans hrest⟩

private theorem place_editOnce (b : Board) (place : Nat × Nat) :
    (b.editOnce place).1.place = place := by
  rw [editOnce]
  split <;> rfl

private theorem map_place_editAll (b : Board) (places : List (Nat × Nat)) :
    (b.editAll places).1.map Call.place = places := by
  induction places generalizing b with
  | nil => rfl
  | cons place places ih => exact congrArg₂ List.cons (b.place_editOnce place) (ih _)

private theorem answered_answer (b : Board) (place : Nat × Nat) :
    (⟨place, b.answer place⟩ : Call).Answered b := by
  cases hgrid : onGrid place.1 place.2 with
  | false =>
    have hgiven : b.isGiven place.1 place.2 = false := by rw [isGiven, hgrid, Bool.false_and]
    have hanswer : b.answer place = .error (.cellOutOfBounds place.1 place.2) := by
      rw [answer, hgrid]
      rfl
    constructor <;> simp [hanswer, hgrid, hgiven, Except.isOk, Except.toBool]
  | true =>
    cases hgiven : b.isGiven place.1 place.2 <;>
      constructor <;> simp [answer, hgrid, hgiven, Except.isOk, Except.toBool]

private theorem Call.Answered.congr {call : Call} (h : call.Answered b')
    (hg : b'.givens = b.givens) : call.Answered b := by
  obtain ⟨houtside, hgiven, hmoved⟩ := h
  rw [isGiven_congr hg] at hgiven hmoved
  exact ⟨houtside, hgiven, hmoved⟩

private theorem Kept.answered (h : Kept origin b) (places : List (Nat × Nat)) :
    ∀ call ∈ (b.editAll places).1, call.Answered b := by
  induction places generalizing b with
  | nil => exact List.forall_mem_nil _
  | cons place places ih =>
    obtain ⟨hcall, hnext, hfirst⟩ := h.editOnce place
    refine List.forall_mem_cons.mpr ⟨hcall ▸ b.answered_answer place, fun call hmem => ?_⟩
    exact (ih hnext call hmem).congr hfirst.givens_eq

private theorem Kept.countP_moves (h : Kept origin b) (places : List (Nat × Nat)) (row col : Nat) :
    (b.editAll places).1.countP (·.moves row col) = places.countP fun place =>
      place == (row, col) && (onGrid row col && !b.isGiven row col) := by
  rw [← b.map_place_editAll places, List.countP_map, b.map_place_editAll places]
  refine List.countP_congr fun call hcall => ?_
  have hmoved := (h.answered places call hcall).moved
  simp only [Call.moves, Function.comp_apply, Bool.and_eq_true, beq_iff_eq, Bool.not_eq_true']
  refine and_congr_right fun hplace => ?_
  rw [hmoved, hplace]

private theorem board_editOnce (h : (b.editOnce place).1.answer.isOk = false) :
    (b.editOnce place).2 = b := by
  rw [editOnce] at h ⊢
  cases hedit : b.edit place.1 place.2 with
  | ok next =>
    rw [hedit] at h
    cases h
  | error failure => rfl

private theorem editAll_filter (b : Board) (places : List (Nat × Nat)) :
    b.editAll (((b.editAll places).1.filter (·.answer.isOk)).map Call.place) =
      ((b.editAll places).1.filter (·.answer.isOk), (b.editAll places).2) := by
  induction places generalizing b with
  | nil => rfl
  | cons place places ih =>
    rw [editAll, List.filter_cons]
    have hrest := ih (b.editOnce place).2
    cases hok : (b.editOnce place).1.answer.isOk with
    | false =>
      rw [board_editOnce hok] at hrest ⊢
      exact hrest
    | true =>
      rw [if_pos rfl, List.map_cons, place_editOnce, editAll, hrest]

private theorem answer_of_isOk (h : (b.answer place).isOk = true) :
    b.answer place = .ok ((b.content place + 1) % 10) := by
  rw [answer] at h ⊢
  split at h
  · cases h
  · split at h
    · cases h
    · rename_i houtside hgiven
      rw [if_neg houtside, if_neg hgiven]

private theorem Kept.answer_of_moves (h : Kept origin b) {row col : Nat}
    (hmoves : (b.editOnce place).1.moves row col = true) :
    (b.editOnce place).1.answer = .ok ((b.editOnce place).2.content (row, col)) := by
  obtain ⟨hcall, _, hafter⟩ := h.editOnce place
  obtain ⟨hplace, hok⟩ := Bool.and_eq_true_iff.mp hmoves
  rw [hcall] at hok hplace
  obtain rfl := beq_iff_eq.mp hplace
  have hgrid := ((b.answered_answer (row, col)).moved.mp hok).1
  have hcontent := hafter.content_eq hgrid
  rw [List.countP_singleton, if_pos hmoves] at hcontent
  rw [hcontent, hcall, answer_of_isOk hok]

private theorem Kept.answer_of_getLast? (h : Kept origin b) {places : List (Nat × Nat)}
    {row col : Nat} {call : Call}
    (hlast : ((b.editAll places).1.filter (·.moves row col)).getLast? = some call) :
    call.answer = .ok ((b.editAll places).2.content (row, col)) := by
  induction places generalizing b with
  | nil => cases hlast
  | cons place places ih =>
    obtain ⟨_, hnext, _⟩ := h.editOnce place
    rw [Board.editAll, List.filter_cons] at hlast
    cases hmoves : (b.editOnce place).1.moves row col with
    | false =>
      rw [hmoves] at hlast
      exact ih hnext hlast
    | true =>
      rw [hmoves, if_pos rfl, List.getLast?_cons] at hlast
      cases hlater : (((b.editOnce place).2.editAll places).1.filter (·.moves row col)).getLast? with
      | some later =>
        rw [hlater] at hlast
        cases hlast
        exact ih hnext hlater
      | none =>
        rw [hlater] at hlast
        cases hlast
        have hnone : ((b.editOnce place).2.editAll places).1.countP (·.moves row col) = 0 := by
          rw [List.countP_eq_length_filter, List.getLast?_eq_none_iff.mp hlater, List.length_nil]
        rw [Option.getD_none, h.answer_of_moves hmoves, Board.editAll, content, content,
          (hnext.editAll places).2.value?_of_unmoved hnext hnone]

private theorem Kept.answer_editOnce (h : Kept origin b) (hne : place ≠ other) :
    (b.editOnce place).2.answer other = b.answer other := by
  obtain ⟨hcall, _, hafter⟩ := h.editOnce place
  rw [answer, answer, isGiven_congr hafter.givens_eq]
  cases hgrid : onGrid other.1 other.2 with
  | false => rfl
  | true =>
    have hstays : (b.editOnce place).1.moves other.1 other.2 = false := by
      rw [Call.moves, place_editOnce, beq_eq_false_iff_ne.mpr hne, Bool.false_and]
    have hcontent : (b.editOnce place).2.content other = b.content other % 10 :=
      (hafter.content_eq hgrid).trans (by rw [List.countP_singleton, hstays]; rfl)
    rw [hcontent, Nat.mod_add_mod]

/-- The order of the calls does not matter to the board. -/
theorem Kept.editAll_perm (h : Kept origin b) {places others : List (Nat × Nat)}
    (hp : others.Perm places) : (b.editAll others).2 = (b.editAll places).2 := by
  refine (h.editAll others).2.eq_of_countP h.size_eq (h.editAll places).2 fun row col => ?_
  rw [h.countP_moves, h.countP_moves, hp.countP_eq]

private theorem Kept.editAll_pair (h : Kept origin b) (hne : place ≠ other) :
    (b.editAll [place, other]).1 = [⟨place, b.answer place⟩, ⟨other, b.answer other⟩] := by
  obtain ⟨hfirst, hnext, _⟩ := h.editOnce place
  obtain ⟨hsecond, _⟩ := hnext.editOnce other
  rw [h.answer_editOnce hne] at hsecond
  rw [Board.editAll, Board.editAll, Board.editAll, hfirst, hsecond]

/-- Editing any cells one after the other. A call is refused exactly if its place is not on the grid
or else a given; refused calls might as well not have been made. A cell goes on by one with each
call that was not refused, from nine to an empty cell, and the last of these calls was answered what
it holds then; the counters, the mask and all other cells stay as they were. So the order of the
calls does not matter to the board, and that of two calls on different cells not to their answers
either. -/
theorem edits_count (hnew : origin.New) {past : List Board}
    (h : Puzzle.History Edits origin past b) (places : List (Nat × Nat)) :
    let calls := (b.editAll places).1
    let last := (b.editAll places).2
    (calls.map Call.place = places ∧ ∀ call ∈ calls, call.Answered b) ∧
      b.editAll ((calls.filter (·.answer.isOk)).map Call.place) =
        (calls.filter (·.answer.isOk), last) ∧
      (∀ row col, onGrid row col = true →
        let next := ((b.value? row col).getD 0 + calls.countP (·.moves row col)) % 10
        last.value? row col = display next ∧ ∀ call,
          (calls.filter (·.moves row col)).getLast? = some call → call.answer = .ok next) ∧
      (last.stats = b.stats ∧ last.givens = b.givens ∧ last.cells.size = b.cells.size) ∧
      (∀ row col, calls.countP (·.moves row col) = 0 → last.value? row col = b.value? row col) ∧
      (∀ others, others.Perm places → (b.editAll others).2 = last) ∧
      ∀ place other, place ≠ other → ∃ first second both,
        b.editAll [place, other] = ([first, second], both) ∧
        b.editAll [other, place] = ([second, first], both) := by
  obtain ⟨g, hb⟩ := hnew.exists_grid
  have hk := Kept.of_history hb h
  have hafter := (hk.editAll places).2
  refine ⟨⟨b.map_place_editAll places, hk.answered places⟩, b.editAll_filter places,
    fun row col hgrid => ⟨hafter.value?_eq row col hgrid, fun call hlast => ?_⟩,
    ⟨hafter.stats_eq, hafter.givens_eq, hafter.size_eq⟩,
    fun row col => hafter.value?_of_unmoved hk, fun others => hk.editAll_perm,
    fun place other hne => ?_⟩
  · exact (hk.answer_of_getLast? hlast).trans (congrArg Except.ok (hafter.content_eq hgrid))
  · have hboth : (b.editAll [other, place]).2 = (b.editAll [place, other]).2 :=
      hk.editAll_perm (List.Perm.swap ..)
    exact ⟨_, _, _, Prod.ext (hk.editAll_pair hne) rfl, Prod.ext (hk.editAll_pair hne.symm) hboth⟩

/-- The classic puzzle after an edit, a search in random order and a reset. Of six calls on it one
is on a given, and one in a tenth column, which would be the first cell of the next row. -/
theorem edits_count_of_classic : ∃ origin past b, ofGrid .classic = .ok origin ∧ origin.New ∧
    Puzzle.History Edits origin past b ∧ past.length = 3 ∧
    let places := [(0, 2), (0, 0), (0, 2), (0, 9), (1, 1), (0, 2)]
    (∀ call ∈ (b.editAll places).1, call.place = (0, 9) →
      call.answer = .error (.cellOutOfBounds 0 9)) ∧
    (b.editAll places).2.value? 0 2 = some 3 ∧ (b.editAll places).2.stats = b.stats ∧
    (b.editAll [(1, 1), (0, 2), (0, 0), (0, 2), (0, 9), (0, 2)]).2 = (b.editAll places).2 := by
  obtain ⟨origin, hb⟩ := exists_ofGrid_iff.mpr
    (by decide : ∀ cell < cellCount, Grid.classic.get cell ≤ 9)
  have h0 : Puzzle.History Edits origin [] origin := .start
  have hopen : origin.isGiven 0 2 = false := by rw [isGiven_ofGrid hb rfl]; decide
  obtain ⟨⟨_, b1⟩, h1⟩ := (kept_ofGrid hb).exists_edit rfl hopen
  have h1 := h0.edit ⟨0, 2, .inl ⟨_, h1⟩⟩
  obtain ⟨random, hrandom⟩ : ∃ e : Engine Chance.Generator Nat, e.order.Permutes model :=
    ⟨⟨.shuffled, .ofSeed 42⟩, ValueOrder.shuffled_permutes model⟩
  obtain ⟨⟨_, b2, _⟩, h2⟩ := (Kept.of_history hb h1).exists_solve hb hrandom
  have h2 := h1.solve hrandom h2
  obtain ⟨b, hcells, hreset⟩ : ∃ b, b.cells = origin.cells ∧ b2.reset = .ok b :=
    ⟨_, rfl, (Kept.of_history hb h2).reset_eq hb⟩
  have h3 := h2.reset hreset
  have hk := Kept.of_history hb h3
  have hempty : b.value? 0 2 = none := by
    rw [value?, if_pos (by rfl), hcells]
    exact get?_of_not_isGivenCell hb hopen
  let places := [(0, 2), (0, 0), (0, 2), (0, 9), (1, 1), (0, 2)]
  have hthree : (b.editAll places).1.countP (·.moves 0 2) = 3 := by
    rw [hk.countP_moves, isGiven_congr hk.givens_eq, hopen]
    decide
  obtain ⟨⟨_, hanswered⟩, _, hnext, ⟨hstats, _⟩, _, hperm, _⟩ :=
    edits_count (.ofGrid hb) h3 places
  refine ⟨origin, _, b, hb, .ofGrid hb, h3, rfl, fun call hcall hplace => ?_, ?_, hstats, ?_⟩
  · have houtside := (hanswered call hcall).outside
    rw [hplace] at houtside
    exact houtside.mpr rfl
  · have hshown := (hnext 0 2 rfl).1
    rw [hempty, hthree] at hshown
    exact hshown
  · exact hperm _ (by decide)

end ConstraintSearch.Sudoku.Board
