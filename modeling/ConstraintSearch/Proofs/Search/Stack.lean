import ConstraintSearch.Proofs.Search.OpenVariables
import ConstraintSearch.Proofs.Search.Transition
import ConstraintSearch.Queens.Model

/-! The stack of a search. Its frames stand on the first open variables, one after the other, and
the assignment is what the givens and the values of the frames make it. Every step keeps it so. -/
namespace ConstraintSearch
variable {σ V : Type}

namespace Frame

/-- The variable of the frame is assigned the value that the frame tried last. -/
def Held (a : Assignment V) (f : Frame V) : Prop :=
  ∃ value earlier, f.tried = value :: earlier ∧ a.get? f.var = some value

theorem Held.assign {a : Assignment V} {f : Frame V} (h : f.Held a) {var : Nat}
    (hnone : a.get? var = none) (value : V) : f.Held (a.assign var value) := by
  obtain ⟨last, earlier, htried, hget⟩ := h
  have hne : f.var ≠ var := by
    intro he
    rw [he, hnone] at hget
    cases hget
  exact ⟨last, earlier, htried, (a.get?_assign_of_ne hne value).trans hget⟩

theorem Held.get?_eq {a : Assignment V} {f : Frame V} (h : f.Held a) :
    a.get? f.var = f.tried.head? := by
  obtain ⟨last, earlier, htried, hget⟩ := h
  rw [hget, htried, List.head?_cons]

/-- The values tried and those ahead are together an answer of the value order. -/
def Arranged (m : Model V) (o : ValueOrder σ V) (f : Frame V) : Prop :=
  ∃ memory, f.tried.reverse ++ f.ahead = (o.arrange f.var (m.domain f.var) memory).1

private theorem Arranged.next {m : Model V} {o : ValueOrder σ V} {var : Nat} {tried ahead : List V}
    {value : V} (h : Arranged m o ⟨var, tried, value :: ahead⟩) :
    Arranged m o ⟨var, value :: tried, ahead⟩ := by
  obtain ⟨memory, he⟩ := h
  refine ⟨memory, ?_⟩
  rw [← he, List.reverse_cons, List.append_assoc, List.singleton_append]

end Frame

/-- An event tells how one assignment became another. Values are given and taken back where there
is a slot for them: an empty one to give a value, a filled one to take it back. -/
def Event.Applies (a next : Assignment V) : Event V → Prop
  | .assigned var value => a.exchange var (some value) = .ok (none, next)
  | .backtracked var => ∃ value, a.exchange var none = .ok (some value, next)
  | .rejected _ _ => next = a
  | .finished _ => next = a

namespace Search

/-- The assignment comes from the givens by the values of the frames. Each frame stands on the
lowest variable that the frames before it left open, and the value that it tried last passed the
check there. -/
inductive Grounded (m : Model V) (o : ValueOrder σ V) (givens : Assignment V) :
    Assignment V → List (Frame V) → Prop where
  | base : Grounded m o givens givens []
  | push {a : Assignment V} {below : List (Frame V)} {var : Nat} {rest : List Nat} {value : V}
      {tried ahead : List V} (h : Grounded m o givens a below)
      (ho : openVariables m a = var :: rest) (ha : Frame.Arranged m o ⟨var, value :: tried, ahead⟩)
      (hc : m.consistent a var value = true) :
      Grounded m o givens (a.assign var value) (⟨var, value :: tried, ahead⟩ :: below)

/-- The states of a search over some givens. While it runs, the deepest frame stands on the lowest
variable that the others left open; once it has failed, the givens are all that is left. -/
inductive Stacked (m : Model V) (o : ValueOrder σ V) (givens : Assignment V) :
    Search σ V → Prop where
  | running {a : Assignment V} {top : Frame V} {below : List (Frame V)} {rest : List Nat}
      {stats : Stats} {memory : σ} (h : Grounded m o givens a below)
      (ho : openVariables m a = top.var :: rest) (ha : top.Arranged m o) :
      Stacked m o givens ⟨a, top :: below, stats, .running, memory⟩
  | solved {a : Assignment V} {frames : List (Frame V)} {stats : Stats} {memory : σ}
      (h : Grounded m o givens a frames) (ho : openVariables m a = []) :
      Stacked m o givens ⟨a, frames, stats, .solved, memory⟩
  | unsatisfiable {stats : Stats} {memory : σ} :
      Stacked m o givens ⟨givens, [], stats, .unsatisfiable, memory⟩

section
variable {m : Model V} {o : ValueOrder σ V} {givens a : Assignment V} {frames : List (Frame V)}
  {s : Search σ V}

namespace Grounded

theorem size_eq (h : Grounded m o givens a frames) : a.size = givens.size := by
  induction h with
  | base => rfl
  | push _ _ _ _ ih => rw [Assignment.size_assign, ih]

/-- The variables of the frames and those still open are together the ones that were open first. -/
theorem openVariables_eq (h : Grounded m o givens a frames) (hs : givens.size = m.count) :
    openVariables m givens = (frames.map Frame.var).reverse ++ openVariables m a := by
  induction h with
  | base => rfl
  | push h ho _ _ ih =>
    rw [ih, ho, openVariables_assign (h.size_eq.trans hs) ho, List.map_cons, List.reverse_cons,
      List.append_assoc, List.singleton_append]

theorem keeps (h : Grounded m o givens a frames) {var : Nat} {value : V}
    (hv : givens.get? var = some value) : a.get? var = some value := by
  induction h with
  | base => exact hv
  | @push a _ first _ _ _ _ _ ho _ _ ih =>
    have hne : var ≠ first := by
      intro he
      rw [he, (lt_of_openVariables_eq ho).2] at ih
      cases ih
    rw [a.get?_assign_of_ne hne, ih]

theorem held (h : Grounded m o givens a frames) (hs : givens.size = m.count) :
    ∀ f ∈ frames, f.Held a := by
  induction h with
  | base => exact fun f hf => absurd hf List.not_mem_nil
  | @push a _ var _ value tried ahead h ho _ _ ih =>
    obtain ⟨hlt, hnone⟩ := lt_of_openVariables_eq ho
    intro f hf
    rcases List.mem_cons.mp hf with rfl | hf
    · have hsize : var < a.size := by rw [h.size_eq, hs]; exact hlt
      exact ⟨value, tried, rfl, Assignment.get?_assign_self hsize value⟩
    · exact (ih f hf).assign hnone value

theorem arranged (h : Grounded m o givens a frames) : ∀ f ∈ frames, f.Arranged m o := by
  induction h with
  | base => exact fun f hf => absurd hf List.not_mem_nil
  | push _ _ ha _ ih => exact List.forall_mem_cons.mpr ⟨ha, ih⟩

end Grounded

namespace Stacked

private theorem descend {start : Nat} {stats : Stats} {memory : σ}
    (h : Grounded m o givens a frames) (hn : nextUnassigned m a start = (openVariables m a).head?) :
    Stacked m o givens (descend m o start ⟨a, frames, stats, .running, memory⟩) := by
  rw [Search.descend, hn]
  cases ho : openVariables m a with
  | nil => exact .solved h ho
  | cons next rest => exact .running h ho ⟨memory, rfl⟩

theorem of_start {memory : σ} (h : start m o memory givens = .ok s) : Stacked m o givens s := by
  obtain ⟨_, _, rfl⟩ := start_eq_ok h
  split
  · refine descend .base ?_
    rw [nextUnassigned_eq, openVariables_eq]
  · exact .unsatisfiable

/-- A move leads from one of the states to another. -/
theorem moves (h : Stacked m o givens s) (hs : givens.size = m.count) {e : Event V}
    {next : Search σ V} (hm : Moves m o s e next) : Stacked m o givens next := by
  cases hm with
  | reject _ =>
    cases h with
    | running h ho ha => exact .running h ho ha.next
  | @assign a var _ _ value _ _ _ hc =>
    cases h with
    | running h ho ha =>
      refine descend (.push h ho ha.next hc) ?_
      rw [nextUnassigned_eq, openFrom_assign m a (Nat.lt_succ_self var),
        openVariables_assign (h.size_eq.trans hs) ho]
      rw [openVariables_eq] at ho
      rw [openFrom_tail ho]
  | backtrack _ =>
    cases h with
    | running h _ _ =>
      cases h with
      | push h ho ha _ =>
        rw [Assignment.unassign_assign (lt_of_openVariables_eq ho).2]
        exact .running h ho ha
  | fail _ =>
    cases h with
    | running h _ _ =>
      cases h with
      | base => exact .unsatisfiable

theorem frames_ne_nil (h : Stacked m o givens s) (hr : s.status = .running) : s.frames ≠ [] := by
  cases h with
  | running => exact List.cons_ne_nil _ _
  | solved => cases hr
  | unsatisfiable => cases hr

theorem moves_or_finished (h : Stacked m o givens s) :
    Moves m o s (Search.step m o s).1 (Search.step m o s).2 ∨
      s.status ≠ .running ∧ Search.step m o s = (.finished s.status, s) := by
  by_cases hr : s.status = .running
  · exact .inl (moves_step hr (h.frames_ne_nil hr))
  · exact .inr ⟨hr, step_of_finished hr⟩

theorem step (h : Stacked m o givens s) (hs : givens.size = m.count) :
    Stacked m o givens (step m o s).2 := by
  rcases h.moves_or_finished with hm | ⟨_, he⟩
  · exact h.moves hs hm
  · rw [he]
    exact h

theorem after {memory : σ} (h : start m o memory givens = .ok s) (n : Nat) :
    Stacked m o givens (after m o n s) := by
  induction n with
  | zero => exact of_start h
  | succ n ih => exact ih.step (start_eq_ok h).2.1

theorem grounded (h : Stacked m o givens s) : ∃ frames, Grounded m o givens s.assignment frames := by
  cases h with
  | running h => exact ⟨_, h⟩
  | solved h => exact ⟨_, h⟩
  | unsatisfiable => exact ⟨_, .base⟩

/-- The variables of the frames come first among those that were open, and none of the others has a
value. -/
theorem openVariables_eq (h : Stacked m o givens s) (hs : givens.size = m.count) :
    ∃ rest, openVariables m givens = (s.frames.map Frame.var).reverse ++ rest ∧
      ∀ var ∈ rest, s.assignment.get? var = none := by
  cases h with
  | @running a top below rest _ _ h ho ha =>
    refine ⟨rest, ?_, fun var hv => ?_⟩
    · rw [h.openVariables_eq hs, ho, List.map_cons, List.reverse_cons, List.append_assoc,
        List.singleton_append]
    · have hm : var ∈ openVariables m a := ho ▸ List.mem_cons_of_mem _ hv
      exact (mem_openVariables.mp hm).2
  | solved h ho =>
    refine ⟨[], ?_, fun var hv => absurd hv List.not_mem_nil⟩
    rw [h.openVariables_eq hs, ho]
  | unsatisfiable => exact ⟨openVariables m givens, rfl, fun var hv => (mem_openVariables.mp hv).2⟩

private theorem get?_of_top_lt (h : Stacked m o givens s) (hs : givens.size = m.count)
    {top : Frame V} (ht : top ∈ s.frames.head?) {var : Nat} (hlt : var < m.count)
    (hv : top.var < var) (hg : givens.get? var = none) : s.assignment.get? var = none := by
  obtain ⟨rest, he, hrest⟩ := h.openVariables_eq hs
  obtain ⟨below, hf⟩ := List.head?_eq_some_iff.mp ht
  rw [hf, List.map_cons, List.reverse_cons, List.append_assoc, List.singleton_append] at he
  have hm : var ∈ openVariables m givens := mem_openVariables.mpr ⟨hlt, hg⟩
  have hp := openVariables_ascending m givens
  rw [he, List.pairwise_append] at hp
  rw [he, List.mem_append, List.mem_cons] at hm
  rcases hm with hm | rfl | hm
  · exact absurd (hp.2.2 var hm top.var List.mem_cons_self) (Nat.lt_asymm hv)
  · exact absurd hv (Nat.lt_irrefl _)
  · exact hrest var hm

private theorem applies_of_moves (h : Stacked m o givens s) (hs : givens.size = m.count)
    {e : Event V} {next : Search σ V} (hm : Moves m o s e next) :
    e.Applies s.assignment next.assignment := by
  cases hm with
  | reject _ => rfl
  | @assign a var _ _ value _ _ _ _ =>
    cases h with
    | running h ho _ =>
      obtain ⟨hlt, hnone⟩ := lt_of_openVariables_eq ho
      have hsize : var < a.size := by rw [h.size_eq, hs]; exact hlt
      change a.exchange var (some value) = .ok (none, (Search.descend m o (var + 1) _).assignment)
      rw [Assignment.exchange_some hsize, hnone, assignment_descend]
  | @backtrack a _ parent _ _ _ _ =>
    cases h with
    | running h _ _ =>
      obtain ⟨value, _, _, hv⟩ := h.held hs parent List.mem_cons_self
      refine ⟨value, ?_⟩
      rw [Assignment.exchange_none (Assignment.lt_size_of_get? hv), hv]
  | fail _ => rfl

theorem applies (h : Stacked m o givens s) (hs : givens.size = m.count) :
    (Search.step m o s).1.Applies s.assignment (Search.step m o s).2.assignment := by
  rcases h.moves_or_finished with hm | ⟨_, he⟩
  · exact h.applies_of_moves hs hm
  · rw [he]
    rfl

private theorem top_open (h : Stacked m o givens s) (hr : s.status = .running) :
    ∀ top ∈ s.frames.head?, s.assignment.get? top.var = none := by
  cases h with
  | running h ho _ =>
    intro top ht
    cases ht
    exact (lt_of_openVariables_eq ho).2
  | solved => cases hr
  | unsatisfiable => cases hr

private theorem held (h : Stacked m o givens s) (hs : givens.size = m.count) :
    (∀ f ∈ s.frames.tail, f.Held s.assignment) ∧
      (s.status = .solved → ∀ f ∈ s.frames, f.Held s.assignment) := by
  cases h with
  | running h _ _ => exact ⟨h.held hs, fun hr => nomatch hr⟩
  | solved h _ => exact ⟨fun f hf => h.held hs f (List.mem_of_mem_tail hf), fun _ => h.held hs⟩
  | unsatisfiable => exact ⟨fun f hf => absurd hf List.not_mem_nil, fun hr => nomatch hr⟩

theorem isComplete (h : Stacked m o givens s) (hs : givens.size = m.count)
    (hr : s.status = .solved) : s.assignment.isComplete = true := by
  cases h with
  | running => cases hr
  | @solved a frames _ _ h ho =>
    rw [Assignment.isComplete_iff]
    intro var hv
    rw [← Bool.not_eq_false, Assignment.isAssigned_eq_false_iff]
    intro hnone
    have hlt : var < m.count := by rw [← hs, ← h.size_eq]; exact hv
    have hm : var ∈ openVariables m a := mem_openVariables.mpr ⟨hlt, hnone⟩
    rw [ho] at hm
    cases hm
  | unsatisfiable => cases hr

end Stacked

/-- What holds before the first step and is kept by every move holds after any number of steps. -/
theorem after_induction {P : Search σ V → Prop} {memory : σ} (h : start m o memory givens = .ok s)
    (hstart : P s)
    (hmoves : ∀ {n e}, Moves m o (after m o n s) e (after m o (n + 1) s) → P (after m o n s) →
      P (after m o (n + 1) s)) (n : Nat) : P (after m o n s) := by
  induction n with
  | zero => exact hstart
  | succ n ih =>
    rcases (Stacked.after h n).moves_or_finished with hm | ⟨_, he⟩
    · exact hmoves hm ih
    · rwa [after, he]

/-- What can be said of a search over some givens between any two steps. -/
structure Orderly (m : Model V) (o : ValueOrder σ V) (givens : Assignment V) (s : Search σ V) :
    Prop where
  keeps : ∀ var value, givens.get? var = some value → s.assignment.get? var = some value
  /-- The frames stand on the first variables that were open, without gaps and in their order. -/
  frames_first : (s.frames.map Frame.var).reverse <+: openVariables m givens
  frames_lt : ∀ f ∈ s.frames, f.var < m.count
  arranged : ∀ f ∈ s.frames, f.Arranged m o
  held_below : ∀ f ∈ s.frames.tail, f.Held s.assignment
  top_open : s.status = .running → ∀ top ∈ s.frames.head?, s.assignment.get? top.var = none
  top_held : s.status = .solved → ∀ top ∈ s.frames.head?, top.Held s.assignment
  beyond_open : ∀ top ∈ s.frames.head?, ∀ var < m.count, top.var < var → givens.get? var = none →
    s.assignment.get? var = none
  frames_ne_nil : s.status = .running → s.frames ≠ []
  complete : s.status = .solved → s.assignment.isComplete = true
  /-- The next step finds the slots that it writes to. -/
  applies : (step m o s).1.Applies s.assignment (step m o s).2.assignment

theorem Stacked.orderly (h : Stacked m o givens s) (hs : givens.size = m.count) :
    Orderly m o givens s := by
  obtain ⟨rest, hrest, _⟩ := h.openVariables_eq hs
  obtain ⟨hbelow, hall⟩ := h.held hs
  refine
    { keeps := fun var value hv => ?_
      frames_first := ⟨rest, hrest.symm⟩
      frames_lt := fun f hf => ?_
      arranged := ?_
      held_below := hbelow
      top_open := h.top_open
      top_held := fun hr top ht => hall hr top (List.mem_of_mem_head? ht)
      beyond_open := fun top ht var hlt hv hg => h.get?_of_top_lt hs ht hlt hv hg
      frames_ne_nil := h.frames_ne_nil
      complete := h.isComplete hs
      applies := h.applies hs }
  · obtain ⟨frames, hg⟩ := h.grounded
    exact hg.keeps hv
  · refine lt_of_mem_openVariables (a := givens) f.var ?_
    rw [hrest]
    exact List.mem_append_left _ (List.mem_reverse.mpr (List.mem_map_of_mem hf))
  · cases h with
    | running h _ ha => exact List.forall_mem_cons.mpr ⟨ha, h.arranged⟩
    | solved h _ => exact h.arranged
    | unsatisfiable => exact fun f hf => absurd hf List.not_mem_nil

/-- Whatever the model and the value order are, a search is orderly after any number of steps. -/
theorem orderly_after {memory : σ} (h : start m o memory givens = .ok s) (n : Nat) :
    Orderly m o givens (after m o n s) :=
  (Stacked.after h n).orderly (start_eq_ok h).2.1

end

/-- Column 2 is given, so the frames stand on columns 0, 1 and 3. Column 3 has no row left, and the
tenth step takes the queen of column 1 back. -/
theorem orderly_after_ten_steps_of_queens :
    let m := Queens.model 4
    let o : ValueOrder Unit Nat := .natural
    let givens : Assignment Nat := .ofList [none, none, some 1, none]
    ∃ s, start m o () givens = .ok s ∧
      (after m o 9 s).frames.map Frame.var = [3, 1, 0] ∧
      (after m o 9 s).assignment = .ofList [some 0, some 3, some 1, none] ∧
      (step m o (after m o 9 s)).1 = .backtracked 1 ∧
      Orderly m o givens (after m o 9 s) ∧ Orderly m o givens (after m o 10 s) := by
  intro m o givens
  have h : start m o () givens = .ok (descend m o 0 ⟨givens, [], {}, .running, ()⟩) := rfl
  exact ⟨_, h, by decide +kernel, by decide +kernel, by decide +kernel, orderly_after h 9,
    orderly_after h 10⟩

end Search

end ConstraintSearch
