import ConstraintSearch.Proofs.Search.Account
import ConstraintSearch.Queens.Model

/-! No search does the same twice. The assignments that it may still come upon become fewer with every
step, and one that it has come upon is not among them, even if the values are in another order
whenever a frame is opened anew. -/
namespace ConstraintSearch
variable {σ V : Type}

/-- No list that the order answers for a variable of the model holds a value twice. -/
def ValueOrder.RepeatFree (o : ValueOrder σ V) (m : Model V) : Prop :=
  ∀ var < m.count, ∀ memory, (o.arrange var (m.domain var) memory).1.Nodup

/-- The value that a step checked and the variable it was meant for, whether it passed or not. -/
def Event.tested? : Event V → Option (Nat × V)
  | .assigned var value => some (var, value)
  | .rejected var value => some (var, value)
  | .backtracked _ => none
  | .finished _ => none

private theorem Frame.Arranged.notMem_ahead {m : Model V} {o : ValueOrder σ V} {f : Frame V}
    (h : f.Arranged m o) (ho : o.RepeatFree m) (hlt : f.var < m.count) :
    ∀ value ∈ f.tried, value ∉ f.ahead := by
  obtain ⟨memory, he⟩ := h
  have hnodup := ho f.var hlt memory
  rw [← he, List.nodup_append] at hnodup
  exact fun value htried hahead =>
    hnodup.2.2 value (List.mem_reverse.mpr htried) value hahead rfl

namespace Search

/-- The search may still come upon the assignment: it has the values that are held below some frame,
and for the variable of this frame one of those ahead. -/
def MayCome (b : Assignment V) : List (Frame V) → Prop
  | [] => False
  | f :: below => ((∃ value ∈ f.ahead, b.get? f.var = some value) ∧
      ∀ g ∈ below, b.get? g.var = g.tried.head?) ∨ MayCome b below

section
variable {m : Model V} {o : ValueOrder σ V} {givens a b : Assignment V} {memory : σ}
  {frames : List (Frame V)} {s next : Search σ V} {e : Event V} {var : Nat} {value : V}

/-- A move opens no way to anything that could not be come upon before. -/
theorem Moves.mayCome (hm : Moves m o s e next) (h : MayCome b next.frames) :
    MayCome b s.frames := by
  cases hm with
  | reject _ =>
    rcases h with ⟨⟨other, hother, hget⟩, hbelow⟩ | h
    · exact .inl ⟨⟨other, List.mem_cons_of_mem _ hother, hget⟩, hbelow⟩
    · exact .inr h
  | @assign a var tried ahead value below stats memory _ =>
    have hcases : MayCome b (⟨var, value :: tried, ahead⟩ :: below) ∨
        ∀ g ∈ (⟨var, value :: tried, ahead⟩ : Frame V) :: below, b.get? g.var = g.tried.head? := by
      rcases descend_eq m o (var + 1)
        ⟨a.assign var value, ⟨var, value :: tried, ahead⟩ :: below, _, .running, memory⟩ with
        ⟨_, he⟩ | he
      · rw [he] at h
        rcases h with ⟨_, hbelow⟩ | h
        · exact .inr hbelow
        · exact .inl h
      · rw [he] at h
        exact .inl h
    rcases hcases with (⟨⟨other, hother, hget⟩, hbelow⟩ | h) | hall
    · exact .inl ⟨⟨other, List.mem_cons_of_mem _ hother, hget⟩, hbelow⟩
    · exact .inr h
    · obtain ⟨hget, hbelow⟩ := List.forall_mem_cons.mp hall
      exact .inl ⟨⟨value, List.mem_cons_self, hget⟩, hbelow⟩
  | backtrack _ => exact .inr h
  | fail _ => exact h.elim

private theorem not_mayCome_of_held (hheld : ∀ f ∈ frames, f.Held b)
    (hfresh : ∀ f ∈ frames, ∀ value ∈ f.tried, value ∉ f.ahead) : ¬ MayCome b frames := by
  induction frames with
  | nil => exact id
  | cons f below ih =>
    obtain ⟨⟨last, earlier, htried, hlast⟩, hheld⟩ := List.forall_mem_cons.mp hheld
    obtain ⟨hf, hfresh⟩ := List.forall_mem_cons.mp hfresh
    rintro (⟨⟨value, hahead, hget⟩, _⟩ | h)
    · obtain rfl := Option.some.inj (hlast.symm.trans hget)
      exact hf last (htried ▸ List.mem_cons_self) hahead
    · exact ih hheld hfresh h

namespace Stacked

private theorem notMem_ahead (h : Stacked m o givens s) (hs : givens.size = m.count)
    (ho : o.RepeatFree m) : ∀ f ∈ s.frames, ∀ value ∈ f.tried, value ∉ f.ahead :=
  have horderly := h.orderly hs
  fun f hf => (horderly.arranged f hf).notMem_ahead ho (horderly.frames_lt f hf)

/-- The search is past its own assignment. -/
theorem not_mayCome (h : Stacked m o givens s) (hs : givens.size = m.count)
    (ho : o.RepeatFree m) : ¬ MayCome s.assignment s.frames := by
  have hfresh := h.notMem_ahead hs ho
  cases h with
  | running h hopen _ =>
    rintro (⟨⟨value, _, hget⟩, _⟩ | hbelow)
    · rw [(lt_of_openVariables_eq hopen).2] at hget
      cases hget
    · exact not_mayCome_of_held (h.held hs) (List.forall_mem_cons.mp hfresh).2 hbelow
  | solved h _ => exact not_mayCome_of_held (h.held hs) hfresh
  | unsatisfiable => exact id

private theorem held_of_running {top : Frame V} {below : List (Frame V)} {stats : Stats}
    (h : Stacked m o givens ⟨a, top :: below, stats, .running, memory⟩)
    (hs : givens.size = m.count) (value : V) :
    (a.assign top.var value).get? top.var = some value ∧
      ∀ f ∈ below, f.Held (a.assign top.var value) := by
  cases h with
  | running h hopen _ =>
    obtain ⟨hlt, hnone⟩ := lt_of_openVariables_eq hopen
    have hsize : top.var < a.size := Nat.lt_of_lt_of_eq hlt (h.size_eq.trans hs).symm
    exact ⟨Assignment.get?_assign_self hsize value,
      fun f hf => (h.held hs f hf).assign hnone value⟩

private theorem mayCome_of_moves (h : Stacked m o givens s) (hs : givens.size = m.count)
    (ho : o.RepeatFree m) (hm : Moves m o s e next) (ht : e.tested? = some (var, value)) :
    MayCome (s.assignment.assign var value) s.frames ∧
      ¬ MayCome (s.assignment.assign var value) next.frames := by
  have hnext := h.moves hs hm
  cases hm with
  | reject _ =>
    cases ht
    obtain ⟨hget, hheld⟩ := h.held_of_running hs value
    refine ⟨.inl ⟨⟨value, List.mem_cons_self, hget⟩, fun g hg => (hheld g hg).get?_eq⟩, ?_⟩
    exact not_mayCome_of_held (List.forall_mem_cons.mpr ⟨⟨value, _, rfl, hget⟩, hheld⟩)
      (hnext.notMem_ahead hs ho)
  | assign _ =>
    cases ht
    obtain ⟨hget, hheld⟩ := h.held_of_running hs value
    refine ⟨.inl ⟨⟨value, List.mem_cons_self, hget⟩, fun g hg => (hheld g hg).get?_eq⟩, ?_⟩
    have hpast := hnext.not_mayCome hs ho
    rwa [assignment_descend] at hpast
  | backtrack _ => cases ht
  | fail _ => cases ht

private theorem mayCome_of_step (h : Stacked m o givens s) (hs : givens.size = m.count)
    (ho : o.RepeatFree m) (ht : (Search.step m o s).1.tested? = some (var, value)) :
    MayCome (s.assignment.assign var value) s.frames ∧
      ¬ MayCome (s.assignment.assign var value) (Search.step m o s).2.frames := by
  rcases h.moves_or_finished with hm | ⟨_, he⟩
  · exact h.mayCome_of_moves hs ho hm ht
  · rw [he] at ht
    cases ht

end Stacked

theorem mayCome_after (h : start m o memory givens = .ok s) {i j : Nat} (hij : i ≤ j)
    (hb : MayCome b (after m o j s).frames) : MayCome b (after m o i s).frames := by
  induction hij with
  | refl => exact hb
  | @step j _ ih =>
    rcases (Stacked.after h j).moves_or_finished with hm | ⟨_, he⟩
    · exact ih (hm.mayCome hb)
    · rw [after, he] at hb
      exact ih hb

private theorem assign_ne_of_lt (ho : o.RepeatFree m) (h : start m o memory givens = .ok s)
    {i j : Nat} (hij : i < j) {var' : Nat} {value' : V}
    (hi : (step m o (after m o i s)).1.tested? = some (var, value))
    (hj : (step m o (after m o j s)).1.tested? = some (var', value')) :
    (after m o i s).assignment.assign var value ≠ (after m o j s).assignment.assign var' value' := by
  intro heq
  have hs := (start_eq_ok h).2.1
  have hpast := ((Stacked.after h i).mayCome_of_step hs ho hi).2
  have hcomes := ((Stacked.after h j).mayCome_of_step hs ho hj).1
  exact hpast (heq ▸ mayCome_after h hij hcomes)

private theorem eq_of_assign_eq (ho : o.RepeatFree m) (h : start m o memory givens = .ok s)
    {i j var' : Nat} {value' : V}
    (hi : (step m o (after m o i s)).1.tested? = some (var, value))
    (hj : (step m o (after m o j s)).1.tested? = some (var', value'))
    (heq : (after m o i s).assignment.assign var value =
      (after m o j s).assignment.assign var' value') : i = j := by
  rcases Nat.lt_trichotomy i j with hlt | rfl | hlt
  · exact absurd heq (assign_ne_of_lt ho h hlt hi hj)
  · rfl
  · exact absurd heq.symm (assign_ne_of_lt ho h hlt hj hi)

private theorem exists_tested_of_isAssigned (h : start m o memory givens = .ok s) {n : Nat}
    (he : (step m o (after m o n s)).1.isAssigned = true) : ∃ var value,
      (step m o (after m o n s)).1.tested? = some (var, value) ∧
      (after m o (n + 1) s).assignment = (after m o n s).assignment.assign var value := by
  rcases (Stacked.after h n).moves_or_finished with hm | ⟨_, hf⟩
  · have hreplay := hm.replay
    cases hevent : (step m o (after m o n s)).1 with
    | assigned var value =>
      rw [hevent] at hreplay
      exact ⟨var, value, rfl, hreplay.symm⟩
    | rejected | backtracked | finished =>
      rw [hevent] at he
      cases he
  · rw [hf] at he
    cases he

end

/-- With lists that hold no value twice, no step of a search assigns what makes the assignment the same
as an earlier step did, and none checks a value for a variable that an earlier one checked for it
against the same assignment. The order may remember, and may leave values out. -/
theorem never_repeats {m : Model V} {o : ValueOrder σ V} {memory : σ} {givens : Assignment V}
    {s : Search σ V} (ho : o.RepeatFree m) (h : start m o memory givens = .ok s) :
    (∀ i j, (step m o (after m o i s)).1.isAssigned = true →
      (step m o (after m o j s)).1.isAssigned = true →
      (after m o (i + 1) s).assignment = (after m o (j + 1) s).assignment → i = j) ∧
    ∀ i j tested, (step m o (after m o i s)).1.tested? = some tested →
      (step m o (after m o j s)).1.tested? = some tested →
      (after m o i s).assignment = (after m o j s).assignment → i = j := by
  refine ⟨fun i j hi hj heq => ?_, fun i j tested hi hj heq => ?_⟩
  · obtain ⟨_, _, hti, hleft⟩ := exists_tested_of_isAssigned h hi
    obtain ⟨_, _, htj, hleft'⟩ := exists_tested_of_isAssigned h hj
    exact eq_of_assign_eq ho h hti htj (hleft.symm.trans (heq.trans hleft'))
  · exact eq_of_assign_eq ho h hi hj (congrArg (·.assign tested.1 tested.2) heq)

/-- Four queens, where every other list is turned round and lacks the last row. The row 0 is assigned
to column 1 for the rows 2 and 3 of column 0, and it is refused there for the rows 0 and 1. -/
theorem never_repeats_of_turning_lists :
    let m := Queens.model 4
    let o : ValueOrder Bool Nat :=
      ⟨fun _ domain turned => (if turned then domain.reverse.tail else domain, !turned)⟩
    o.RepeatFree m ∧ ∃ s, start m o false (.blank 4) = .ok s ∧
      (step m o (after m o 16 s)).1 = .assigned 1 0 ∧
      (step m o (after m o 26 s)).1 = .assigned 1 0 ∧
      (after m o 17 s).assignment ≠ (after m o 27 s).assignment ∧
      (step m o (after m o 8 s)).1 = .rejected 1 0 ∧
      (step m o (after m o 13 s)).1 = .rejected 1 0 ∧
      (after m o 8 s).assignment ≠ (after m o 13 s).assignment := by
  intro m o
  have ho : o.RepeatFree m := by
    intro var _ turned
    cases turned
    · exact (by decide : (List.range 4).Nodup)
    · exact (by decide : (List.range 4).reverse.tail.Nodup)
  let s : Search Bool Nat := descend m o 0 ⟨.blank 4, [], {}, .running, false⟩
  have h : start m o false (.blank 4) = .ok s := rfl
  obtain ⟨hassigned, htested⟩ := never_repeats ho h
  have hthird : (step m o (after m o 16 s)).1 = .assigned 1 0 := by decide +kernel
  have hfourth : (step m o (after m o 26 s)).1 = .assigned 1 0 := by decide +kernel
  have hfirst : (step m o (after m o 8 s)).1 = .rejected 1 0 := by decide +kernel
  have hsecond : (step m o (after m o 13 s)).1 = .rejected 1 0 := by decide +kernel
  refine ⟨ho, s, h, hthird, hfourth, fun heq => ?_, hfirst, hsecond, fun heq => ?_⟩
  · have hsame := hassigned 16 26 (by rw [hthird]; rfl) (by rw [hfourth]; rfl) heq
    exact absurd hsame (by decide)
  · have hsame := htested 8 13 (1, 0) (by rw [hfirst]; rfl) (by rw [hsecond]; rfl) heq
    exact absurd hsame (by decide)

end Search
end ConstraintSearch
