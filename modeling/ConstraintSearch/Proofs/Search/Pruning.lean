import ConstraintSearch.Proofs.Search.Coherence
import ConstraintSearch.Proofs.Search.FailureCost
import ConstraintSearch.Proofs.Search.Solutions

/-! Why nothing is lost when a search refuses a value, takes one back or gives up. The values that a
frame tried before the one it holds cannot be completed, whatever the order of the values is and
however often the frame is opened anew. -/
namespace ConstraintSearch
variable {σ V : Type}

/-- What an event gives up has no solution: the assignment with the refused value, the assignment
before its last value is taken back, or the givens. Solutions of an assignment have all its values,
and the values of the other variables are from their domains. -/
def Event.Justified (m : Model V) (constraints : List (Constraint V)) (givens a : Assignment V) :
    Event V → Prop
  | .rejected var value => ∀ b, ¬ Solution m constraints (a.assign var value) b
  | .backtracked _ => ∀ b, ¬ Solution m constraints a b
  | .finished .unsatisfiable => ∀ b, ¬ Solution m constraints givens b
  | _ => True

namespace Search

/-- Values for all open variables can be found that pass the check one after the other. -/
def Completable (m : Model V) (a : Assignment V) : Prop := ∃ b, Completes m (openVariables m a) a b

/-- The value fails the check, or with it the assignment cannot be completed. -/
def Barren (m : Model V) (a : Assignment V) (var : Nat) (value : V) : Prop :=
  m.consistent a var value = true → ¬ Completable m (a.assign var value)

/-- The values that the frames tried before those they hold are barren, each for the assignment that
its frame came upon. -/
def PassedBarren (m : Model V) : Assignment V → List (Frame V) → Prop
  | _, [] => True
  | a, f :: below => (∀ value ∈ f.tried.tail, Barren m (a.unassign f.var) f.var value) ∧
      PassedBarren m (a.unassign f.var) below

/-- What a search has left behind. The deepest frame of a running search holds nothing, so that all
its values are left behind. -/
structure Pruned (m : Model V) (givens : Assignment V) (s : Search σ V) : Prop where
  top : s.status = .running → ∀ f ∈ s.frames.head?, ∀ value ∈ f.tried,
    Barren m s.assignment f.var value
  below : s.status = .running → PassedBarren m s.assignment s.frames.tail
  failed : s.status = .unsatisfiable → ¬ Solvable m givens

section
variable {m : Model V} {o : ValueOrder σ V} {givens a : Assignment V} {memory : σ}
  {s next : Search σ V} {e : Event V}

/-- A frame that ran through its values without finding any that can be completed. -/
theorem not_completable_of_exhausted (ho : o.Permutes m) (hs : a.size = m.count) {f : Frame V}
    {rest : List Nat} (hopen : openVariables m a = f.var :: rest) (harranged : f.Arranged m o)
    (hn : f.ahead = []) (hbarren : ∀ value ∈ f.tried, Barren m a f.var value) :
    ¬ Completable m a := by
  rintro ⟨b, hb⟩
  rw [hopen] at hb
  obtain ⟨value, hd, hok, hrest⟩ := hb
  obtain ⟨memory, he⟩ := harranged
  rw [hn, List.append_nil] at he
  have hv : value ∈ f.tried := by
    rw [← List.mem_reverse, he, (ho f.var (lt_of_openVariables_eq hopen).1 memory).mem_iff]
    exact hd
  refine hbarren value hv hok ⟨b, ?_⟩
  rwa [openVariables_assign hs hopen]

namespace Pruned

private theorem of_finished (hr : s.status ≠ .running)
    (hf : s.status = .unsatisfiable → ¬ Solvable m givens) : Pruned m givens s where
  top h := absurd h hr
  below h := absurd h hr
  failed := hf

private theorem of_running (hr : s.status = .running)
    (ht : ∀ f ∈ s.frames.head?, ∀ value ∈ f.tried, Barren m s.assignment f.var value)
    (hb : PassedBarren m s.assignment s.frames.tail) : Pruned m givens s where
  top _ := ht
  below _ := hb
  failed h := by
    rw [hr] at h
    cases h

private theorem descend {frames : List (Frame V)} {stats : Stats} (h : PassedBarren m a frames)
    (start : Nat) : Pruned m givens (descend m o start ⟨a, frames, stats, .running, memory⟩) := by
  unfold Search.descend
  split
  · refine of_running rfl (fun f hf value hv => ?_) h
    cases hf
    cases hv
  · exact of_finished Status.noConfusion Status.noConfusion

theorem of_start (h : start m o memory givens = .ok s) : Pruned m givens s := by
  obtain ⟨_, _, rfl⟩ := start_eq_ok h
  split
  · have hnone : PassedBarren m givens [] := trivial
    exact descend hnone 0
  · rename_i ha
    exact of_finished Status.noConfusion fun _ hsolvable => ha hsolvable.1

/-- A value is left behind when it fails the check, or when the frame above it ran out of values. -/
theorem moves (ho : o.Permutes m) (hs : givens.size = m.count) (h : Stacked m o givens s)
    (hp : Pruned m givens s) (hm : Moves m o s e next) : Pruned m givens next := by
  cases hm with
  | @reject a var tried ahead value below stats memory hc =>
    refine of_running rfl (fun f hf other hv => ?_) (hp.below rfl)
    cases hf
    rcases List.mem_cons.mp hv with rfl | hv
    · exact fun hok => absurd hok (Bool.eq_false_iff.mp hc)
    · exact hp.top rfl _ rfl other hv
  | @assign a var tried ahead value below _ _ _ =>
    cases h with
    | running _ hopen _ =>
      have hpassed : PassedBarren m (a.assign var value) (⟨var, value :: tried, ahead⟩ :: below) := by
        rw [PassedBarren, Assignment.unassign_assign (lt_of_openVariables_eq hopen).2]
        exact ⟨hp.top rfl _ rfl, hp.below rfl⟩
      exact descend hpassed _
  | backtrack hn =>
    cases h with
    | running h hopen harranged =>
      have hnone := not_completable_of_exhausted ho (h.size_eq.trans hs) hopen harranged hn
        (hp.top rfl _ rfl)
      obtain ⟨hpassed, hbelow⟩ := hp.below rfl
      refine of_running rfl (fun f hf other hv => ?_) hbelow
      cases hf
      cases h with
      | push h ho' _ _ =>
        -- the value taken back is the one with which nothing can be completed
        rw [Assignment.unassign_assign (lt_of_openVariables_eq ho').2] at hpassed ⊢
        rcases List.mem_cons.mp hv with rfl | hv
        · exact fun _ => hnone
        · exact hpassed other hv
  | fail hn =>
    cases h with
    | running h hopen harranged =>
      cases h with
      | base =>
        have hnone := not_completable_of_exhausted ho hs hopen harranged hn (hp.top rfl _ rfl)
        exact of_finished Status.noConfusion fun _ hsolvable => hnone hsolvable.2

theorem after (ho : o.Permutes m) (h : start m o memory givens = .ok s) (n : Nat) :
    Pruned m givens (after m o n s) :=
  after_induction h (of_start h)
    (fun hm hp => hp.moves ho (start_eq_ok h).2.1 (Stacked.after h _) hm) n

end Pruned

section
variable {constraints : List (Constraint V)}

private theorem solvable_of_solution (hm : m.GivenBy constraints) (hs : a.size = m.count)
    {b : Assignment V} (hb : Solution m constraints a b) : Solvable m a :=
  have ha := agrees_of_solution hm hs hb
  ⟨ha, b, (completes_openVariables_iff hm hs ha).mpr hb⟩

private theorem consistent_of_solution (hm : m.GivenBy constraints) (hs : a.size = m.count)
    {var : Nat} (hopen : var < m.count ∧ a.get? var = none) {value : V} {b : Assignment V}
    (hb : Solution m constraints (a.assign var value) b) : m.consistent a var value = true := by
  have hsize := (a.size_assign var value).trans hs
  have hnew := (hm.agrees_iff hsize).mp (agrees_of_solution hm hsize hb)
  have hold := hnew.of_extends (Assignment.within_assign hopen.2 value).keeps
  exact (hm.consistent_iff_coherent hs hopen.1 hold value).mpr hnew

private theorem Pruned.justified_of_moves (hm : m.GivenBy constraints) (ho : o.Permutes m)
    (hs : givens.size = m.count) (h : Stacked m o givens s) (hp : Pruned m givens s)
    (hmove : Moves m o s e next) : e.Justified m constraints givens s.assignment := by
  have hnext := hp.moves ho hs h hmove
  cases hmove with
  | reject hc =>
    cases h with
    | running h hopen _ =>
      intro b hb
      have hok := consistent_of_solution hm (h.size_eq.trans hs) (lt_of_openVariables_eq hopen) hb
      rw [hc] at hok
      cases hok
  | assign _ => trivial
  | backtrack hn =>
    cases h with
    | running h hopen harranged =>
      have hsize := h.size_eq.trans hs
      have hnone := not_completable_of_exhausted ho hsize hopen harranged hn (hp.top rfl _ rfl)
      exact fun b hb => hnone (solvable_of_solution hm hsize hb).2
  | fail _ => exact fun b hb => hnext.failed rfl (solvable_of_solution hm hs hb)

end
end

/-- At any point of any search over a model given by constraints, whatever the next step gives up has
no solution. So it is for every order that permutes the domains, also one that remembers and answers
differently whenever a frame is opened anew. -/
theorem justified_after {m : Model V} {constraints : List (Constraint V)} {o : ValueOrder σ V}
    {memory : σ} {givens : Assignment V} {s : Search σ V} (hm : m.GivenBy constraints)
    (ho : o.Permutes m) (h : start m o memory givens = .ok s) (n : Nat) :
    (step m o (after m o n s)).1.Justified m constraints givens (after m o n s).assignment := by
  have hs := (start_eq_ok h).2.1
  have hstacked := Stacked.after h n
  have hpruned := Pruned.after ho h n
  rcases hstacked.moves_or_finished with hmove | ⟨_, he⟩
  · exact hpruned.justified_of_moves hm ho hs hstacked hmove
  · rw [he]
    cases hstatus : (after m o n s).status with
    | running => trivial
    | solved => trivial
    | unsatisfiable => exact fun b hb => hpruned.failed hstatus (solvable_of_solution hm hs hb)

/-- Two numbers and a zero of sum six, the first below the second, which is given as three. Tried from
the last value, two fails because of the zero and is taken back, then three is refused. -/
theorem justified_after_of_sum :
    let constraints : List (Constraint Nat) :=
      [⟨[0, 1], by decide, fun xs => xs.getD 0 0 < xs.getD 1 0⟩,
        ⟨[2, 0, 1], by decide, fun xs => xs.foldl (· + ·) 0 = 6⟩]
    let m := Model.ofConstraints [[3, 2], [1, 2, 3], [0]] constraints
    let o : ValueOrder Unit Nat := .reversed
    let givens : Assignment Nat := .ofList [none, some 3, none]
    m.GivenBy constraints ∧ o.Permutes m ∧ ∃ s, start m o () givens = .ok s ∧
      (step m o (after m o 1 s)).1 = .rejected 2 0 ∧
      (∀ b, ¬ Solution m constraints (.ofList [some 2, some 3, some 0]) b) ∧
      (step m o (after m o 2 s)).1 = .backtracked 0 ∧
      (∀ b, ¬ Solution m constraints (.ofList [some 2, some 3, none]) b) ∧
      (step m o (after m o 4 s)).1 = .finished .unsatisfiable ∧
      ∀ b, ¬ Solution m constraints givens b := by
  intro constraints m o givens
  have hm : m.GivenBy constraints := Model.givenBy_ofConstraints (by decide)
  have ho : o.Permutes m := ValueOrder.reversed_permutes m
  let s : Search Unit Nat := descend m o 0 ⟨givens, [], {}, .running, ()⟩
  have h : start m o () givens = .ok s := rfl
  have hassigned : (after m o 1 s).assignment = .ofList [some 2, some 3, none] ∧
      (after m o 2 s).assignment = .ofList [some 2, some 3, none] := by decide +kernel
  have hrejected : (step m o (after m o 1 s)).1 = .rejected 2 0 := by decide +kernel
  have hbacktracked : (step m o (after m o 2 s)).1 = .backtracked 0 := by decide +kernel
  have hfinished : (step m o (after m o 4 s)).1 = .finished .unsatisfiable := by decide +kernel
  have hsecond := justified_after hm ho h 1
  have hthird := justified_after hm ho h 2
  have hlast := justified_after hm ho h 4
  rw [hrejected, hassigned.1] at hsecond
  rw [hbacktracked, hassigned.2] at hthird
  rw [hfinished] at hlast
  exact ⟨hm, ho, s, h, hrejected, hsecond, hbacktracked, hthird, hfinished, hlast⟩

end Search
end ConstraintSearch
