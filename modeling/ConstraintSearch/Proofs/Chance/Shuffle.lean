import ConstraintSearch.Chance.Draw
import ConstraintSearch.Proofs.Search.Completions

/-! Shuffling only exchanges places. Whatever is drawn, no element is lost and none comes up that was
not there, so that random value orders permute the domains of every model. -/
namespace ConstraintSearch
variable {α σ V : Type}

namespace Chance

private theorem scaled_lt {width : Nat} {source : Source} (hs : ∀ g, (source g).1 < Nat.pow 2 width)
    {range : Nat} (hr : 0 < range) (attempts : Nat) (g : Generator) :
    (scaled width source range attempts g).1 < range := by
  have hword (g : Generator) : (source g).1 * range / Nat.pow 2 width < range :=
    Nat.div_lt_of_lt_mul (Nat.mul_lt_mul_of_pos_right (hs g) hr)
  induction attempts generalizing g with
  | zero => exact hword g
  | succ attempts ih =>
    change (if (source g).1 * range % Nat.pow 2 width < range * Nat.pow 2 (width - 1 - range.log2)
      then ((source g).1 * range / Nat.pow 2 width, (source g).2)
      else scaled width source range attempts (source g).2).1 < range
    split
    · exact hword g
    · exact ih _

private theorem below_source32_lt {range : Nat} (hr : 0 < range) (g : Generator) :
    (below 32 source32 range g).1 < range :=
  scaled_lt (fun g => g.next32.1.toNat_lt) hr 1024 g

/-- The places that a shuffle draws for the last place, the one before it and so on down to 1. -/
def drawPlaces : (last : Nat) → Generator → List Nat × Generator
  | 0, g => ([], g)
  | last + 1, g =>
    let drawn := below 32 source32 (last + 2) g
    let rest := drawPlaces last drawn.2
    (drawn.1 :: rest.1, rest.2)

/-- Exchanges the last place, the one before it and so on with the places of a list. -/
def exchangePlaces : (last : Nat) → (places : List Nat) → Array α → Array α
  | last + 1, place :: places, items =>
    exchangePlaces last places (items.swapIfInBounds (last + 1) place)
  | _, _, items => items

theorem drawPlaces_le (last : Nat) (g : Generator) :
    List.Forall₂ (· ≤ ·) (drawPlaces last g).1 (List.range' 1 last).reverse := by
  induction last generalizing g with
  | zero => exact .nil
  | succ last ih =>
    rw [List.range'_1_concat, List.reverse_append, List.reverse_singleton, List.singleton_append]
    refine .cons ?_ (ih _)
    have hlt : (below 32 source32 (last + 2) g).1 < last + 2 :=
      below_source32_lt (Nat.succ_pos (last + 1)) g
    omega

private theorem shufflePlaces_eq (last : Nat) (items : Array α) (g : Generator) :
    shufflePlaces last items g =
      (exchangePlaces last (drawPlaces last g).1 items, (drawPlaces last g).2) := by
  induction last generalizing items g with
  | zero => rfl
  | succ last ih =>
    let drawn := below 32 source32 (last + 2) g
    change shufflePlaces last (items.swapIfInBounds (last + 1) drawn.1) drawn.2 = _
    rw [ih]
    rfl

private theorem swapIfInBounds_perm (items : Array α) (i j : Nat) :
    (items.swapIfInBounds i j).toList.Perm items.toList := by
  rw [Array.swapIfInBounds]
  split
  · split
    · exact (Array.swap_perm ..).toList
    · exact .refl _
  · exact .refl _

/-- Exchanging loses nothing, whatever the places are. -/
theorem exchangePlaces_perm (last : Nat) (places : List Nat) (items : Array α) :
    (exchangePlaces last places items).toList.Perm items.toList := by
  induction last generalizing places items with
  | zero => exact .refl _
  | succ last ih =>
    cases places with
    | nil => exact .refl _
    | cons place places => exact (ih places _).trans (swapIfInBounds_perm ..)

theorem shuffle_eq (items : List α) (g : Generator) : shuffle items g =
    ((exchangePlaces (items.length - 1) (drawPlaces (items.length - 1) g).1 items.toArray).toList,
      (drawPlaces (items.length - 1) g).2) := by
  rw [shuffle, shufflePlaces_eq]

theorem shuffle_perm (items : List α) (g : Generator) : (shuffle items g).1.Perm items := by
  rw [shuffle_eq]
  exact exchangePlaces_perm ..

theorem shuffle_of_length_lt {items : List α} (h : items.length < 2) (g : Generator) :
    shuffle items g = (items, g) := by
  have hlast : items.length - 1 = 0 := by omega
  rw [shuffle_eq, hlast]
  rfl

end Chance

namespace ValueOrder

theorem shuffled_permutes (m : Model V) : (shuffled : ValueOrder _ V).Permutes m :=
  fun var _ memory => Chance.shuffle_perm (m.domain var) memory

/-- What an order answers when it is asked several times in a row, each time for a variable and its
domain. -/
def answers (o : ValueOrder σ V) : List (Nat × List V) → σ → List (List V) × σ
  | [], memory => ([], memory)
  | (var, domain) :: calls, memory =>
    let first := o.arrange var domain memory
    let rest := o.answers calls first.2
    (first.1 :: rest.1, rest.2)

private theorem answers_shuffled_perm (calls : List (Nat × List V)) (g : Chance.Generator) :
    List.Forall₂ (fun answer call => answer.Perm call.2) (shuffled.answers calls g).1 calls := by
  induction calls generalizing g with
  | nil => exact .nil
  | cons call calls ih => exact .cons (Chance.shuffle_perm call.2 g) (ih _)

private theorem answers_shuffled_of_length_lt {calls : List (Nat × List V)}
    (h : ∀ call ∈ calls, call.2.length < 2) (g : Chance.Generator) :
    shuffled.answers calls g = (calls.map Prod.snd, g) := by
  induction calls generalizing g with
  | nil => rfl
  | cons call calls ih =>
    obtain ⟨hcall, hcalls⟩ := List.forall_mem_cons.mp h
    have hfirst : shuffled.arrange call.1 call.2 g = (call.2, g) :=
      Chance.shuffle_of_length_lt hcall g
    change (_ :: (shuffled.answers calls (shuffled.arrange call.1 call.2 g).2).1, _) = _
    rw [hfirst, ih hcalls]
    rfl

/-- Whatever the generator has drawn before and draws now, and however often it is asked, the random
order answers the values of each domain, each as often as it is there. It exchanges every place from
the last one down to 1 with a place that is drawn for it and not above it, and whichever these were,
nothing would be lost; nor does it draw anything for domains of less than two values. -/
theorem shuffled_loses_nothing (g : Chance.Generator) :
    (∀ calls : List (Nat × List V),
      List.Forall₂ (fun answer call => answer.Perm call.2) (shuffled.answers calls g).1 calls) ∧
    (∀ calls : List (Nat × List V), (∀ call ∈ calls, call.2.length < 2) →
      shuffled.answers calls g = (calls.map Prod.snd, g)) ∧
    ∀ (var : Nat) (domain : List V),
      let last := domain.length - 1
      let drawn := Chance.drawPlaces last g
      List.Forall₂ (· ≤ ·) drawn.1 (List.range' 1 last).reverse ∧
      shuffled.arrange var domain g =
        ((Chance.exchangePlaces last drawn.1 domain.toArray).toList, drawn.2) ∧
      ∀ places, (Chance.exchangePlaces last places domain.toArray).toList.Perm domain :=
  ⟨fun calls => answers_shuffled_perm calls g, fun _ h => answers_shuffled_of_length_lt h g,
    fun _ domain => ⟨Chance.drawPlaces_le _ g, Chance.shuffle_eq domain g,
      fun places => Chance.exchangePlaces_perm _ places domain.toArray⟩⟩

/-- A generator that draws the words 0 and 2147483648 next, asked for a domain with a value twice, one
of a single value and one without any. -/
theorem shuffled_loses_nothing_of_three_domains :
    let g : Chance.Generator := ⟨.replicate 8 0, 0, [0, 2147483648, 5]⟩
    let calls := [(0, [7, 7, 8]), (1, [4]), (2, [])]
    (shuffled.answers calls g).1 = [[8, 7, 7], [4], []] ∧ (shuffled.answers calls g).2.words = [5] ∧
      List.Forall₂ (fun answer call => answer.Perm call.2) (shuffled.answers calls g).1 calls ∧
      (∀ call ∈ calls.tail, call.2.length < 2) ∧
      shuffled.answers calls.tail g = ([[4], []], g) ∧
      (Chance.drawPlaces 2 g).1 = [0, 1] ∧ List.Forall₂ (· ≤ ·) (Chance.drawPlaces 2 g).1 [2, 1] := by
  intro g calls
  obtain ⟨hperm, hshort, hone⟩ := shuffled_loses_nothing (V := Nat) g
  have htail : ∀ call ∈ calls.tail, call.2.length < 2 := by decide
  exact ⟨by decide +kernel, by decide +kernel, hperm calls, htail, hshort calls.tail htail,
    by decide +kernel, (hone 0 [7, 7, 8]).1⟩

end ValueOrder

end ConstraintSearch
