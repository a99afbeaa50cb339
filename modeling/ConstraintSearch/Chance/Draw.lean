import ConstraintSearch.Failure
import ConstraintSearch.Chance.Stream

/-!
Draws from a generator: an index below a bound, a number in a closed range, a biased coin and a
shuffle. Every draw returns the generator that continues the stream.
-/

namespace ConstraintSearch.Chance

abbrev Source := Generator → Nat × Generator

def source32 : Source := fun g => let (word, g) := g.next32; (word.toNat, g)

def source64 : Source := fun g => let (word, g) := g.next64; (word.toNat, g)

/-- Scales a word to the range and keeps the whole part, unless the fraction lies in the
incomplete last stretch; then it draws again. After `attempts` refusals the last word stands. -/
def scaled (width : Nat) (source : Source) (range : Nat) : (attempts : Nat) → Source
  | 0, g =>
    let (word, g) := source g
    (word * range / Nat.pow 2 width, g)
  | attempts + 1, g =>
    let (word, g) := source g
    let zone := range * Nat.pow 2 (width - 1 - range.log2)
    if word * range % Nat.pow 2 width < zone then (word * range / Nat.pow 2 width, g)
    else scaled width source range attempts g

/-- A number below a positive range. A single refusal is less likely than not, so the allowance
of attempts is never used up in practice. -/
def below (width : Nat) (source : Source) (range : Nat) : Source :=
  scaled width source range 1024

def between (low high : Nat) : Source := fun g =>
  let (offset, g) := below 64 source64 (high - low + 1) g
  (low + offset, g)

def shufflePlaces {α : Type} : (last : Nat) → Array α → Generator → Array α × Generator
  | 0, items, g => (items, g)
  | last + 1, items, g =>
    let (place, g) := below 32 source32 (last + 2) g
    shufflePlaces last (items.swapIfInBounds (last + 1) place) g

/-- A random arrangement of a list. Lists shorter than two draw nothing. -/
def shuffle {α : Type} (items : List α) (g : Generator) : List α × Generator :=
  let (items, g) := shufflePlaces (items.length - 1) items.toArray g
  (items.toList, g)

def unitMax : Binary64 :=
  .ofUnits false (Binary64.unitsPerOne - Binary64.unitsPerOne / Nat.pow 2 52) 1

/-- Lowers a scale, from number to number, until its largest product stays in the range. Zero cannot
be lowered. -/
def fitScale (low high scale : Binary64) : Binary64 :=
  if h : high.lt ((scale.mul unitMax).add low) = true ∧ scale.towardZero ≠ scale then
    have := scale.units_towardZero_lt h.2
    fitScale low high scale.towardZero
  else scale
termination_by scale.units

/-- A range of numbers that can be drawn from: it is ordered and its width is finite. -/
def scaleOf? (low high : Binary64) : Option Binary64 :=
  let scale := (high.sub low).div unitMax
  if low.le high && scale.isFinite then some (fitScale low high scale) else none

def unit (g : Generator) : Binary64 × Generator :=
  let (word, g) := g.next64
  (.ofUnits false ((word >>> 12).toNat * Binary64.unitsPerOne) (Nat.pow 2 52), g)

/-- A coin that shows true with probability `chance`, which lies from zero to one. Certainty
draws nothing. -/
def coin (chance : Binary64) (g : Generator) : Bool × Generator :=
  match chance with
  | .finite false units =>
    if units = Binary64.unitsPerOne then (true, g)
    else
      let (word, g) := g.next64
      (decide (word.toNat < units * Nat.pow 2 64 / Binary64.unitsPerOne), g)
  | _ =>
    let (_, g) := g.next64
    (false, g)

/-- A computation that draws and may fail. After a failure the stream goes on from the last
draw that was made. -/
abbrev Draw (α : Type) := ExceptT Failure (StateM Generator) α

namespace Draw

def sure {α : Type} (draw : Generator → α × Generator) : Draw α :=
  fun g => let (value, g) := draw g; (.ok value, g)

theorem sure_eq {α : Type} (draw : Generator → α × Generator) (g : Generator) :
    sure draw g = (.ok (draw g).1, (draw g).2) := rfl

/-- A number from `low` to `high`, both included. Nothing is drawn from an unusable range. -/
def within (low high : Binary64) : Draw Binary64 :=
  match scaleOf? low high with
  | none => throw (.unusableRange low high)
  | some scale => do
    let fraction ← sure unit
    return (fraction.mul scale).add low

end Draw

end ConstraintSearch.Chance
