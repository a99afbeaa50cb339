import ConstraintSearch.Failure

/-!
Settings for random maps.
-/

namespace ConstraintSearch.Colouring

/-- The most regions a random map may have. -/
def regionLimit : Nat := 12

structure Settings where
  width : Binary64 := .ofNat 600
  height : Binary64 := .ofNat 400
  leastRegions : Nat := 5
  mostRegions : Nat := 12
  leastRadius : Binary64 := .ofNat 30
  mostRadius : Binary64 := .ofNat 60
  /-- Regions that are apart by less than this are still neighbours. -/
  margin : Binary64 := .ofNat 20
deriving DecidableEq

namespace Settings

/-- The first flaw of the settings, if any. What is not a number passes every comparison that
would show a flaw, except that of the radii. -/
def flaw? (s : Settings) : Option ConfigFlaw :=
  let diameter := (Binary64.ofNat 2).mul s.mostRadius
  if s.leastRegions = 0 || s.mostRegions < s.leastRegions then
    some (.regionRange s.leastRegions s.mostRegions)
  else if regionLimit < s.mostRegions then some (.tooManyRegions regionLimit s.mostRegions)
  else if !(Binary64.zero.lt s.leastRadius && s.leastRadius.le s.mostRadius) then
    some (.radiusRange s.leastRadius s.mostRadius)
  else if s.width.lt diameter || s.height.lt diameter then
    some (.canvasTooSmall s.width s.height s.mostRadius)
  else if s.margin.lt .zero then some (.negativeMargin s.margin)
  else none

def validate (s : Settings) : Except Failure Unit :=
  match s.flaw? with
  | some flaw => .error (.config flaw)
  | none => .ok ()

end Settings

end ConstraintSearch.Colouring
