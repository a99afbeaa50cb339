/-!
What a search cost.
-/

namespace ConstraintSearch

structure Duration where
  seconds : Nat := 0
  nanoseconds : Nat := 0
deriving DecidableEq, Inhabited

namespace Duration

def nanosecondsPerSecond : Nat := 1000000000

def secondLimit : Nat := Nat.pow 2 64

/-- A length from both parts. Nanoseconds that make up a second are carried over, unless that makes
too many seconds. -/
def of? (seconds nanoseconds : Nat) : Option Duration :=
  let seconds := seconds + nanoseconds / nanosecondsPerSecond
  if seconds < secondLimit then some ⟨seconds, nanoseconds % nanosecondsPerSecond⟩ else none

def ofMicroseconds (microseconds : Nat) : Duration :=
  ⟨microseconds / 1000000, microseconds % 1000000 * 1000⟩

/-- Whole microseconds; what is left of the last one is dropped. -/
def microseconds (d : Duration) : Nat := d.seconds * 1000000 + d.nanoseconds / 1000

end Duration

/-- Counters over one whole search, never reset on the way. A step raises each
by at most one, so no search comes to 2^64 and a word of 64 bits holds the same numbers: they need no
bound here. A search does not look at a clock: its time is zero until somebody who has one fills it
in. -/
structure Stats where
  /-- Values that passed the check and were assigned. -/
  nodes : Nat := 0
  /-- Values that were checked. -/
  checks : Nat := 0
  /-- Assigned values that were taken back. -/
  backtracks : Nat := 0
  elapsed : Duration := {}
deriving DecidableEq, Inhabited

end ConstraintSearch
