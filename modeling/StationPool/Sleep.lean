import StationPool.Time.Duration

/-!
# Sleeping until cancelled

A sleep ends when its time has come or when the cancellation fires, and it tells which. The
cancellation is looked for first: where both have happened, the sleep was cut short.
-/

namespace StationPool.Sleep

/-- How a sleep that is due at a moment ends, if it does: whether it slept to the end. -/
def outcome? (now due : Nat) (cancelled : Bool) : Option Bool :=
  if cancelled then some false else if due ≤ now then some true else none

/-- Sleeps under one clock and one cancellation. -/
structure Run where
  now : Nat := 0
  cancelled : Bool := false
  /-- The number of the next sleep. -/
  fresh : Nat := 0
  /-- The sleeps that go on, with the moments they are due. -/
  asleep : List (Nat × Nat) := []
  /-- The sleeps that ended, in the order of their ending. -/
  ended : List (Nat × Bool) := []

namespace Run

/-- One more sleep, of a length in nanoseconds. -/
def start (r : Run) (nanos : Nat) : Run :=
  { r with fresh := r.fresh + 1, asleep := r.asleep ++ [(r.fresh, r.now + nanos)] }

/-- The clock moves on. -/
def advance (r : Run) (nanos : Nat) : Run := { r with now := r.now + nanos }

/-- The cancellation fires. -/
def cancel (r : Run) : Run := { r with cancelled := true }

/-- How a sleep that goes on ends now, if it does, with its number. -/
def ending? (r : Run) (s : Nat × Nat) : Option (Nat × Bool) :=
  (outcome? r.now s.2 r.cancelled).map (s.1, ·)

/-- Ends the sleeps that have a reason to end. -/
def settle (r : Run) : Run :=
  { r with
    ended := r.ended ++ r.asleep.filterMap r.ending?
    asleep := r.asleep.filter fun s => (r.ending? s).isNone }

end Run

end StationPool.Sleep
