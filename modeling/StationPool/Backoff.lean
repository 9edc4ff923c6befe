import StationPool.Time.Duration

/-!
# Reconnect backoff

The wait before a reconnect attempt: it starts at `base`, doubles with each attempt and never
exceeds `max`. The factor is a word of 32 bits that saturates, and a product that is no duration
counts as the cap.

`exactNanos` is the same rule in unbounded arithmetic. The two can differ only where the saturated
factor is reached, that is from attempt 33 on.
-/

namespace StationPool

/-- A backoff policy. -/
structure Backoff where
  /-- The wait before the first attempt. -/
  base : Duration
  /-- No wait is longer. -/
  max : Duration
  deriving DecidableEq

namespace Backoff

/-- The policy of a connection that sets none: one second, at most one minute. -/
def standard : Backoff := ⟨.ofSecs 1, .ofSecs 60⟩

/-- The largest factor: what a word of 32 bits holds. -/
def factorLimit : Nat := 4294967295

/-- The number of doublings before an attempt; attempt 0 counts as the first. -/
def doublings (attempt : Nat) : Nat := Nat.max attempt 1 - 1

/-- Two to the number of doublings, as far as a word of 32 bits holds it. -/
def factor (attempt : Nat) : Nat :=
  if doublings attempt < 32 then Nat.pow 2 (doublings attempt) else factorLimit

/-- The wait before an attempt, counted from one. -/
def delay (b : Backoff) (attempt : Nat) : Duration :=
  match b.base.scale? (factor attempt) with
  | none => b.max
  | some d => d.min b.max

/-- The nanoseconds that the rule asks for in unbounded arithmetic. -/
def exactNanos (b : Backoff) (attempt : Nat) : Nat :=
  Nat.min (b.base.nanos * Nat.pow 2 (doublings attempt)) b.max.nanos

end Backoff

end StationPool
