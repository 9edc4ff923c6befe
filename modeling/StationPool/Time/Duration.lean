import StationPool.Text.Digits

/-!
# Durations

A length of time in whole nanoseconds, below 2^64 seconds. Sums and products that leave that range
do not exist: `add?` and `scale?` give `none`, and the callers say what then happens (a backoff
stays at its cap, a silence limit that does not exist ends the keepalive task).

`text` is the form that messages show: the largest unit that gives a whole part, then the rest as a
decimal fraction without trailing zeros.

A moment is a number of nanoseconds since the start of a run. A clock that has an end cannot name
every moment (`Horizon`): whoever adds a duration to the present and gets past the end panics.
-/

namespace StationPool

/-- The nanoseconds of 2^64 seconds: the first length that is no duration. -/
def Duration.limit : Nat := 18446744073709551616000000000

/-- A length of time in nanoseconds, below 2^64 seconds. -/
structure Duration where
  nanos : Nat
  inRange : nanos < Duration.limit
  deriving DecidableEq

namespace Duration

/-- The duration of so many nanoseconds, if it is in range. -/
def ofNanos? (n : Nat) : Option Duration :=
  if h : n < limit then some ⟨n, h⟩ else none

/-- A length below the limit is a duration. -/
theorem ofNanos?_eq_some {n : Nat} (h : n < limit) : ofNanos? n = some ⟨n, h⟩ := by
  rw [ofNanos?, dif_pos h]

/-- So many milliseconds; a word of 64 bits is always in range. -/
def ofMillis (n : UInt64) : Duration :=
  ⟨n.toNat * 1000000, by have := n.toNat_lt; unfold limit; omega⟩

/-- So many seconds; a word of 64 bits is always in range. -/
def ofSecs (n : UInt64) : Duration :=
  ⟨n.toNat * 1000000000, by have := n.toNat_lt; unfold limit; omega⟩

/-- Seconds and nanoseconds, where the nanoseconds may fill up further seconds. -/
def ofParts? (secs nanos : Nat) : Option Duration := ofNanos? (secs * 1000000000 + nanos)

/-- The duration of so many nanoseconds, or the longest there is. -/
def clamp (n : Nat) : Duration :=
  ⟨Nat.min n (limit - 1), Nat.lt_of_le_of_lt (Nat.min_le_right n (limit - 1)) (by decide)⟩

/-- No time. -/
def zero : Duration := ⟨0, by decide⟩

instance : Inhabited Duration := ⟨zero⟩

/-- The whole seconds. -/
def secs (d : Duration) : Nat := d.nanos / 1000000000

/-- The nanoseconds beyond the whole seconds. -/
def subsecNanos (d : Duration) : Nat := d.nanos % 1000000000

instance : LE Duration := ⟨fun a b => a.nanos ≤ b.nanos⟩
instance : LT Duration := ⟨fun a b => a.nanos < b.nanos⟩
instance (a b : Duration) : Decidable (a ≤ b) := inferInstanceAs (Decidable (a.nanos ≤ b.nanos))
instance (a b : Duration) : Decidable (a < b) := inferInstanceAs (Decidable (a.nanos < b.nanos))

/-- Durations are compared by their nanoseconds. -/
theorem le_def {a b : Duration} : a ≤ b ↔ a.nanos ≤ b.nanos := Iff.rfl

/-- Durations of as many nanoseconds are equal. -/
theorem ext_nanos {a b : Duration} (h : a.nanos = b.nanos) : a = b := by
  cases a; cases b; simp_all

/-- The sum, if it is in range. -/
def add? (a b : Duration) : Option Duration := ofNanos? (a.nanos + b.nanos)

/-- A sum below the limit exists and is the sum of the nanoseconds. -/
theorem add?_eq_some {a b : Duration} (h : a.nanos + b.nanos < limit) :
    a.add? b = some ⟨a.nanos + b.nanos, h⟩ :=
  ofNanos?_eq_some h

/-- A sum does not exist exactly where it is the limit or more. -/
theorem add?_eq_none_iff {a b : Duration} : a.add? b = none ↔ limit ≤ a.nanos + b.nanos := by
  unfold add? ofNanos?
  split
  · next short => exact iff_of_false nofun (Nat.not_le_of_lt short)
  · next long => exact iff_of_true rfl (Nat.le_of_not_lt long)

/-- The product with a factor, if it is in range. -/
def scale? (d : Duration) (factor : Nat) : Option Duration := ofNanos? (d.nanos * factor)

/-- The shorter of two durations. -/
def min (a b : Duration) : Duration := if a ≤ b then a else b

/-- The shorter of two durations has the fewer nanoseconds. -/
theorem nanos_min (a b : Duration) : (min a b).nanos = Nat.min a.nanos b.nanos := by
  unfold min
  split
  · next h => exact (Nat.min_eq_left h).symm
  · next h => exact (Nat.min_eq_right (Nat.le_of_not_le h)).symm

/-! ## Text -/

/-- A fraction of `width` decimal places after a point, without trailing zeros; nothing if it is
zero. -/
def fractionText (width n : Nat) : List Char :=
  match Text.Digits.trimZeros (Text.Digits.padded width n) with
  | [] => []
  | digits => '.' :: digits

/-- The whole part in a unit of so many places, a fraction without trailing zeros, the unit. -/
def textIn (d : Duration) (places : Nat) (unit : String) : String :=
  String.ofList (Text.Digits.write (d.nanos / Nat.pow 10 places)
    ++ fractionText places (d.nanos % Nat.pow 10 places)) ++ unit

/-- The length in the largest unit that gives a whole part. -/
def text (d : Duration) : String :=
  if 1000000000 ≤ d.nanos then d.textIn 9 "s"
  else if 1000000 ≤ d.nanos then d.textIn 6 "ms"
  else if 1000 ≤ d.nanos then d.textIn 3 "µs"
  else d.textIn 0 "ns"

end Duration

/-! ## Moments -/

/-- How far a clock can count. -/
inductive Horizon where
  /-- Without an end. -/
  | endless
  /-- Up to a last moment. -/
  | last (moment : Nat)
  deriving DecidableEq, Repr

namespace Horizon

/-- Whether a clock can name a moment. -/
def reaches : Horizon → Nat → Bool
  | .endless, _ => true
  | .last end_, moment => moment ≤ end_

/-- The clock of a machine that counts its seconds in a signed word of 64 bits and has run for so
many nanoseconds. -/
def ofUptime (uptime : Nat) : Horizon := .last (9223372036854775807999999999 - uptime)

/-- A clock without an end can name every moment. -/
@[simp] theorem endless_reaches (moment : Nat) : endless.reaches moment = true := rfl

end Horizon

end StationPool
