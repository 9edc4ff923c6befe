/-!
# The event bus

A bus keeps the messages published on it in order (`log`) and a cursor for each subscriber: the
number of messages that came before the next one it reads. The last `kept` messages are held; a
subscriber that fell further behind goes on with the oldest message held and loses those before.

Nothing that one subscriber does moves the cursor of another. A closed bus takes no messages; what
it holds can still be read.
-/

namespace StationPool

/-- A bus of messages with named subscribers. -/
structure Bus (α : Type) where
  /-- How many messages are held: a power of two. -/
  kept : Nat
  /-- Every message published, the last one first. -/
  log : List α := []
  /-- The subscribers with the number of messages before the one each reads next. -/
  cursors : List (Nat × Nat) := []
  /-- The number of the next subscriber. -/
  fresh : Nat := 0
  closed : Bool := false

/-- What a subscriber finds. -/
inductive Received (α : Type) where
  | message (a : α)
  /-- Everything held was read; more may come. -/
  | pending
  /-- Everything held was read and the bus is closed. -/
  | ended
  deriving DecidableEq, Repr

namespace Bus

variable {α : Type}

/-- The smallest power of two that is not below `n`. -/
def roundUp (n : Nat) : Nat := if n ≤ 1 then 1 else Nat.pow 2 (Nat.log2 (n - 1) + 1)

/-- A bus for a capacity; a capacity of zero is no capacity. -/
def ofCapacity? (capacity : Nat) : Option (Bus α) :=
  if capacity = 0 then none else some { kept := roundUp capacity }

/-- The number of messages published. -/
def published (b : Bus α) : Nat := b.log.length

/-- A new subscriber, which reads what is published from now on; its number, and the bus. -/
def subscribe (b : Bus α) : Nat × Bus α :=
  (b.fresh, { b with cursors := b.cursors ++ [(b.fresh, b.published)], fresh := b.fresh + 1 })

/-- The bus without a subscriber. -/
def unsubscribe (b : Bus α) (who : Nat) : Bus α :=
  { b with cursors := b.cursors.filter (·.1 != who) }

/-- The number of subscribers. -/
def subscriberCount (b : Bus α) : Nat := b.cursors.length

/-- One more message. -/
def publish (b : Bus α) (a : α) : Bus α := if b.closed then b else { b with log := a :: b.log }

/-- The bus without anyone who could publish. -/
def close (b : Bus α) : Bus α := { b with closed := true }

/-- The cursor of a subscriber. -/
def cursor? (b : Bus α) (who : Nat) : Option Nat := (b.cursors.find? (·.1 == who)).map (·.2)

/-- The place of the message that a cursor reads next: its own, or the oldest one held. -/
def place (b : Bus α) (cursor : Nat) : Nat := Nat.max cursor (b.published - b.kept)

/-- The message at a place in the order of publishing. -/
def at? (b : Bus α) (place : Nat) : Option α :=
  if place < b.published then b.log[b.published - 1 - place]? else none

/-- What a subscriber finds next, and the bus after it took it; none for no subscriber. -/
def receive (b : Bus α) (who : Nat) : Option (Received α × Bus α) :=
  (b.cursor? who).map fun cursor =>
    let place := b.place cursor
    match b.at? place with
    | some a =>
      (.message a, { b with
        cursors := b.cursors.map fun (w, c) => if w = who then (w, place + 1) else (w, c) })
    | none => (if b.closed then .ended else .pending, b)

end Bus

end StationPool
