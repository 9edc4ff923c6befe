import StationPool.Error.Connection

/-!
# The send queue

A bounded queue in front of a socket. A push takes a slot or waits for one up to its timeout; a slot
that a receive frees goes to the push that has waited longest. A push that was granted a slot and
has not yet used it still holds it, and passes it on if it gives up instead.

`offer` is the first look of a push at the queue, `resume` every later one. Each looks for the
reasons to stop in one order: the cancellation, the loss of the receiver, a slot, the timeout.

The depth counts the slots in use: the waiting items and the slots granted and not yet used.

A word of 64 bits counts the free slots, and three of its bits are flags. Nobody can have a queue of
more slots than the rest of it counts: whoever asks for one panics (`ofCapacity?`).
-/

namespace StationPool

/-- A push that waits for a slot. -/
structure Blocked (α : Type) where
  ticket : Nat
  item : α
  timeout : Duration
  /-- When it gives up. -/
  deadline : Nat
  /-- Whether a slot is held for it. -/
  granted : Bool := false
  deriving DecidableEq

/-- A bounded queue with the pushes that wait for a slot, longest first. -/
structure SendQueue (α : Type) where
  capacity : Nat
  items : List α := []
  blocked : List (Blocked α) := []
  receiverGone : Bool := false
  deriving DecidableEq

namespace SendQueue

variable {α : Type}

/-- A queue of at least one slot. -/
def ofCapacity (capacity : Nat) : SendQueue α := { capacity := Nat.max capacity 1 }

/-- The most slots that a queue can have. -/
def mostSlots : Nat := 2305843009213693951

/-- The queue for a capacity; there is none for more slots than a queue can have. -/
def ofCapacity? (capacity : Nat) : Option (SendQueue α) :=
  if capacity ≤ mostSlots then some (ofCapacity capacity) else none

/-- The slots in use. -/
def depth (q : SendQueue α) : Nat := q.items.length + (q.blocked.filter (·.granted)).length

/-- Gives a slot to the push that has waited longest without one. -/
def grant : List (Blocked α) → List (Blocked α)
  | [] => []
  | b :: rest => if b.granted then b :: grant rest else { b with granted := true } :: rest

/-- The first look of a push: its outcome, or it waits. -/
def offer (q : SendQueue α) (now : Nat) (cancelled : Bool) (ticket : Nat) (item : α)
    (timeout : Duration) : SendQueue α × Option Outcome :=
  if cancelled || q.receiverGone then (q, some (.error .closed))
  else if q.depth < q.capacity then ({ q with items := q.items ++ [item] }, some (.ok ()))
  else if timeout.nanos = 0 then (q, some (.error (.queueFull timeout)))
  else
    ({ q with blocked := q.blocked ++ [⟨ticket, item, timeout, now + timeout.nanos, false⟩] }, none)

/-- The waiting push of a ticket. -/
def waiting? (q : SendQueue α) (ticket : Nat) : Option (Blocked α) :=
  q.blocked.find? (·.ticket == ticket)

/-- The waiting pushes but one. -/
def others (q : SendQueue α) (ticket : Nat) : List (Blocked α) :=
  q.blocked.filter (·.ticket != ticket)

/-- A later look of a waiting push: its outcome, or it goes on waiting. -/
def resume (q : SendQueue α) (now : Nat) (cancelled : Bool) (ticket : Nat) :
    SendQueue α × Option Outcome :=
  match q.waiting? ticket with
  | none => (q, none)
  | some b =>
    if cancelled || q.receiverGone then
      let rest := q.others ticket
      ({ q with blocked := if b.granted then grant rest else rest }, some (.error .closed))
    else if b.granted then
      ({ q with items := q.items ++ [b.item], blocked := q.others ticket }, some (.ok ()))
    else if b.deadline ≤ now then
      ({ q with blocked := q.others ticket }, some (.error (.queueFull b.timeout)))
    else (q, none)

/-- Takes the first item; its slot goes to the push that has waited longest. -/
def receive (q : SendQueue α) : Option (α × SendQueue α) :=
  match q.items with
  | [] => none
  | item :: rest => some (item, { q with items := rest, blocked := grant q.blocked })

/-- The queue without its receiver: what waits in it is lost. -/
def dropReceiver (q : SendQueue α) : SendQueue α := { q with items := [], receiverGone := true }

end SendQueue

end StationPool
