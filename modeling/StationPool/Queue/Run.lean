import StationPool.Queue.Basic

/-!
# Runs of a send queue

A send queue with a clock, one cancellation for all pushes, and the history of what happened. An
action is one look of one party at the queue; any order of actions is a run.

`settle` lets every waiting push look once, longest first. After it no push can go on without the
clock, the receiver or the cancellation: a slot that a push passes on goes to one behind it.
-/

namespace StationPool.SendQueue

variable {α : Type}

/-- Something that happened at a queue. -/
inductive Happening (α : Type) where
  /-- A push was called. -/
  | pushing (ticket : Nat) (item : α) (timeout : Duration)
  /-- A push ended. -/
  | returned (ticket : Nat) (outcome : Outcome)
  /-- An item was taken out. -/
  | received (item : α)
  deriving DecidableEq

/-- Something that happened at a queue, and when. -/
structure Entry (α : Type) where
  moment : Nat
  what : Happening α
  deriving DecidableEq

/-- A send queue in use. -/
structure Run (α : Type) where
  queue : SendQueue α
  now : Nat := 0
  cancelled : Bool := false
  /-- The ticket of the next push. -/
  fresh : Nat := 0
  /-- What happened, the last first. -/
  history : List (Entry α) := []

/-- One look of one party. -/
inductive Action (α : Type) where
  | push (item : α) (timeout : Duration)
  | resume (ticket : Nat)
  | receive
  | cancel
  | dropReceiver
  /-- The clock moves on by so many nanoseconds. -/
  | advance (nanos : Nat)

namespace Run

/-- A queue of a capacity, before anything happened. -/
def ofCapacity (capacity : Nat) : Run α := { queue := .ofCapacity capacity }

/-- A run of the queue for a capacity, if there is one. -/
def ofCapacity? (capacity : Nat) : Option (Run α) :=
  (SendQueue.ofCapacity? capacity).map fun queue => { queue }

/-- Writes down something that happens now. -/
def note (r : Run α) (what : Happening α) : Run α :=
  { r with history := ⟨r.now, what⟩ :: r.history }

/-- Writes down how a push ended, if it did. -/
def noteOutcome (r : Run α) (ticket : Nat) : Option Outcome → Run α
  | none => r
  | some outcome => r.note (.returned ticket outcome)

/-- A push is called. -/
def push (r : Run α) (item : α) (timeout : Duration) : Run α :=
  let ticket := r.fresh
  let r := { r with fresh := ticket + 1 }.note (.pushing ticket item timeout)
  let (queue, outcome) := r.queue.offer r.now r.cancelled ticket item timeout
  { r with queue }.noteOutcome ticket outcome

/-- A waiting push looks again. -/
def resume (r : Run α) (ticket : Nat) : Run α :=
  let (queue, outcome) := r.queue.resume r.now r.cancelled ticket
  { r with queue }.noteOutcome ticket outcome

/-- The receiver takes the first item, if there is one. -/
def receive (r : Run α) : Run α :=
  match r.queue.receive with
  | none => r
  | some (item, queue) => { r with queue }.note (.received item)

/-- The run after an action. -/
def act (r : Run α) : Action α → Run α
  | .push item timeout => r.push item timeout
  | .resume ticket => r.resume ticket
  | .receive => r.receive
  | .cancel => { r with cancelled := true }
  | .dropReceiver => { r with queue := r.queue.dropReceiver }
  | .advance nanos => { r with now := r.now + nanos }

/-- The runs that some order of actions leads to from an empty queue. -/
inductive Reachable (capacity : Nat) : Run α → Prop where
  | new : Reachable capacity (ofCapacity capacity)
  | act {r : Run α} (a : Action α) : Reachable capacity r → Reachable capacity (r.act a)

/-- Lets every waiting push look once, longest first. -/
def settle (r : Run α) : Run α :=
  (r.queue.blocked.map (·.ticket)).foldl resume r

/-- How a push ended, if it did. -/
def outcome? (r : Run α) (ticket : Nat) : Option Outcome :=
  r.history.findSome? fun e =>
    match e.what with
    | .returned t outcome => if t = ticket then some outcome else none
    | _ => none

end Run

end StationPool.SendQueue
