import StationPool.Event.Bus

/-!
# Runs of an event bus

A bus with the history of what its publishers and subscribers did; what a subscriber has received is
read off it (`received`).
-/

namespace StationPool.Bus

variable {α : Type}

/-- Something that happened on a bus. -/
inductive Happening (α : Type) where
  | subscribed (who : Nat)
  | dropped (who : Nat)
  | published (a : α)
  | received (who : Nat) (got : Received α)
  | closed
  deriving DecidableEq

/-- What may be done with a bus. -/
inductive Action (α : Type) where
  | subscribe
  | drop (who : Nat)
  | publish (a : α)
  | receive (who : Nat)
  | close

/-- A bus in use. -/
structure Run (α : Type) where
  bus : Bus α
  /-- What happened, the last first. -/
  history : List (Happening α) := []

namespace Run

/-- The run after an action; none where it is not possible: a closed bus takes neither subscribers
nor messages, and only a subscriber receives. -/
def step (r : Run α) : Action α → Option (Run α)
  | .subscribe =>
    if r.bus.closed then none
    else
      let (who, bus) := r.bus.subscribe
      some ⟨bus, .subscribed who :: r.history⟩
  | .drop who => some ⟨r.bus.unsubscribe who, .dropped who :: r.history⟩
  | .publish a =>
    if r.bus.closed then none else some ⟨r.bus.publish a, .published a :: r.history⟩
  | .receive who =>
    (r.bus.receive who).map fun (got, bus) => ⟨bus, .received who got :: r.history⟩
  | .close => if r.bus.closed then none else some ⟨r.bus.close, .closed :: r.history⟩

/-- The runs that some order of actions leads to from a new bus of a capacity. -/
inductive Reachable (capacity : Nat) : Run α → Prop where
  | new {b : Bus α} : ofCapacity? capacity = some b → Reachable capacity ⟨b, []⟩
  | step {r r' : Run α} (a : Action α) :
      Reachable capacity r → r.step a = some r' → Reachable capacity r'

/-- The messages that a subscriber received, the first first. -/
def received (r : Run α) (who : Nat) : List α :=
  r.history.reverse.filterMap fun
    | .received w (.message a) => if w = who then some a else none
    | _ => none

end Run

end StationPool.Bus
