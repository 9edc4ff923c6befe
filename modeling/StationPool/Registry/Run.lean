import StationPool.Registry

/-!
# Runs of a registry

A registry whose calls overlap. A call that takes connections out goes on until each of their
disconnects has ended, in any order and with any outcome; other calls come in between. A call that
only looks anything up or puts a connection in ends in the step in which it is made.

Everything is written down in `history`, the last first: which connection was put in, which call
disconnects which connection, what came of it, and what each call returned. That a call takes
connections out and begins their disconnects is one step, so nothing is left registered while it is
being disconnected.
-/

namespace StationPool.Registry

/-- Something that happened. -/
inductive Happening (κ : Type) where
  /-- A call put a connection in. -/
  | added (call : Nat) (id : String) (c : κ)
  /-- A call begins to disconnect a connection that it took out. -/
  | disconnecting (call : Nat) (c : κ)
  /-- A disconnect ended. -/
  | disconnected (call : Nat) (c : κ) (outcome : Outcome)
  /-- A call ended. -/
  | returned (call : Nat) (result : Except PoolError Unit)
  deriving DecidableEq

/-- A registry with its calls that go on. -/
structure Run (κ : Type) where
  registry : Registry κ := .empty
  /-- The calls that wait for disconnects, by number. -/
  pending : List (Nat × Takedown κ) := []
  /-- The number of the next call. -/
  fresh : Nat := 0
  /-- What happened, the last first. -/
  history : List (Happening κ) := []

namespace Run

variable {κ : Type}

/-- Writes down what happens. -/
def note (r : Run κ) (what : Happening κ) : Run κ := { r with history := what :: r.history }

/-- A call ends. -/
def answer (r : Run κ) (call : Nat) (result : Except PoolError Unit) : Run κ :=
  r.note (.returned call result)

/-- A call waits for its takedown, or ends if nothing is awaited. -/
def await (r : Run κ) (call : Nat) (t : Takedown κ) : Run κ :=
  match t.result with
  | some result => r.answer call result
  | none => { r with pending := r.pending ++ [(call, t)] }

/-- A call disconnects connections that it has taken out. -/
def takeDown (r : Run κ) (call : Nat) (taken : List κ) (tells : Bool) : Run κ :=
  (taken.foldl (fun r c => r.note (.disconnecting call c)) r).await call (.of taken tells)

/-- A connection is put in. -/
def add (r : Run κ) (id : String) (c : κ) : Run κ :=
  let call := r.fresh
  let r := { r with fresh := call + 1 }
  match r.registry.add id c with
  | .ok registry => ({ r with registry }.note (.added call id c)).answer call (.ok ())
  | .error e => r.answer call (.error e)

/-- The connection of an id is taken out and disconnected. -/
def remove (r : Run κ) (id : String) : Run κ :=
  let call := r.fresh
  let r := { r with fresh := call + 1 }
  match r.registry.remove id with
  | .ok (c, registry) => { r with registry }.takeDown call [c] false
  | .error e => r.answer call (.error e)

/-- Every connection is taken out and disconnected. -/
def disconnectAll (r : Run κ) : Run κ :=
  let call := r.fresh
  let (taken, registry) := r.registry.drain
  { r with fresh := call + 1, registry }.takeDown call taken true

/-- A disconnect that a call waits for ended; none if the call does not wait for it. -/
def ended [BEq κ] (r : Run κ) (call : Nat) (c : κ) (outcome : Outcome) :
    Option (Run κ) :=
  ((r.pending.find? (·.1 == call)).filter (·.2.awaiting.contains c)).map fun (_, t) =>
    ({ r with pending := r.pending.filter (·.1 != call) }.note
      (.disconnected call c outcome)).await call (t.ended c outcome)

/-- What may happen to a registry. -/
inductive Action (κ : Type) where
  | add (id : String) (c : κ)
  | remove (id : String)
  | disconnectAll
  /-- A disconnect that a call waits for ended. -/
  | ended (call : Nat) (c : κ) (outcome : Outcome)

/-- The run after an action; none where the action is not possible. A call has the number
`fresh`. -/
def step [BEq κ] (r : Run κ) : Action κ → Option (Run κ)
  | .add id c => some (r.add id c)
  | .remove id => some (r.remove id)
  | .disconnectAll => some r.disconnectAll
  | .ended call c outcome => r.ended call c outcome

/-- The runs that some order of steps leads to from an empty registry. -/
inductive Reachable [BEq κ] : Run κ → Prop where
  | new : Reachable {}
  | step {r r' : Run κ} (a : Action κ) : Reachable r → r.step a = some r' → Reachable r'

/-- What a call returned, if it ended. -/
def result? (r : Run κ) (call : Nat) : Option (Except PoolError Unit) :=
  r.history.findSome? fun
    | .returned n result => if n = call then some result else none
    | _ => none

end Run

end StationPool.Registry
