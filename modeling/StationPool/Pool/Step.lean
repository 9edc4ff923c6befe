import StationPool.Pool.Basic

/-!
# Steps of a pool

What may happen to a pool, one thing at a time: a caller calls, one of the connections takes a step
of its own, or the clock moves on. A connection takes calls from the pool only. Where a step of a
connection ends a call of the pool to it, the pool's caller goes on in the same step, up to the next
point where it has to wait.
-/

namespace StationPool.Pool

/-- What may happen to a pool. -/
inductive Action where
  | call (request : Request)
  /-- A connection takes a step that is no call. -/
  | link (connection : Nat) (a : Connection.Action)
  /-- The clock moves on by so many nanoseconds. -/
  | advance (nanos : Nat)

/-- Whether an action on a connection is a call. -/
def isCall : Connection.Action → Bool
  | .connect | .disconnect | .send _ => true
  | _ => false

/-- Whether an action on a connection moves the clock. -/
def movesClock : Connection.Action → Bool
  | .advance _ => true
  | _ => false

/-- A step of one connection, and of the callers that it lets go on. -/
def linkStep (p : Pool) (connection : Nat) (a : Connection.Action) : Option Pool :=
  if isCall a || movesClock a then none
  else ((p.connections[connection]?).bind (·.step a)).map fun c =>
    { p with connections := p.connections.set connection c }.goOnAll

/-- The pool after an action; none where the action is not possible. -/
def step (p : Pool) : Action → Option Pool
  | .call request => some (p.begin request)
  | .link connection a => p.linkStep connection a
  | .advance nanos =>
    some { p with
      now := p.now + nanos
      connections := p.connections.map fun c => { c with now := c.now + nanos } }

/-- The pools that some order of steps leads to from a new one, whatever its clock. -/
inductive Reachable (base : String) (defaults : ConnectionSettings) : Pool → Prop where
  | new {horizon : Horizon} : Reachable base defaults { base, defaults, horizon }
  | step {p p' : Pool} (a : Action) :
      Reachable base defaults p → p.step a = some p' → Reachable base defaults p'

end StationPool.Pool
