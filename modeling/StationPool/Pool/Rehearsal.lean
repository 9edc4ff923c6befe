import StationPool.CentralSystem.Rehearsal
import StationPool.Pool.Step

/-!
# Rehearsals of a pool

A pool against a central system, without anything left to chance: after each action the connections
and the calls to the pool go on until nobody can without the clock or the outside.
-/

namespace StationPool.Pool

/-- A pool against a central system. -/
structure Rehearsal where
  pool : Pool
  central : CentralSystem
  /-- What reading a path gives. -/
  read : String → Except IoError Unit

namespace Rehearsal

/-- The connections of the pool with the central system. -/
def links (r : Rehearsal) : StationPool.Rehearsal := ⟨r.pool.connections, r.central, r.read⟩

/-- The pool with its connections after they went on. -/
def withLinks (r : Rehearsal) (l : StationPool.Rehearsal) : Rehearsal :=
  { r with pool := { r.pool with connections := l.connections }, central := l.central }

/-- Lets connections and calls go on until nobody can, for at most so many rounds. -/
def settleFor : Nat → Rehearsal → Rehearsal
  | 0, r => r
  | rounds + 1, r =>
    let (links, moved) := r.links.round
    let r := r.withLinks links
    let r := { r with pool := r.pool.goOnAll }
    if moved then settleFor rounds r else r

/-- Lets connections and calls go on until nobody can. -/
def settle (r : Rehearsal) : Rehearsal := settleFor StationPool.Rehearsal.roundLimit r

/-- An action on the pool, and all that follows from it. -/
def act (r : Rehearsal) (a : Action) : Rehearsal :=
  match r.pool.step a with
  | none => r
  | some pool => { r with pool }.settle

/-- Does something to the open sockets, or to the one of a tag, and all that follows; how many it
was done to. -/
def actOnLinks (r : Rehearsal) (tag : Option String) (a : CentralSystem.Act) : Rehearsal × Nat :=
  let (links, reached) := r.links.act tag a
  ((r.withLinks links).settle, reached)

end Rehearsal

end StationPool.Pool
