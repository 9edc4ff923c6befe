import StationPool.Connection.Step
import StationPool.Registry
import StationPool.Text.Blank

/-!
# Pools

The pool of stations: the registry of their connections, the defaults that their settings start
from, and the calls to the pool that go on. Every connection ever made keeps its number, so a
connection that left the registry can still be told of. What happens to the pool itself is written
down in `history`, the last first.

A call to the pool is made of calls to connections. Where it waits for one (`Waiting`), it goes on
in the step in which that one ends. Connections are taken out of the registry before they are
disconnected.
-/

namespace StationPool

namespace Pool

/-- A call to a connection: the connection and the number of the call. -/
abbrev LinkCall := Nat × Nat

/-- What a caller asks of a pool. -/
inductive Request where
  | add (s : StationSettings)
  | remove (id : String)
  | send (id : String) (payload : Bytes)
  /-- A payload for every station that is connected. -/
  | broadcast (payload : Bytes)
  | disconnectAll
  | shutDown
  /-- A station connects again. -/
  | reconnect (id : String)
  deriving DecidableEq

/-- Something that happened. -/
inductive Happening where
  /-- A call was made. -/
  | called (call : Nat) (request : Request)
  /-- A call put a connection into the registry. -/
  | registered (call connection : Nat)
  /-- A call took a connection out of the registry. -/
  | tookOut (call connection : Nat)
  /-- A call ended. -/
  | returned (call : Nat) (result : Except PoolError Unit)
  deriving DecidableEq

/-- What a call to the pool waits for. -/
inductive Waiting where
  /-- A new station: for its first connect. -/
  | connecting (call : LinkCall) (id : String)
  /-- A new station whose connect failed: for the disconnect of what was taken out. -/
  | withdrawing (takedown : Takedown LinkCall) (error : ConnectionError)
  /-- Connections that were taken out: for their disconnects. -/
  | takingDown (takedown : Takedown LinkCall)
  /-- For one call to one connection. -/
  | one (call : LinkCall)
  /-- A broadcast: for one send, before the sends to the rest. -/
  | broadcasting (call : LinkCall) (rest : List Nat) (payload : Bytes) (failed attempted : Nat)
  deriving DecidableEq

end Pool

open Pool in
/-- A pool at a moment. -/
structure Pool where
  /-- The endpoint that stations without one of their own are dialed below. -/
  base : String
  defaults : ConnectionSettings
  now : Nat := 0
  /-- How far the clock can count. -/
  horizon : Horizon := .endless
  /-- Every connection ever made, by number. -/
  connections : List Connection := []
  registry : Registry Nat := .empty
  shutDown : Bool := false
  /-- The number of the next call. -/
  fresh : Nat := 0
  /-- The calls that wait. -/
  waiting : List (Nat × Waiting) := []
  /-- What happened, the last first. -/
  history : List Happening := []

namespace Pool

/-- The state of a connection. -/
def state (p : Pool) (connection : Nat) : Lifecycle :=
  (p.connections[connection]?.map (·.state)).getD .initial

/-- The statistics of a connection. -/
def statsOf (p : Pool) (connection : Nat) : ConnectionStats :=
  ((p.connections[connection]?).getD (.new {})).stats

/-- The settings of a station's connection. -/
def settingsFor (p : Pool) (s : StationSettings) : ConnectionSettings :=
  s.withDefaults p.base p.defaults

/-! ## Calls to connections -/

/-- Makes a call to a connection. -/
def onLink (p : Pool) (connection : Nat) (call : Connection → Connection) : LinkCall × Pool :=
  match p.connections[connection]? with
  | none => ((connection, 0), p)
  | some c =>
    ((connection, c.fresh), { p with connections := p.connections.set connection (call c) })

/-- Makes one call to each of some connections, in order. -/
def onLinks (p : Pool) (call : Connection → Connection) : List Nat → List LinkCall × Pool
  | [] => ([], p)
  | connection :: rest =>
    let (first, p) := p.onLink connection call
    let (others, p) := onLinks p call rest
    (first :: others, p)

/-- How a call to a connection ended, if it did. -/
def outcomeOf (p : Pool) (call : LinkCall) : Option Outcome :=
  (p.connections[call.1]?).bind (·.outcome? call.2)

/-! ## Calls to the pool -/

/-- Writes down what happens. -/
def note (p : Pool) (what : Happening) : Pool := { p with history := what :: p.history }

/-- A call to the pool ends. -/
def finish (p : Pool) (call : Nat) (result : Except PoolError Unit) : Pool :=
  p.note (.returned call result)

/-- A call to the pool waits. -/
def wait (p : Pool) (call : Nat) (w : Waiting) : Pool :=
  { p with waiting := p.waiting ++ [(call, w)] }

/-- A call takes connections out, which leaves a registry, and disconnects them. -/
def takeDown (p : Pool) (call : Nat) (taken : List Nat) (registry : Registry Nat) (tells : Bool) :
    Takedown LinkCall × Pool :=
  let p := taken.foldl (fun p connection => p.note (.tookOut call connection)) { p with registry }
  let (calls, p) := p.onLinks Connection.disconnect taken
  (Takedown.of calls tells, p)

/-- The disconnects of a takedown that have ended are taken off it. -/
def collect (p : Pool) (t : Takedown LinkCall) : Takedown LinkCall :=
  t.awaiting.foldl
    (fun t link =>
      match p.outcomeOf link with
      | none => t
      | some outcome => t.ended link outcome)
    t

/-! ### Going on

Each of these is a call to the pool at the point where it waits: it ends or goes on if what it waits
for has ended, else it waits. -/

/-- For connections that were taken out. -/
def goOnTakingDown (p : Pool) (call : Nat) (t : Takedown LinkCall) : Pool :=
  match (p.collect t).result with
  | some result => p.finish call result
  | none => p.wait call (.takingDown t)

/-- For the station that was taken out after its first connect failed. -/
def goOnWithdrawing (p : Pool) (call : Nat) (t : Takedown LinkCall) (e : ConnectionError) : Pool :=
  match (p.collect t).result with
  | some _ => p.finish call (.error (.connection e))
  | none => p.wait call (.withdrawing t e)

/-- A new station whose connect failed is taken out again, if its id is still registered. -/
def withdraw (p : Pool) (call : Nat) (id : String) (e : ConnectionError) : Pool :=
  match p.registry.remove id with
  | .error _ => p.finish call (.error (.connection e))
  | .ok (connection, registry) =>
    let (takedown, p) := p.takeDown call [connection] registry false
    p.goOnWithdrawing call takedown e

/-- For the first connect of a new station. -/
def goOnConnecting (p : Pool) (call : Nat) (link : LinkCall) (id : String) : Pool :=
  match p.outcomeOf link with
  | none => p.wait call (.connecting link id)
  | some (.ok ()) => p.finish call (.ok ())
  | some (.error e) => p.withdraw call id e

/-- For one call to one connection. -/
def goOnOne (p : Pool) (call : Nat) (link : LinkCall) : Pool :=
  match p.outcomeOf link with
  | none => p.wait call (.one link)
  | some outcome => p.finish call (outcome.mapError .connection)

/-- The sends of a broadcast that are left, one after the other. -/
def broadcastTo (p : Pool) (call : Nat) (payload : Bytes) (failed attempted : Nat) :
    List Nat → Pool
  | [] => p.finish call (Registry.summary failed attempted)
  | connection :: rest =>
    let (link, p) := p.onLink connection (·.send (.data payload))
    match p.outcomeOf link with
    | none => p.wait call (.broadcasting link rest payload failed attempted)
    | some outcome =>
      broadcastTo p call payload (failed + if outcome.toOption.isNone then 1 else 0) attempted rest

/-- For a send of a broadcast. -/
def goOnBroadcasting (p : Pool) (call : Nat) (link : LinkCall) (rest : List Nat) (payload : Bytes)
    (failed attempted : Nat) : Pool :=
  match p.outcomeOf link with
  | none => p.wait call (.broadcasting link rest payload failed attempted)
  | some outcome =>
    p.broadcastTo call payload (failed + if outcome.toOption.isNone then 1 else 0) attempted rest

/-- For whatever a call waits for. -/
def goOn (p : Pool) (call : Nat) : Waiting → Pool
  | .connecting link id => p.goOnConnecting call link id
  | .withdrawing takedown e => p.goOnWithdrawing call takedown e
  | .takingDown takedown => p.goOnTakingDown call takedown
  | .one link => p.goOnOne call link
  | .broadcasting link rest payload failed attempted =>
    p.goOnBroadcasting call link rest payload failed attempted

/-- Every call that waits goes on if it can. -/
def goOnAll (p : Pool) : Pool :=
  p.waiting.foldl (fun p (call, w) => p.goOn call w) { p with waiting := [] }

/-! ### Beginnings -/

/-- A new station: it is registered, then connected. A pool that was shut down takes none, and
neither a blank id nor an id that is taken makes one. -/
def add (p : Pool) (call : Nat) (s : StationSettings) : Pool :=
  if p.shutDown then p.finish call (.error (.connection .closed))
  else if Text.isBlankText s.stationId then
    p.finish call (.error (.connection (.invalidRequest "empty station id")))
  else
    let number := p.connections.length
    match p.registry.add s.stationId number with
    | .error e => p.finish call (.error e)
    | .ok registry =>
      let new := { Connection.new (p.settingsFor s) p.horizon with now := p.now }
      let p := { p with registry, connections := p.connections ++ [new] }
      let (link, p) := (p.note (.registered call number)).onLink number Connection.connect
      p.goOnConnecting call link s.stationId

/-- A station is taken out and disconnected. -/
def remove (p : Pool) (call : Nat) (id : String) : Pool :=
  match p.registry.remove id with
  | .error e => p.finish call (.error e)
  | .ok (connection, registry) =>
    let (takedown, p) := p.takeDown call [connection] registry false
    p.goOnTakingDown call takedown

/-- Every station is taken out and disconnected. -/
def disconnectAll (p : Pool) (call : Nat) : Pool :=
  let (taken, registry) := p.registry.drain
  let (takedown, p) := p.takeDown call taken registry true
  p.goOnTakingDown call takedown

/-- The pool is shut down; it does nothing more the second time. -/
def shut (p : Pool) (call : Nat) : Pool :=
  if p.shutDown then p.finish call (.ok ()) else { p with shutDown := true }.disconnectAll call

/-- A payload for one station. -/
def send (p : Pool) (call : Nat) (id : String) (payload : Bytes) : Pool :=
  match p.registry.get id with
  | .error e => p.finish call (.error e)
  | .ok connection =>
    let (link, p) := p.onLink connection (·.send (.data payload))
    p.goOnOne call link

/-- A station connects again. -/
def reconnect (p : Pool) (call : Nat) (id : String) : Pool :=
  match p.registry.get id with
  | .error e => p.finish call (.error e)
  | .ok connection =>
    let (link, p) := p.onLink connection Connection.connect
    p.goOnOne call link

/-- A payload for every station that is connected now. -/
def broadcast (p : Pool) (call : Nat) (payload : Bytes) : Pool :=
  let targets := (p.registry.connected p.state).map (·.2)
  p.broadcastTo call payload 0 targets.length targets

/-- A call is made; it has the number `fresh`. -/
def begin (p : Pool) (request : Request) : Pool :=
  let call := p.fresh
  let p := { p with fresh := call + 1 }.note (.called call request)
  match request with
  | .add s => p.add call s
  | .remove id => p.remove call id
  | .send id payload => p.send call id payload
  | .broadcast payload => p.broadcast call payload
  | .disconnectAll => p.disconnectAll call
  | .shutDown => p.shut call
  | .reconnect id => p.reconnect call id

/-! ## Views -/

/-- How a call ended, if it did. -/
def result? (p : Pool) (call : Nat) : Option (Except PoolError Unit) :=
  p.history.findSome? fun
    | .returned n result => if n = call then some result else none
    | _ => none

/-- The ids in ascending order. -/
def ids (p : Pool) : List String := p.registry.ids

/-- The ids of the stations that are connected, in ascending order. -/
def connectedIds (p : Pool) : List String := p.registry.connectedIds p.state

/-- The state of a station, if it is registered. -/
def stateOf? (p : Pool) (id : String) : Option Lifecycle := (p.registry.get? id).map p.state

/-- The statistics of a station, if it is registered. -/
def stats? (p : Pool) (id : String) : Option ConnectionStats := (p.registry.get? id).map p.statsOf

/-- The statistics of every station. -/
def allStats (p : Pool) : List (String × ConnectionStats) := p.registry.stats p.statsOf

/-- The sums over all stations. -/
def aggregate (p : Pool) : PoolStats := p.registry.poolStats p.statsOf

/-- What the process counts of all connections ever made. -/
def metrics (p : Pool) : Connection.Metrics :=
  p.connections.foldl (fun m c => m.merge c.metrics) {}

end Pool

end StationPool
