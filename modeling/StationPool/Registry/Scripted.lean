import StationPool.Registry.Run

/-!
# Scripted stations

Stations without a network, whose state is set by hand and whose calls end at once as they are told
to. They stand in for connections where only the registry is of interest.

A station is named by its place in the list of all stations ever made, so a station that left the
registry can still be looked at. The world carries on a registry's calls: each disconnect that a
call begins ends at once, in the order of the registry.
-/

namespace StationPool

/-- A station whose answers are set by hand. -/
structure Scripted where
  id : String
  state : Lifecycle
  failSend : Bool := false
  failDisconnect : Bool := false
  counters : Counters := {}
  deriving DecidableEq, Repr

namespace Scripted

/-- What a station was asked for. -/
inductive Request where
  | disconnect
  | sent (payload : Bytes)
  deriving DecidableEq, Repr

/-- Every station ever made, what they were asked for, and the registry of some of them. -/
structure World where
  run : Registry.Run Nat := {}
  stations : List Scripted := []
  /-- The requests in order, each with the id of the station. -/
  requests : List (String × Request) := []

/-- The statistics of a station. -/
def stats (s : Scripted) : ConnectionStats :=
  { stationId := s.id, state := s.state, counters := s.counters, reconnectAttempts := 0
    lastError := none, queueDepth := 0 }

namespace World

/-- The state of a station; a place without a station is disconnected. -/
def state (w : World) (place : Nat) : Lifecycle :=
  (w.stations[place]?.map (·.state)).getD .initial

/-- The statistics of a station. -/
def statsOf (w : World) (place : Nat) : ConnectionStats :=
  ((w.stations[place]?).getD ⟨"", .initial, false, false, {}⟩).stats

/-- One more station, at the next place. -/
def make (w : World) (s : Scripted) : Nat × World :=
  (w.stations.length, { w with stations := w.stations ++ [s] })

/-- A station enters a state. -/
def setState (w : World) (place : Nat) (state : Lifecycle) : World :=
  { w with stations := w.stations.modify place fun s => { s with state } }

/-- A send: refused by the script, refused for want of a connection, or counted. -/
def send (payload : Bytes) (place : Nat) (w : World) : Outcome × World :=
  match w.stations[place]? with
  | none => (.error .closed, w)
  | some s =>
    if s.failSend then (.error (.queueFull (.ofMillis 1)), w)
    else if !s.state.isConnected then (.error (.notConnected s.state), w)
    else
      (.ok (),
        { w with
          stations := w.stations.set place { s with counters := s.counters.sent payload.length }
          requests := w.requests ++ [(s.id, .sent payload)] })

/-- A disconnect: the station is closed, whatever it answers. -/
def disconnect (place : Nat) (w : World) : Outcome × World :=
  match w.stations[place]? with
  | none => (.error .closed, w)
  | some s =>
    (if s.failDisconnect then .error .closed else .ok (),
      { w with
        stations := w.stations.set place { s with state := .closed }
        requests := w.requests ++ [(s.id, .disconnect)] })

/-- Ends a disconnect that a call of the registry waits for. -/
def endDisconnect (w : World) (call place : Nat) : World :=
  let (outcome, w) := disconnect place w
  { w with run := (w.run.ended call place outcome).getD w.run }

/-- A call of the registry, with all the disconnects that it waits for; what it returned. -/
def call (w : World) (a : Registry.Run.Action Nat) : Except PoolError Unit × World :=
  let number := w.run.fresh
  let w := { w with run := (w.run.step a).getD w.run }
  let awaited := w.run.pending.flatMap fun (n, t) => t.awaiting.map (n, ·)
  let w := awaited.foldl (fun w (n, place) => w.endDisconnect n place) w
  ((w.run.result? number).getD (.ok ()), w)

/-- A station is made and put into the registry. -/
def add (w : World) (s : Scripted) : Except PoolError Unit × World :=
  let (place, w) := w.make s
  w.call (.add s.id place)

/-- The station of an id, or the error that there is none. -/
def get (w : World) (id : String) : Except PoolError Nat := w.run.registry.get id

/-- A send to every connected station. -/
def broadcast (w : World) (payload : Bytes) : Except PoolError Unit × World :=
  w.run.registry.broadcast w.state send payload w

end World

end Scripted

end StationPool
