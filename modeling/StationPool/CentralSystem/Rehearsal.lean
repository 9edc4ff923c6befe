import StationPool.CentralSystem.Basic
import StationPool.CentralSystem.Files

/-!
# Rehearsals

Connections, a central system and a file system together, without anything left to chance: `settle`
lets everybody go on until nobody can without the clock, a caller or an act of the central system.

A round answers the dials of every connection, lets it look, and takes what its writers write. That
the network has no route is known at once; any other answer takes some time, so it does not come to
a dial that has none. Rounds are bounded by a number; a connection that redials without a wait is
cut off there.
-/

namespace StationPool

/-- Connections against a central system. -/
structure Rehearsal where
  connections : List Connection := []
  central : CentralSystem
  /-- What reading a path gives. -/
  read : String → Except IoError Unit

namespace Rehearsal

/-- Tries an action on a connection, and tells whether it was possible. -/
def attempt (r : Rehearsal) (i : Nat) (a : Connection.Action) : Rehearsal × Bool :=
  match (r.connections[i]?).bind (·.step a) with
  | none => (r, false)
  | some c => ({ r with connections := r.connections.set i c }, true)

/-- Puts items into the inbox of a session. -/
def arrive (r : Rehearsal) (connection session : Nat) (items : List Inbound) : Rehearsal :=
  items.foldl (fun r item => (r.attempt connection (.arrive session item)).1) r

/-- Tries actions in order. -/
def attemptAll (r : Rehearsal × Bool) (i : Nat) (actions : List Connection.Action) :
    Rehearsal × Bool :=
  actions.foldl
    (fun (r, moved) a =>
      let (r, did) := r.attempt i a
      (r, moved || did)) r

/-- Answers one dial of a connection, if it waits for an answer. -/
def serveDial (r : Rehearsal × Bool) (i : Nat) (c : Connection) (d : Connection.Dialer) :
    Rehearsal × Bool :=
  match d.stage with
  | .sleeping _ => r
  | .loading => attemptAll r i [.load d.number (c.settings.tls.load r.1.read)]
  | .handshaking deadline =>
    if r.1.central.routed && deadline ≤ c.now then r
    else
      match Handshake.ofSettings c.settings with
      | .error _ => r
      | .ok h =>
        let sessions := (r.1.connections[i]?.map (·.sessions.length)).getD 0
        let (central, outcome) := r.1.central.answerDial i d.number sessions h
        let next := ({ r.1 with central }, r.2)
        match outcome with
        | none => next
        | some result => attemptAll next i [.dial d.number (result.mapError .webSocket)]

/-- Takes what the writer of a session writes, and notices that both its tasks have let go. -/
def serveLink (r : Rehearsal × Bool) (n : Nat) : Rehearsal × Bool :=
  match r.1.central.links[n]? with
  | none => r
  | some l =>
    match (r.1.connections[l.connection]?).bind (·.sessions[l.session]?) with
    | none => r
    | some s =>
      match s.writer with
      | .writing _ frame _ =>
        let (central, answer, items) := r.1.central.takeFrame n l frame
        let next := ({ r.1 with central }, r.2)
        match answer with
        | none => next
        | some result =>
          let next := attemptAll next l.connection [.socket l.session result]
          (next.1.arrive l.connection l.session items, next.2)
      | .closing _ =>
        attemptAll ({ r.1 with central := r.1.central.takeClose n l }, r.2) l.connection
          [.socket l.session (.ok ())]
      | .idle => r
      | .stopped =>
        if s.reader == .stopped then ({ r.1 with central := r.1.central.hangUp n }, r.2) else r

/-- Everybody goes on once; whether anybody did. -/
def round (r : Rehearsal) : Rehearsal × Bool :=
  let r := (List.range r.connections.length).foldl
    (fun r i =>
      match r.1.connections[i]? with
      | none => r
      | some c =>
        let r := c.dialers.foldl (fun r d => serveDial r i c d) r
        match r.1.connections[i]? with
        | none => r
        | some c => attemptAll r i c.looks)
    (r, false)
  (List.range r.1.central.links.length).foldl serveLink r

/-- Lets everybody go on until nobody can, for at most so many rounds. -/
def settleFor : Nat → Rehearsal → Rehearsal
  | 0, r => r
  | rounds + 1, r =>
    let (r, moved) := r.round
    if moved then settleFor rounds r else r

/-- The bound on the rounds of one settling. -/
def roundLimit : Nat := 100000

/-- Lets everybody go on until nobody can. -/
def settle (r : Rehearsal) : Rehearsal := settleFor roundLimit r

/-- The clock of every connection moves on. -/
def advance (r : Rehearsal) (nanos : Nat) : Rehearsal :=
  { r with connections := r.connections.map fun c => { c with now := c.now + nanos } }

/-- Does something to the open sockets, or to the one of a tag; how many it was done to. -/
def act (r : Rehearsal) (tag : Option String) (a : CentralSystem.Act) : Rehearsal × Nat :=
  (List.range r.central.links.length).foldl
    (fun (r, reached) n =>
      match r.central.links[n]? with
      | none => (r, reached)
      | some l =>
        if l.isOpen && tag.all (· == l.tag) then
          let (central, items) := r.central.act n l a
          ({ r with central }.arrive l.connection l.session items, reached + 1)
        else (r, reached))
    (r, 0)

end Rehearsal

end StationPool
