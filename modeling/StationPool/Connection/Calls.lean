import StationPool.Connection.Dialing

/-!
# Calls to a connection

What callers may ask of a connection: to connect, to disconnect, to send a frame. A call has a
number; it ends at once or waits, and its end is in the history.

The first disconnect takes the connection down for good: it waits for the tasks of the installed
session, at most the time a write may take and a little more. Every later disconnect succeeds at
once.
-/

namespace StationPool.Connection

/-- The time for the tasks of a session beyond the time that a write may take. -/
def teardownSlack : Duration := .ofMillis 250

/-- A caller connects. -/
def connect (c : Connection) : Connection :=
  (c.begin .connect).beginDial c.fresh true

/-- The last act of the first disconnect. -/
def closeDown (c : Connection) (call : Nat) : Connection :=
  ({ c with counters := { c.counters with disconnectedAt := true } }.enter .closed).answer call
    (.ok ())

/-- The first disconnect waits for the tasks of a session. Where the time for them is no duration,
the call goes no further. -/
def awaitTasks (c : Connection) (call session : Nat) : Option Duration → Connection
  | none => c
  | some grace => { c with teardown := some ⟨call, session, c.now + grace.nanos⟩ }

/-- A caller disconnects. -/
def disconnect (c : Connection) : Connection :=
  let call := c.fresh
  let c := c.begin .disconnect
  if c.cancelled then c.answer call (.ok ())
  else
    let session := c.slot
    let c := { c with cancelled := true, slot := none }
    match session with
    | none => c.closeDown call
    | some i => c.awaitTasks call i (c.settings.writeTimeout.add? teardownSlack)

/-- The disconnect goes on after its wait: a session whose tasks were stopped is ended here. -/
def finishTeardown (c : Connection) (t : Teardown) : Connection :=
  ({ c with teardown := none }.retire t.session).closeDown t.call

/-- A look of the disconnect that waits: the tasks have stopped, or they are stopped. -/
def lookTeardown (c : Connection) (t : Teardown) : Option Connection :=
  match c.sessions[t.session]? with
  | none => some (c.finishTeardown t)
  | some s =>
    if s.isQuiet then some (c.finishTeardown t)
    else if t.deadline ≤ c.now then
      some ((c.modifySession t.session Session.abort).finishTeardown t)
    else none

/-- What a push came to: nothing yet, or its outcome with the frame noted if it was accepted. -/
def settlePush (c : Connection) (session call : Nat) (frame : Frame) :
    Option Outcome → Connection
  | none => c
  | some (.ok ()) => (c.note (.accepted session call frame)).answer call (.ok ())
  | some (.error e) => c.answer call (.error e)

/-- A caller sends a frame. -/
def send (c : Connection) (frame : Frame) : Connection :=
  let call := c.fresh
  let c := c.begin (.send frame)
  if !c.state.isConnected then c.answer call (.error (.notConnected c.state))
  else match c.slot with
    | none => c.answer call (.error (.notConnected c.state))
    | some i =>
      match c.sessions[i]? with
      | none => c.answer call (.error (.notConnected c.state))
      | some s =>
        let (queue, outcome) := s.queue.offer c.now (c.isCut s) call frame c.settings.sendTimeout
        (c.modifySession i ({ · with queue })).settlePush i call frame outcome

/-- A look of a send that waits for a slot in the queue of a session. -/
def lookSend (c : Connection) (i : Nat) (s : Session) (call : Nat) : Option Connection :=
  match s.queue.waiting? call with
  | none => none
  | some b =>
    let (queue, outcome) := s.queue.resume c.now (c.isCut s) call
    match outcome with
    | none => none
    | some o => some ((c.modifySession i ({ · with queue })).settlePush i call b.item (some o))

end StationPool.Connection
