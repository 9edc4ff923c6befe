import StationPool.Connection.Session
import StationPool.Event.Basic
import StationPool.Handshake
import StationPool.Stats
import StationPool.Text.Quoted

/-!
# Connections

One station's connection to the central system: what it reports about itself, its sessions (at most
one of them installed), the dials and backoff waits that go on, and the calls that wait.

Everything that happens is written down in `history`, the last first: which calls were made and what
they came to, what the observer was told, which dials began, what arrived on a socket, which frames
a queue accepted and which of them a socket was given and took. The operations below are the pieces
that the steps of a connection are made of; each is one thing that happens without a wait.
-/

namespace StationPool

namespace Connection

/-- Where a dial waits. -/
inductive Stage where
  /-- In a backoff, until it is due. -/
  | sleeping (due : Nat)
  /-- For the TLS material. -/
  | loading
  /-- For the handshake, until a deadline. -/
  | handshaking (deadline : Nat)
  deriving DecidableEq, Repr

/-- A dial that goes on, or waits to begin. -/
structure Dialer where
  /-- For a dial of a caller, the number of the call. -/
  number : Nat
  /-- Whether a caller asked for it; else the connection itself redials. -/
  byCaller : Bool
  stage : Stage
  deriving DecidableEq, Repr

/-- The disconnect that waits for the tasks of a session. -/
structure Teardown where
  call : Nat
  session : Nat
  /-- When it waits no longer. -/
  deadline : Nat
  deriving DecidableEq, Repr

/-- What a caller asks for. -/
inductive Request where
  | connect
  | disconnect
  | send (frame : Frame)
  deriving DecidableEq

/-- Something that happened. -/
inductive Happening where
  /-- A call was made, in a state and with a session installed or none. -/
  | called (call : Nat) (request : Request) (state : Lifecycle) (session : Option Nat)
  /-- The observer was told something, of a session or of a dial. -/
  | observed (session : Option Nat) (what : Observation)
  /-- A call ended. -/
  | returned (call : Nat) (outcome : Outcome)
  /-- A handshake began. -/
  | dialing (dialer : Nat)
  /-- The queue of a session accepted the frame of a call. -/
  | accepted (session call : Nat) (frame : Frame)
  /-- Something arrived on the socket of a session. -/
  | arrived (session : Nat) (item : Inbound)
  /-- The writer of a session gave a frame to the socket. -/
  | handed (session : Nat) (origin : Origin) (frame : Frame)
  /-- The socket of a session took the frame. -/
  | wrote (session : Nat) (origin : Origin) (frame : Frame)
  deriving DecidableEq

/-- Something that happened, and when. -/
structure Entry where
  moment : Nat
  what : Happening
  deriving DecidableEq

/-- What the process counts of a connection; a count that was never touched is absent. -/
structure Metrics where
  active : Option Int := none
  reconnects : Option Nat := none
  messagesReceived : Option Nat := none
  bytesReceived : Option Nat := none
  messagesSent : Option Nat := none
  bytesSent : Option Nat := none
  deriving DecidableEq, Repr

/-- A count that was touched once more. -/
def Metrics.bump {α : Type} [Add α] (amount : α) : Option α → Option α
  | none => some amount
  | some n => some (n + amount)

/-- The counts of two connections together. -/
def Metrics.merge (a b : Metrics) : Metrics :=
  let both {α : Type} [Add α] (x y : Option α) : Option α :=
    match x with
    | none => y
    | some n => y.elim (some n) fun m => some (n + m)
  { active := both a.active b.active
    reconnects := both a.reconnects b.reconnects
    messagesReceived := both a.messagesReceived b.messagesReceived
    bytesReceived := both a.bytesReceived b.bytesReceived
    messagesSent := both a.messagesSent b.messagesSent
    bytesSent := both a.bytesSent b.bytesSent }

end Connection

open Connection in
/-- A connection at a moment. -/
structure Connection where
  settings : ConnectionSettings
  now : Nat := 0
  /-- How far the clock can count. -/
  horizon : Horizon := .endless
  state : Lifecycle := .initial
  counters : Counters := {}
  lastError : Option ConnectionError := none
  /-- The reconnect attempts since the last session was installed. -/
  attempts : UInt32 := 0
  /-- Every session ever installed, by number. -/
  sessions : List Session := []
  /-- The number of the installed session. -/
  slot : Option Nat := none
  /-- Whether the first disconnect has been called. -/
  cancelled : Bool := false
  dialers : List Dialer := []
  teardown : Option Teardown := none
  /-- The number of the next call or redial. -/
  fresh : Nat := 0
  metrics : Metrics := {}
  /-- What happened, the last first. -/
  history : List Entry := []
  deriving DecidableEq

namespace Connection

/-- A connection that was never used. -/
def new (settings : ConnectionSettings) (horizon : Horizon := .endless) : Connection :=
  { settings, horizon }

/-! ## Notes -/

/-- Writes down something that happens now. -/
def note (c : Connection) (what : Happening) : Connection :=
  { c with history := ⟨c.now, what⟩ :: c.history }

/-- Tells the observer. -/
def tell (c : Connection) (session : Option Nat) (what : Observation) : Connection :=
  c.note (.observed session what)

/-- A call is made; it has the number `fresh`. -/
def begin (c : Connection) (request : Request) : Connection :=
  { c with fresh := c.fresh + 1 }.note (.called c.fresh request c.state c.slot)

/-- A call ends. -/
def answer (c : Connection) (call : Nat) (outcome : Outcome) : Connection :=
  c.note (.returned call outcome)

/-- Enters a state, unless the connection is closed. -/
def enter (c : Connection) (next : Lifecycle) : Connection := { c with state := c.state.enter next }

/-- Keeps an error and tells the observer of it. -/
def fail (c : Connection) (session : Option Nat) (e : ConnectionError) : Connection :=
  { c with lastError := some e }.tell session (.failed e)

/-! ## Sessions -/

/-- Changes one session. -/
def modifySession (c : Connection) (i : Nat) (change : Session → Session) : Connection :=
  { c with sessions := c.sessions.modify i change }

/-- Whether the tasks of a session are told to stop: it is over, or the connection is going down. -/
def isCut (c : Connection) (s : Session) : Bool := c.cancelled || s.ended

/-- The books when a session ends: it is marked as over, and the observer is told last. -/
def closeBooks (c : Connection) (i : Nat) : Connection :=
  { c.modifySession i ({ · with ended := true }) with
    counters := { c.counters with disconnectedAt := true }
    metrics := { c.metrics with active := Metrics.bump (-1) c.metrics.active } }

/-- Ends a session that gives way, unless it is over. -/
def retire (c : Connection) (i : Nat) : Connection :=
  match c.sessions[i]? with
  | none => c
  | some s => if s.ended then c else (c.closeBooks i).tell (some i) (.disconnected none)

/-- Takes the installed session out and ends it. -/
def retireCurrent (c : Connection) : Connection :=
  match c.slot with
  | none => c
  | some i => { c with slot := none }.retire i

/-! ## Reconnecting -/

/-- Starts the backoff before the next attempt, or gives up when no attempt is left. -/
def scheduleReconnect (c : Connection) : Connection :=
  if c.settings.maxReconnectAttempts ≤ c.attempts then
    let e := ConnectionError.reconnectExhausted c.attempts
    ({ c with lastError := some e }.enter .error).tell none (.failed e)
  else
    let attempt := c.attempts + 1
    let delay := c.settings.backoff.delay attempt.toNat
    let c := { c with attempts := attempt }
    if c.state.isTerminal then c
    else
      let c := c.enter .reconnecting
      { c with
        metrics := { c.metrics with reconnects := Metrics.bump 1 c.metrics.reconnects }
        dialers := c.dialers ++ [⟨c.fresh, false, .sleeping (c.now + delay.nanos)⟩]
        fresh := c.fresh + 1 }

/-- What follows the end of a session that no newer one has replaced: the observer is told, and the
connection is closed or redials. -/
def afterEnd (c : Connection) (i : Nat) (error : Option ConnectionError) : Connection :=
  let c := c.enter .disconnected
  let c := match error with
    | none => c
    | some e => c.fail (some i) e
  let c := c.tell (some i) (.disconnected error)
  if c.cancelled then c.enter .closed else c.scheduleReconnect

/-- One of its tasks ends a session, unless it is over. A session that a newer one has replaced ends
without a word about the connection. -/
def endSession (c : Connection) (i : Nat) (error : Option ConnectionError) : Connection :=
  match c.sessions[i]? with
  | none => c
  | some s =>
    if s.ended then c
    else
      let c := c.closeBooks i
      match c.slot with
      | some j =>
        if j = i then { c with slot := if c.cancelled then c.slot else none }.afterEnd i error
        else c.tell (some i) (.disconnected error)
      | none => c.afterEnd i error

/-! ## Counting -/

/-- A message came in. -/
def receive (c : Connection) (i : Nat) (payload : Bytes) : Connection :=
  { c with
    counters := c.counters.received payload.length
    metrics := { c.metrics with
      messagesReceived := Metrics.bump 1 c.metrics.messagesReceived
      bytesReceived := Metrics.bump payload.length c.metrics.bytesReceived } }.tell (some i)
    (.message payload)

/-- The socket of a session took a frame; data is counted. -/
def wrote (c : Connection) (i : Nat) (origin : Origin) (frame : Frame) : Connection :=
  let c := c.note (.wrote i origin frame)
  if frame.isControl then c
  else
    { c with
      counters := c.counters.sent frame.size
      metrics := { c.metrics with
        messagesSent := Metrics.bump 1 c.metrics.messagesSent
        bytesSent := Metrics.bump frame.size c.metrics.bytesSent } }

/-! ## Views -/

/-- The frames that wait in the queue of the installed session. -/
def queueDepth (c : Connection) : Nat :=
  ((c.slot.bind (c.sessions[·]?)).map (·.queue.depth)).getD 0

/-- The statistics of the connection. -/
def stats (c : Connection) : ConnectionStats :=
  { stationId := c.settings.stationId
    state := c.state
    counters := c.counters
    reconnectAttempts := c.attempts.toNat
    lastError := c.lastError.map ConnectionError.message
    queueDepth := c.queueDepth }

/-- How a call ended, if it did. -/
def outcome? (c : Connection) (call : Nat) : Option Outcome :=
  c.history.findSome? fun e =>
    match e.what with
    | .returned n outcome => if n = call then some outcome else none
    | _ => none

/-- The connection in one line, for logs. -/
def summary (c : Connection) : String :=
  "Connection \x7b station_id: " ++ Text.Quoted.quote c.settings.stationId ++ ", url: "
    ++ Text.Quoted.quote c.settings.url ++ ", state: " ++ c.state.title ++ " \x7d"

end Connection

end StationPool
