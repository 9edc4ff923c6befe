import StationPool.Connection.Basic

/-!
# Dialing

A dial goes through the settings, the TLS material and the handshake, and ends in a new session or
an error. A caller's dial answers the caller; a redial that fails schedules the next one.

A dial retires the installed session when it begins, and again whatever is installed when it
succeeds: of two dials the later one to finish keeps the connection.
-/

namespace StationPool

/-- Whether there are files to read before the handshake: a certificate bundle, or a client
certificate with its key. -/
def Tls.hasFiles (t : Tls) : Bool :=
  t.enabled && (t.caCert.isSome || (t.clientCert.isSome && t.clientKey.isSome))

namespace Connection

/-- Adds a dial at one of its stages. -/
def addDialer (c : Connection) (number : Nat) (byCaller : Bool) (stage : Stage) : Connection :=
  { c with dialers := c.dialers ++ [⟨number, byCaller, stage⟩] }

/-- The connection without a dial. -/
def dropDialer (c : Connection) (number : Nat) : Connection :=
  { c with dialers := c.dialers.filter (·.number != number) }

/-- A dial ends because the connection is going down. -/
def dialClosed (c : Connection) (number : Nat) (byCaller : Bool) : Connection :=
  if byCaller then c.answer number (.error .closed) else c

/-- A dial fails. The error is kept and told; a caller's dial leaves the connection in its error
state, a redial schedules the next. -/
def dialFailed (c : Connection) (number : Nat) (byCaller : Bool) (e : ConnectionError) :
    Connection :=
  if c.cancelled then c.dialClosed number byCaller
  else
    let c := c.fail none e
    if byCaller then (c.enter .error).answer number (.error e) else c.scheduleReconnect

/-- The keeper of a new session: off without a period, and gone at once where the limit of silence
is no duration or the clock cannot name the first tick. -/
def firstKeeper (s : ConnectionSettings) (horizon : Horizon) (now : Nat) : Keeper :=
  if s.keepaliveInterval.nanos = 0 then .off
  else match s.keepaliveInterval.add? s.keepaliveTimeout with
    | none => .stopped
    | some _ =>
      let first := now + s.keepaliveInterval.nanos
      if horizon.reaches first then .ticking first else .stopped

/-- A session that begins now. Its settings are taken to ask for no more slots than a queue can have
(`SendQueue.ofCapacity?`). -/
def newSession (c : Connection) : Session :=
  { lastInbound := c.now
    queue := .ofCapacity c.settings.sendQueueCapacity
    reader := .waiting (c.now + c.settings.readTimeout.nanos)
    keeper := firstKeeper c.settings c.horizon c.now }

/-- Installs a new session in the place of the one before it. -/
def install (c : Connection) : Connection :=
  let number := c.sessions.length
  let previous := c.slot
  let c := { c with
    sessions := c.sessions ++ [c.newSession]
    slot := some number
    counters := { c.counters with connectedAt := true }
    metrics := { c.metrics with active := Metrics.bump 1 c.metrics.active } }
  let c := match previous with
    | none => c
    | some i => c.retire i
  let c := { c with attempts := 0 }
  if c.state.isTerminal then c else (c.enter .connected).tell (some number) .connected

/-- A dial succeeds. -/
def dialDone (c : Connection) (number : Nat) (byCaller : Bool) : Connection :=
  if c.cancelled then c.dialClosed number byCaller
  else
    let c := c.install
    if byCaller then c.answer number (.ok ()) else c

/-- The handshake begins, if the endpoint names a port. -/
def beginHandshake (c : Connection) (number : Nat) (byCaller : Bool) (h : Handshake) :
    Connection :=
  match h.port? with
  | none => c.dialFailed number byCaller (.webSocket (.url .unsupportedScheme))
  | some _ =>
    let deadline := c.now + c.settings.connectTimeout.nanos
    (c.addDialer number byCaller (.handshaking deadline)).note (.dialing number)

/-- A dial begins: the installed session gives way, and the request is made. -/
def beginDial (c : Connection) (number : Nat) (byCaller : Bool) : Connection :=
  if c.cancelled then c.dialClosed number byCaller
  else
    let c := (c.enter .connecting).retireCurrent
    match Handshake.ofSettings c.settings with
    | .error e => c.dialFailed number byCaller e
    | .ok h =>
      if c.settings.tls.hasFiles then c.addDialer number byCaller .loading
      else c.beginHandshake number byCaller h

/-- The dial of a number. -/
def dialer? (c : Connection) (number : Nat) : Option Dialer :=
  c.dialers.find? (·.number == number)

/-- The TLS material was read, or could not be. -/
def loaded (c : Connection) (d : Dialer) (result : Except ConnectionError Unit) : Connection :=
  let c := c.dropDialer d.number
  match result with
  | .error e => c.dialFailed d.number d.byCaller e
  | .ok () =>
    if c.cancelled then c.dialClosed d.number d.byCaller
    else match Handshake.ofSettings c.settings with
      | .error e => c.dialFailed d.number d.byCaller e
      | .ok h => c.beginHandshake d.number d.byCaller h

/-- The handshake came to an end. -/
def dialed (c : Connection) (d : Dialer) (result : Except ConnectionError Unit) : Connection :=
  let c := c.dropDialer d.number
  match result with
  | .error e => c.dialFailed d.number d.byCaller e
  | .ok () => c.dialDone d.number d.byCaller

/-- A look of a dial at the clock and the cancellation: the backoff is over, the handshake took too
long, or the connection is going down. -/
def lookDialer (c : Connection) (d : Dialer) : Option Connection :=
  match d.stage with
  | .sleeping due =>
    if c.cancelled then some (c.dropDialer d.number)
    else if due ≤ c.now then some ((c.dropDialer d.number).beginDial d.number d.byCaller)
    else none
  | .loading => none
  | .handshaking deadline =>
    if c.cancelled then some ((c.dropDialer d.number).dialClosed d.number d.byCaller)
    else if deadline ≤ c.now then
      some ((c.dropDialer d.number).dialFailed d.number d.byCaller
        (.connectTimeout c.settings.connectTimeout))
    else none

end Connection

end StationPool
