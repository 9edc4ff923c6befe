import StationPool.Lifecycle

/-!
# Statistics

The counters of one connection, the snapshot that is taken of them, and the sums over a pool.
Moments are of interest only as set or not, so a counter keeps whether each was set.

A pool's sum starts from nothing and adds one snapshot at a time (`PoolStats.add`).
-/

namespace StationPool

/-- What a connection counts. -/
structure Counters where
  /-- Whether a session was ever installed. -/
  connectedAt : Bool := false
  /-- Whether a session ever ended or the connection was taken down. -/
  disconnectedAt : Bool := false
  /-- Whether a message was ever received. -/
  lastMessageAt : Bool := false
  messagesSent : Nat := 0
  messagesReceived : Nat := 0
  bytesSent : Nat := 0
  bytesReceived : Nat := 0
  deriving DecidableEq, Repr

namespace Counters

/-- A data frame of so many bytes was written. -/
def sent (c : Counters) (bytes : Nat) : Counters :=
  { c with messagesSent := c.messagesSent + 1, bytesSent := c.bytesSent + bytes }

/-- A message of so many bytes came in. -/
def received (c : Counters) (bytes : Nat) : Counters :=
  { c with
    messagesReceived := c.messagesReceived + 1
    bytesReceived := c.bytesReceived + bytes
    lastMessageAt := true }

end Counters

/-- A snapshot of one connection. -/
structure ConnectionStats where
  stationId : String
  state : Lifecycle
  counters : Counters
  reconnectAttempts : Nat
  lastError : Option String
  /-- The frames that waited when the snapshot was taken. -/
  queueDepth : Nat
  deriving DecidableEq, Repr

/-- The sums over a pool. -/
structure PoolStats where
  total : Nat := 0
  connected : Nat := 0
  connecting : Nat := 0
  reconnecting : Nat := 0
  errored : Nat := 0
  messagesSent : Nat := 0
  messagesReceived : Nat := 0
  bytesSent : Nat := 0
  bytesReceived : Nat := 0
  deriving DecidableEq, Repr

namespace PoolStats

/-- One connection more. -/
def add (p : PoolStats) (s : ConnectionStats) : PoolStats :=
  { total := p.total + 1
    connected := p.connected + if s.state = .connected then 1 else 0
    connecting := p.connecting + if s.state = .connecting then 1 else 0
    reconnecting := p.reconnecting + if s.state = .reconnecting then 1 else 0
    errored := p.errored + if s.state = .error then 1 else 0
    messagesSent := p.messagesSent + s.counters.messagesSent
    messagesReceived := p.messagesReceived + s.counters.messagesReceived
    bytesSent := p.bytesSent + s.counters.bytesSent
    bytesReceived := p.bytesReceived + s.counters.bytesReceived }

/-- The sums over a list of snapshots. -/
def ofList (stats : List ConnectionStats) : PoolStats := stats.foldl add {}

end PoolStats

end StationPool
