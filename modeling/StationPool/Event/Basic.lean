import StationPool.Error.Connection
import StationPool.Text.Utf8
import StationPool.Time.Timestamp

/-!
# Events

What the pool tells the outside about its stations. A connection reports to its observer
(`Observation`); on the bus an observation becomes an event with a moment (`Event`), and an event
travels in a message with an id and a moment of its own (`EventMessage`).

Errors travel as text, and payloads as text too: bytes that are no text show as U+FFFD, one for each
ill-formed part, beside the true number of bytes.
-/

namespace StationPool

/-- What a connection reports to its observer. -/
inductive Observation where
  /-- A session was installed. -/
  | connected
  /-- A session ended, orderly or by an error. -/
  | disconnected (error : Option ConnectionError)
  /-- A message came in. -/
  | message (payload : Bytes)
  /-- Something failed. -/
  | failed (error : ConnectionError)
  deriving DecidableEq

/-- What an event says. -/
inductive Occurrence where
  | stationConnected
  | stationDisconnected (reason : Option String)
  | messageReceived (payload : String) (bytes : Nat)
  | stationError (message : String) (transient : Bool)
  deriving DecidableEq, Repr

/-- Something that happened to a station. -/
structure Event where
  stationId : String
  what : Occurrence
  timestamp : Timestamp
  deriving DecidableEq

/-- An event on its way, with an id. -/
structure EventMessage where
  id : String
  timestamp : Timestamp
  event : Event
  deriving DecidableEq

/-- The name that consumers select events by. -/
def Event.kind (e : Event) : String :=
  match e.what with
  | .stationConnected => "station_connected"
  | .stationDisconnected _ => "station_disconnected"
  | .messageReceived .. => "message_received"
  | .stationError .. => "station_error"

/-- What an observation says on the bus. -/
def Observation.occurrence : Observation → Occurrence
  | .connected => .stationConnected
  | .disconnected error => .stationDisconnected (error.map ConnectionError.message)
  | .message payload => .messageReceived (Text.Utf8.lossy payload) payload.length
  | .failed error => .stationError error.message error.isTransient

/-- The event that tells of an observation at a station. -/
def Observation.event (o : Observation) (stationId : String) (moment : Timestamp) : Event :=
  ⟨stationId, o.occurrence, moment⟩

end StationPool
