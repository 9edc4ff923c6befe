import StationPool.Error.Connection
import StationPool.Settings
import StationPool.Text.Blank
import StationPool.Text.Quoted

/-!
# The runner's configuration

What the runner is told: how to log, where the central system is, the connection defaults, the TLS
material, the time for a shutdown, and the stations. Every section has defaults.

`validate` accepts a configuration whose base URL has a WebSocket scheme, whose send queue holds a
frame, and whose station ids are neither blank nor equal once trimmed; the first broken rule in that
order is reported.
-/

namespace StationPool

namespace AppConfig

/-- How to log. -/
structure Logging where
  level : String := "info"
  json : Bool := false
  deriving DecidableEq, Repr

/-- Where the central system is. -/
structure CentralSystem where
  /-- Station ids are appended as the last segment of its path. -/
  url : String := "ws://localhost:9000/ocpp"
  protocolVersion : String := "1.6"
  deriving DecidableEq, Repr

/-- Connection tuning shared by all stations. -/
structure Defaults where
  connectTimeoutSecs : UInt64 := 10
  readTimeoutSecs : UInt64 := 60
  writeTimeoutSecs : UInt64 := 10
  keepaliveIntervalSecs : UInt64 := 30
  keepaliveTimeoutSecs : UInt64 := 10
  reconnectBaseMs : UInt64 := 1000
  reconnectMaxMs : UInt64 := 60000
  maxReconnectAttempts : UInt32 := 10
  sendQueueCapacity : UInt64 := 100
  sendTimeoutMs : UInt64 := 5000
  deriving DecidableEq, Repr

/-- How the pool is run. -/
structure Runner where
  /-- The time that taking the pool down may need. -/
  shutdownTimeoutSecs : UInt64 := 30
  deriving DecidableEq, Repr

/-- One station. -/
structure Station where
  id : String
  url : Option String := none
  protocolVersion : Option String := none
  /-- None takes over the defaults; `Auth.none` is no credentials. -/
  auth : Option Auth := none
  deriving DecidableEq, Repr

end AppConfig

/-- The configuration of the runner. -/
structure AppConfig where
  logging : AppConfig.Logging := {}
  centralSystem : AppConfig.CentralSystem := {}
  defaults : AppConfig.Defaults := {}
  tls : Tls := {}
  runner : AppConfig.Runner := {}
  stations : List AppConfig.Station := []
  deriving DecidableEq, Repr

namespace AppConfig

/-! ## Validation -/

/-- Whether a URL starts with a WebSocket scheme. -/
def hasWebSocketScheme (url : String) : Bool := url.startsWith "ws://" || url.startsWith "wss://"

/-- The first station id, in order, that is blank or repeats an earlier one. -/
def checkIds (seen : List String) : List Station → Except ConfigError Unit
  | [] => .ok ()
  | s :: rest =>
    let id := Text.trim s.id
    if id.isEmpty then .error (.invalid "station id must not be empty")
    else if seen.contains id then
      .error (.invalid ("duplicate station id " ++ Text.Quoted.quote id))
    else checkIds (id :: seen) rest

/-- Whether the configuration keeps the rules; the first broken one otherwise. -/
def validate (c : AppConfig) : Except ConfigError Unit :=
  let url := Text.trim c.centralSystem.url
  if !hasWebSocketScheme url then
    .error (.invalid
      ("central_system.url must start with ws:// or wss://, got " ++ Text.Quoted.quote url))
  else if c.defaults.sendQueueCapacity = 0 then
    .error (.invalid "defaults.send_queue_capacity must be at least 1")
  else checkIds [] c.stations

/-! ## What the pool is given -/

/-- The settings that every station starts from. -/
def connectionDefaults (c : AppConfig) : ConnectionSettings :=
  let d := c.defaults
  { protocolVersion := c.centralSystem.protocolVersion
    connectTimeout := .ofSecs d.connectTimeoutSecs
    readTimeout := .ofSecs d.readTimeoutSecs
    writeTimeout := .ofSecs d.writeTimeoutSecs
    keepaliveInterval := .ofSecs d.keepaliveIntervalSecs
    keepaliveTimeout := .ofSecs d.keepaliveTimeoutSecs
    backoff := ⟨.ofMillis d.reconnectBaseMs, .ofMillis d.reconnectMaxMs⟩
    maxReconnectAttempts := d.maxReconnectAttempts
    sendQueueCapacity := d.sendQueueCapacity.toNat
    sendTimeout := .ofMillis d.sendTimeoutMs
    tls := c.tls }

/-- What a station sets for itself. -/
def Station.settings (s : Station) : StationSettings :=
  { stationId := Text.trim s.id, url := s.url, protocolVersion := s.protocolVersion
    auth := s.auth }

/-- The stations in order. -/
def stationSettings (c : AppConfig) : List StationSettings := c.stations.map Station.settings

/-- The time that taking the pool down may need. -/
def shutdownTimeout (c : AppConfig) : Duration := .ofSecs c.runner.shutdownTimeoutSecs

end AppConfig

end StationPool
