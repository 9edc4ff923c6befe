import StationPool.Backoff
import StationPool.Version

/-!
# Settings of a connection

How a station is dialed and kept alive (`ConnectionSettings`), what a station changes of the pool's
defaults (`StationSettings`), and how the two combine. A station without an endpoint of its own is
dialed at the base URL with its id as the last segment of the path.
-/

namespace StationPool

/-- How a station identifies itself in the handshake. -/
inductive Auth where
  | none
  | basic (username password : String)
  | bearer (token : String)
  deriving DecidableEq, Repr, Inhabited

/-- The material for a TLS connection. -/
structure Tls where
  enabled : Bool := false
  caCert : Option String := none
  clientCert : Option String := none
  clientKey : Option String := none
  insecureSkipVerify : Bool := false
  deriving DecidableEq, Repr, Inhabited

/-- How a station is dialed and kept alive. -/
structure ConnectionSettings where
  stationId : String := ""
  url : String := ""
  /-- Free text; see `Version.ofText`. -/
  protocolVersion : String := Version.standard.number
  connectTimeout : Duration := .ofSecs 10
  readTimeout : Duration := .ofSecs 60
  writeTimeout : Duration := .ofSecs 10
  /-- Zero turns keepalive off. -/
  keepaliveInterval : Duration := .ofSecs 30
  keepaliveTimeout : Duration := .ofSecs 10
  backoff : Backoff := .standard
  maxReconnectAttempts : UInt32 := 10
  sendQueueCapacity : Nat := 100
  sendTimeout : Duration := .ofSecs 5
  tls : Tls := {}
  auth : Auth := .none
  deriving DecidableEq, Inhabited

/-- The subprotocol that the handshake offers. -/
def ConnectionSettings.subprotocol (s : ConnectionSettings) : String :=
  subprotocolFor s.protocolVersion

/-- What one station sets for itself. -/
structure StationSettings where
  stationId : String := ""
  url : Option String := none
  protocolVersion : Option String := none
  auth : Option Auth := none
  tls : Option Tls := none
  deriving DecidableEq, Repr, Inhabited

/-- The text without the slashes it ends with. -/
def dropTrailingSlashes (s : String) : String :=
  String.ofList (s.toList.reverse.dropWhile (· == '/')).reverse

/-- The endpoint of a station: the base URL and its id with one slash between them. -/
def stationUrl (base id : String) : String := dropTrailingSlashes base ++ "/" ++ id

/-- The defaults of a pool with what a station sets for itself. -/
def StationSettings.withDefaults (s : StationSettings) (base : String)
    (defaults : ConnectionSettings) : ConnectionSettings :=
  { defaults with
    stationId := s.stationId
    url := s.url.getD (stationUrl base s.stationId)
    protocolVersion := s.protocolVersion.getD defaults.protocolVersion
    auth := s.auth.getD defaults.auth
    tls := s.tls.getD defaults.tls }

end StationPool
