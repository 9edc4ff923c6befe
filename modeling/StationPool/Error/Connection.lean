import StationPool.Error.WebSocket
import StationPool.Lifecycle
import StationPool.Time.Duration

/-!
# Errors of connections, pools and configurations

Each error is a cause with what it is about; `message` words it. `isTransient` tells whether
dialing again may help: it cannot where the TLS material, the request or the endpoint is at fault,
nor where the attempts are used up.
-/

namespace StationPool

/-- An error of a single connection. -/
inductive ConnectionError where
  | notConnected (state : Lifecycle)
  | queueFull (waited : Duration)
  | closed
  | tls (what : String)
  | invalidRequest (what : String)
  | connectTimeout (after : Duration)
  | readTimeout (after : Duration)
  | writeTimeout (after : Duration)
  | keepaliveTimeout (silence : Duration)
  | reconnectExhausted (attempts : UInt32)
  | webSocket (e : WebSocketError)
  | io (e : IoError)
  deriving DecidableEq

namespace ConnectionError

/-- The wording. -/
def message : ConnectionError → String
  | .notConnected s => "Connection is not connected (state: " ++ s.name ++ ")"
  | .queueFull d => "Send queue full, no space within " ++ d.text
  | .closed => "Connection closed"
  | .tls what => "TLS configuration: " ++ what
  | .invalidRequest what => "Invalid connection request: " ++ what
  | .connectTimeout d => "Connect timed out after " ++ d.text
  | .readTimeout d => "No frame received within " ++ d.text
  | .writeTimeout d => "Write timed out after " ++ d.text
  | .keepaliveTimeout d => "Keepalive timed out, peer silent for " ++ d.text
  | .reconnectExhausted n => "Gave up after " ++ toString n.toNat ++ " reconnect attempts"
  | .webSocket e => "WebSocket error: " ++ e.message
  | .io e => "I/O error: " ++ e.message

/-- Whether dialing again may help. -/
def isTransient : ConnectionError → Bool
  | .tls _ | .invalidRequest _ | .reconnectExhausted _ => false
  | .webSocket e => !e.isEndpointFault
  | _ => true

end ConnectionError

/-- Results are equal where both are values or both are errors, and these are equal. -/
instance decidableEqExcept {ε α : Type} [DecidableEq ε] [DecidableEq α] :
    DecidableEq (Except ε α)
  | .ok a, .ok b => decidable_of_iff (a = b) ⟨congrArg _, Except.ok.inj⟩
  | .error a, .error b => decidable_of_iff (a = b) ⟨congrArg _, Except.error.inj⟩
  | .ok _, .error _ => isFalse nofun
  | .error _, .ok _ => isFalse nofun

/-- What a call to a connection comes to. -/
abbrev Outcome := Except ConnectionError Unit

/-- An error of a pool of connections. -/
inductive PoolError where
  | alreadyExists (id : String)
  | notFound (id : String)
  | connection (e : ConnectionError)
  /-- So many of the stations concerned failed. -/
  | partly (failed attempted : Nat)
  deriving DecidableEq

/-- The wording. An error of a connection keeps its own. -/
def PoolError.message : PoolError → String
  | .alreadyExists id => "Already exists: station " ++ id
  | .notFound id => "Not found: station " ++ id
  | .connection e => e.message
  | .partly failed attempted =>
    toString failed ++ " of " ++ toString attempted ++ " stations failed"

/-- An error on the way to a configuration. -/
inductive ConfigError where
  /-- The file cannot be read. -/
  | io (e : IoError)
  /-- The text does not describe a configuration. -/
  | malformed
  /-- The configuration breaks a rule. -/
  | invalid (what : String)
  deriving DecidableEq, Repr

/-- The wording. -/
def ConfigError.message : ConfigError → String
  | .io e => "Config I/O error: " ++ e.message
  | .malformed => "Config parse error"
  | .invalid what => "Invalid config: " ++ what

end StationPool
