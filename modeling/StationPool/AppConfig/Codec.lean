import StationPool.AppConfig.Basic
import StationPool.Json.Basic
import StationPool.Text.Utf8
import StationPool.Toml.Document

/-!
# Configurations as data

A configuration as a JSON value, and back from JSON or TOML. Writing gives every field; reading
fills in what is left out, ignores what it does not know, and refuses a value of the wrong kind or
out of range. Null stands for an absent option and for nothing else.

A record may also be written as a list of its fields in order, cut off anywhere behind the last
field that has no default. What happens to further items is the one difference between the two
formats (`Surplus`).
-/

namespace StationPool.AppConfig

/-- What a reader does with the items of a list beyond the fields of the record it stands for. -/
inductive Surplus where
  | refused
  | ignored
  deriving DecidableEq, Repr

/-! ## Writing -/

/-- Credentials, told apart by the member `type`. -/
def encodeAuth : Auth → Json
  | .none => .obj [("type", .str "none")]
  | .basic username password =>
    .obj [("type", .str "basic"), ("username", .str username), ("password", .str password)]
  | .bearer token => .obj [("type", .str "bearer"), ("token", .str token)]

/-- One station. -/
def Station.encode (s : Station) : Json :=
  .obj [("id", .str s.id), ("url", .ofOption s.url),
    ("protocol_version", .ofOption s.protocolVersion),
    ("auth", (s.auth.map encodeAuth).getD .null)]

/-- A word of 64 bits. -/
def encodeWord (n : UInt64) : Json := .int n.toNat

/-- The connection defaults. -/
def Defaults.encode (d : Defaults) : Json :=
  .obj [("connect_timeout_secs", encodeWord d.connectTimeoutSecs),
    ("read_timeout_secs", encodeWord d.readTimeoutSecs),
    ("write_timeout_secs", encodeWord d.writeTimeoutSecs),
    ("keepalive_interval_secs", encodeWord d.keepaliveIntervalSecs),
    ("keepalive_timeout_secs", encodeWord d.keepaliveTimeoutSecs),
    ("reconnect_base_ms", encodeWord d.reconnectBaseMs),
    ("reconnect_max_ms", encodeWord d.reconnectMaxMs),
    ("max_reconnect_attempts", .int d.maxReconnectAttempts.toNat),
    ("send_queue_capacity", encodeWord d.sendQueueCapacity),
    ("send_timeout_ms", encodeWord d.sendTimeoutMs)]

/-- The TLS material. -/
def encodeTls (t : Tls) : Json :=
  .obj [("enabled", .bool t.enabled), ("ca_cert", .ofOption t.caCert),
    ("client_cert", .ofOption t.clientCert), ("client_key", .ofOption t.clientKey),
    ("insecure_skip_verify", .bool t.insecureSkipVerify)]

/-- How to log. -/
def Logging.encode (l : Logging) : Json := .obj [("level", .str l.level), ("json", .bool l.json)]

/-- Where the central system is. -/
def CentralSystem.encode (s : CentralSystem) : Json :=
  .obj [("url", .str s.url), ("protocol_version", .str s.protocolVersion)]

/-- How the pool is run. -/
def Runner.encode (r : Runner) : Json :=
  .obj [("shutdown_timeout_secs", encodeWord r.shutdownTimeoutSecs)]

/-- The whole configuration, every field written out. -/
def encode (c : AppConfig) : Json :=
  .obj [("logging", c.logging.encode), ("central_system", c.centralSystem.encode),
    ("defaults", c.defaults.encode), ("tls", encodeTls c.tls), ("runner", c.runner.encode),
    ("stations", .arr (c.stations.map Station.encode))]

/-! ## Reading -/

/-- The fields of a record in order, each absent or given: from an object by name, from a list by
position. -/
def fields? (surplus : Surplus) (names : List String) : Json → Option (List (Option Json))
  | .obj members => some (names.map (Json.lookup · members))
  | .arr items =>
    if names.length < items.length ∧ surplus = .refused then none
    else some ((List.range names.length).map (items[·]?))
  | _ => none

/-- A field with a default: an absent one has it, a given one is read. -/
def fieldOr {α : Type} (default : α) (read : Json → Option α) : Option Json → Option α
  | none => some default
  | some j => read j

/-- A word of 64 bits. -/
def word64? : Json → Option UInt64
  | .int n => if 0 ≤ n ∧ n < 18446744073709551616 then some (UInt64.ofNat n.toNat) else none
  | _ => none

/-- A word of 32 bits. -/
def word32? : Json → Option UInt32
  | .int n => if 0 ≤ n ∧ n < 4294967296 then some (UInt32.ofNat n.toNat) else none
  | _ => none

/-- Null for an absent value, else what a reader makes of it. -/
def option? {α : Type} (read : Json → Option α) : Json → Option (Option α)
  | .null => some none
  | j => (read j).map some

/-- Credentials: a record told apart by `type`, or a list of exactly the kind and its fields. -/
def decodeAuth? : Json → Option Auth
  | .obj members =>
    let text (name : String) : Option String := (Json.lookup name members).bind Json.str?
    match text "type" with
    | some "none" => some .none
    | some "basic" => do some (.basic (← text "username") (← text "password"))
    | some "bearer" => (text "token").map .bearer
    | _ => none
  | .arr [.str "none"] => some .none
  | .arr [.str "basic", .str username, .str password] => some (.basic username password)
  | .arr [.str "bearer", .str token] => some (.bearer token)
  | _ => none

/-- A record: its fields, put together. -/
def record? {α : Type} (surplus : Surplus) (names : List String)
    (ofFields? : List (Option Json) → Option α) (j : Json) : Option α :=
  (fields? surplus names j).bind ofFields?

/-- The fields of a station, in order. -/
def Station.names : List String := ["id", "url", "protocol_version", "auth"]

/-- One station; the id has no default. -/
def Station.ofFields? : List (Option Json) → Option Station
  | [some id, url, version, auth] => do
    some
      { id := ← id.str?
        url := ← fieldOr none (option? Json.str?) url
        protocolVersion := ← fieldOr none (option? Json.str?) version
        auth := ← fieldOr none (option? decodeAuth?) auth }
  | _ => none

/-- One station. -/
def Station.decode? (surplus : Surplus) (j : Json) : Option Station :=
  record? surplus Station.names Station.ofFields? j

/-- The fields of how to log, in order. -/
def Logging.names : List String := ["level", "json"]

/-- How to log, from its fields. -/
def Logging.ofFields? : List (Option Json) → Option Logging
  | [level, json] => do
    some { level := ← fieldOr "info" Json.str? level, json := ← fieldOr false Json.bool? json }
  | _ => none

/-- How to log. -/
def Logging.decode? (surplus : Surplus) (j : Json) : Option Logging :=
  record? surplus Logging.names Logging.ofFields? j

/-- The fields of where the central system is, in order. -/
def CentralSystem.names : List String := ["url", "protocol_version"]

/-- Where the central system is, from its fields. -/
def CentralSystem.ofFields? : List (Option Json) → Option CentralSystem
  | [url, version] => do
    let standard : CentralSystem := {}
    some
      { url := ← fieldOr standard.url Json.str? url
        protocolVersion := ← fieldOr standard.protocolVersion Json.str? version }
  | _ => none

/-- Where the central system is. -/
def CentralSystem.decode? (surplus : Surplus) (j : Json) : Option CentralSystem :=
  record? surplus CentralSystem.names CentralSystem.ofFields? j

/-- The fields of the connection defaults, in order. -/
def Defaults.names : List String :=
  ["connect_timeout_secs", "read_timeout_secs", "write_timeout_secs", "keepalive_interval_secs",
    "keepalive_timeout_secs", "reconnect_base_ms", "reconnect_max_ms", "max_reconnect_attempts",
    "send_queue_capacity", "send_timeout_ms"]

/-- The connection defaults, from their fields. -/
def Defaults.ofFields? : List (Option Json) → Option Defaults
  | [connect, read, write, interval, timeout, base, max, attempts, capacity, send] => do
    let d : Defaults := {}
    some
      { connectTimeoutSecs := ← fieldOr d.connectTimeoutSecs word64? connect
        readTimeoutSecs := ← fieldOr d.readTimeoutSecs word64? read
        writeTimeoutSecs := ← fieldOr d.writeTimeoutSecs word64? write
        keepaliveIntervalSecs := ← fieldOr d.keepaliveIntervalSecs word64? interval
        keepaliveTimeoutSecs := ← fieldOr d.keepaliveTimeoutSecs word64? timeout
        reconnectBaseMs := ← fieldOr d.reconnectBaseMs word64? base
        reconnectMaxMs := ← fieldOr d.reconnectMaxMs word64? max
        maxReconnectAttempts := ← fieldOr d.maxReconnectAttempts word32? attempts
        sendQueueCapacity := ← fieldOr d.sendQueueCapacity word64? capacity
        sendTimeoutMs := ← fieldOr d.sendTimeoutMs word64? send }
  | _ => none

/-- The connection defaults. -/
def Defaults.decode? (surplus : Surplus) (j : Json) : Option Defaults :=
  record? surplus Defaults.names Defaults.ofFields? j

/-- The fields of the TLS material, in order. -/
def tlsNames : List String :=
  ["enabled", "ca_cert", "client_cert", "client_key", "insecure_skip_verify"]

/-- The TLS material, from its fields. -/
def tlsOfFields? : List (Option Json) → Option Tls
  | [enabled, ca, cert, key, insecure] => do
    some
      { enabled := ← fieldOr false Json.bool? enabled
        caCert := ← fieldOr none (option? Json.str?) ca
        clientCert := ← fieldOr none (option? Json.str?) cert
        clientKey := ← fieldOr none (option? Json.str?) key
        insecureSkipVerify := ← fieldOr false Json.bool? insecure }
  | _ => none

/-- The TLS material. -/
def decodeTls? (surplus : Surplus) (j : Json) : Option Tls :=
  record? surplus tlsNames tlsOfFields? j

/-- The fields of how the pool is run. -/
def Runner.names : List String := ["shutdown_timeout_secs"]

/-- How the pool is run, from its fields. -/
def Runner.ofFields? : List (Option Json) → Option Runner
  | [secs] => do
    let standard : Runner := {}
    some { shutdownTimeoutSecs := ← fieldOr standard.shutdownTimeoutSecs word64? secs }
  | _ => none

/-- How the pool is run. -/
def Runner.decode? (surplus : Surplus) (j : Json) : Option Runner :=
  record? surplus Runner.names Runner.ofFields? j

/-- The stations. -/
def stations? (surplus : Surplus) : Json → Option (List Station)
  | .arr items => items.mapM (Station.decode? surplus)
  | _ => none

/-- The sections of a configuration, in order. -/
def names : List String :=
  ["logging", "central_system", "defaults", "tls", "runner", "stations"]

/-- The whole configuration, from its sections. -/
def ofFields? (surplus : Surplus) : List (Option Json) → Option AppConfig
  | [logging, central, defaults, tls, runner, stations] => do
    some
      { logging := ← fieldOr {} (Logging.decode? surplus) logging
        centralSystem := ← fieldOr {} (CentralSystem.decode? surplus) central
        defaults := ← fieldOr {} (Defaults.decode? surplus) defaults
        tls := ← fieldOr {} (decodeTls? surplus) tls
        runner := ← fieldOr {} (Runner.decode? surplus) runner
        stations := ← fieldOr [] (stations? surplus) stations }
  | _ => none

/-- The whole configuration. -/
def decode? (surplus : Surplus) (j : Json) : Option AppConfig :=
  record? surplus names (ofFields? surplus) j

/-! ## Configurations from text and files -/

/-- A configuration that keeps the rules, or the first one it breaks. -/
def validated (c : AppConfig) : Except ConfigError AppConfig :=
  c.validate.map fun _ => c

/-- The configuration that a JSON value describes. -/
def ofJson (j : Json) : Except ConfigError AppConfig :=
  match decode? .refused j with
  | none => .error .malformed
  | some c => c.validated

/-- The configuration that a TOML text describes. -/
def ofToml (text : String) : Except ConfigError AppConfig :=
  match (Toml.parse? text).bind fun t => decode? .ignored t.toJson with
  | none => .error .malformed
  | some c => c.validated

/-- The configuration in a file, from what reading the file gave. -/
def ofFile (contents : Except IoError Bytes) : Except ConfigError AppConfig :=
  match contents with
  | .error e => .error (.io e)
  | .ok bytes =>
    match Text.Utf8.decode? bytes with
    | none => .error (.io .notUtf8)
    | some text => ofToml text

end StationPool.AppConfig
