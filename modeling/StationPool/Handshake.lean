import StationPool.Error.Connection
import StationPool.Settings
import StationPool.Text.Base64
import StationPool.Uri

/-!
# The handshake request

What a station sends to open a WebSocket: a GET request for the endpoint with the headers of the
WebSocket upgrade, exactly one offered subprotocol, and an `authorization` header if and only if the
station has credentials.

A request exists unless the endpoint is no URI with a host, or the value of the authorization header
holds a control character. The random key is left out.
-/

namespace StationPool

/-- The value of the authorization header. -/
def Auth.headerValue? : Auth → Option String
  | .none => Option.none
  | .basic username password =>
    some ("Basic " ++
      String.ofList (Text.Base64.encode (Text.Utf8.encode (username ++ ":" ++ password))))
  | .bearer token => some ("Bearer " ++ token)

/-- The characters a header value may not hold: the ASCII controls except the tab. -/
def isHeaderControl (c : Char) : Bool := (c.toNat < 0x20 && c != '\t') || c.toNat == 0x7F

/-- The request that opens a WebSocket. -/
structure Handshake where
  uri : Uri
  /-- Host and port as the request names them. -/
  host : String
  subprotocol : String
  authorization : Option String
  deriving DecidableEq, Repr

namespace Handshake

/-- The endpoint as a URI with a host. -/
def endpoint (url : String) : Except WebSocketError (Uri × String) :=
  match Uri.ofText url with
  | .error e => .error (.httpFormat e)
  | .ok uri =>
    match uri.hostHeader? with
    | none => .error (.url .noHostName)
    | some host => if host.isEmpty then .error (.url .emptyHostName) else .ok (uri, host)

/-- The request of a connection. -/
def ofSettings (s : ConnectionSettings) : Except ConnectionError Handshake :=
  match endpoint s.url with
  | .error e => .error (.invalidRequest (s.url ++ ": " ++ e.message))
  | .ok (uri, host) =>
    match s.auth.headerValue? with
    | none => .ok ⟨uri, host, s.subprotocol, none⟩
    | some value =>
      if value.toList.any isHeaderControl then
        .error (.invalidRequest "authorization header: failed to parse header value")
      else .ok ⟨uri, host, s.subprotocol, some value⟩

/-- The headers by name, in alphabetical order. -/
def headers (h : Handshake) : List (String × String) :=
  (h.authorization.map fun v => ("authorization", v)).toList ++
    [("connection", "Upgrade"), ("host", h.host), ("sec-websocket-protocol", h.subprotocol),
      ("sec-websocket-version", "13"), ("upgrade", "websocket")]

/-- The port to dial: the one in the URL, else that of the scheme. -/
def port? (h : Handshake) : Option Nat :=
  match h.uri.port? with
  | some p => some p
  | none =>
    match h.uri.scheme with
    | some "wss" => some 443
    | some "ws" => some 80
    | _ => none

end Handshake

end StationPool
