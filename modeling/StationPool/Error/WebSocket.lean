import StationPool.Error.System

/-!
# WebSocket errors

What goes wrong on a WebSocket: with the URL, in the handshake, in the framing, or below it on the
socket. Every error is a cause; its wording is `WebSocketError.message`.
-/

namespace StationPool

/-- Why a text is no URI. -/
inductive UriError where
  | invalidCharacter
  | invalidScheme
  | invalidAuthority
  | invalidPort
  | invalidFormat
  | schemeTooLong
  | tooLong
  | empty
  deriving DecidableEq, Repr

/-- The wording. -/
def UriError.message : UriError → String
  | .invalidCharacter => "invalid uri character"
  | .invalidScheme => "invalid scheme"
  | .invalidAuthority => "invalid authority"
  | .invalidPort => "invalid port"
  | .invalidFormat => "invalid format"
  | .schemeTooLong => "scheme too long"
  | .tooLong => "uri too long"
  | .empty => "empty string"

/-- Why a URI is no endpoint. -/
inductive UrlError where
  | noHostName
  | emptyHostName
  | unableToConnect (target : String)
  | unsupportedScheme
  deriving DecidableEq, Repr

/-- The wording. -/
def UrlError.message : UrlError → String
  | .noHostName => "No host name in the URL"
  | .emptyHostName => "URL contains empty host name"
  | .unableToConnect target => "Unable to connect to " ++ target
  | .unsupportedScheme => "URL scheme not supported"

/-- A breach of the WebSocket protocol. -/
inductive ProtocolError where
  | resetWithoutClosing
  | sendAfterClosing
  | handshakeIncomplete
  | noSubprotocol
  | invalidSubprotocol
  | keyMismatch
  | noUpgrade
  | invalidHttp
  | invalidOpcode (opcode : Nat)
  | reservedBits
  | maskedFromServer
  | fragmentedControl
  | controlTooBig
  | invalidClose
  | nothingToContinue
  /-- A data message begins inside another one. -/
  | expectedFragment (text : Bool)
  deriving DecidableEq, Repr

/-- The wording. -/
def ProtocolError.message : ProtocolError → String
  | .resetWithoutClosing => "Connection reset without closing handshake"
  | .sendAfterClosing => "Sending after closing is not allowed"
  | .handshakeIncomplete => "Handshake not finished"
  | .noSubprotocol => "SubProtocol error: Server sent no subprotocol"
  | .invalidSubprotocol => "SubProtocol error: Server sent an invalid subprotocol"
  | .keyMismatch => "Key mismatch in \"Sec-WebSocket-Accept\" header"
  | .noUpgrade => "No \"Upgrade: websocket\" header"
  | .invalidHttp => "httparse error: invalid HTTP version"
  | .invalidOpcode n => "Encountered invalid opcode: " ++ toString n
  | .reservedBits => "Reserved bits are non-zero"
  | .maskedFromServer => "Received a masked frame from server"
  | .fragmentedControl => "Fragmented control frame"
  | .controlTooBig => "Control frame too big (payload must be 125 bytes or less)"
  | .invalidClose => "Invalid close sequence"
  | .nothingToContinue => "Continue frame but nothing to continue"
  | .expectedFragment text =>
    "While waiting for more fragments received: " ++ if text then "TEXT" else "BINARY"

/-- The reason phrases of the registered HTTP status codes. -/
def HttpStatus.reasons : List (Nat × String) := [
  (100, "Continue"), (101, "Switching Protocols"), (102, "Processing"), (103, "Early Hints"),
  (200, "OK"), (201, "Created"), (202, "Accepted"), (203, "Non Authoritative Information"),
  (204, "No Content"), (205, "Reset Content"), (206, "Partial Content"), (207, "Multi-Status"),
  (208, "Already Reported"), (226, "IM Used"), (300, "Multiple Choices"),
  (301, "Moved Permanently"), (302, "Found"), (303, "See Other"), (304, "Not Modified"),
  (305, "Use Proxy"), (307, "Temporary Redirect"), (308, "Permanent Redirect"),
  (400, "Bad Request"), (401, "Unauthorized"), (402, "Payment Required"), (403, "Forbidden"),
  (404, "Not Found"), (405, "Method Not Allowed"), (406, "Not Acceptable"),
  (407, "Proxy Authentication Required"), (408, "Request Timeout"), (409, "Conflict"),
  (410, "Gone"), (411, "Length Required"), (412, "Precondition Failed"),
  (413, "Payload Too Large"), (414, "URI Too Long"), (415, "Unsupported Media Type"),
  (416, "Range Not Satisfiable"), (417, "Expectation Failed"), (418, "I'm a teapot"),
  (421, "Misdirected Request"), (422, "Unprocessable Entity"), (423, "Locked"),
  (424, "Failed Dependency"), (425, "Too Early"), (426, "Upgrade Required"),
  (428, "Precondition Required"), (429, "Too Many Requests"),
  (431, "Request Header Fields Too Large"), (451, "Unavailable For Legal Reasons"),
  (500, "Internal Server Error"), (501, "Not Implemented"), (502, "Bad Gateway"),
  (503, "Service Unavailable"), (504, "Gateway Timeout"), (505, "HTTP Version Not Supported"),
  (506, "Variant Also Negotiates"), (507, "Insufficient Storage"), (508, "Loop Detected"),
  (510, "Not Extended"), (511, "Network Authentication Required")]

/-- A status code with its reason phrase. -/
def HttpStatus.text (code : Nat) : String :=
  toString code ++ " "
    ++ ((HttpStatus.reasons.find? (·.1 == code)).map (·.2)).getD "<unknown status code>"

/-- An error of a WebSocket. -/
inductive WebSocketError where
  | connectionClosed
  | alreadyClosed
  | io (e : IoError)
  | messageTooLong (size max : Nat)
  | protocol (e : ProtocolError)
  | writeBufferFull
  | utf8
  | attackAttempt
  | url (e : UrlError)
  | http (status : Nat)
  | httpFormat (e : UriError)
  deriving DecidableEq, Repr

namespace WebSocketError

/-- The wording. -/
def message : WebSocketError → String
  | .connectionClosed => "Connection closed normally"
  | .alreadyClosed => "Trying to work with closed connection"
  | .io e => "IO error: " ++ e.message
  | .messageTooLong size max =>
    "Space limit exceeded: Message too long: " ++ toString size ++ " > " ++ toString max
  | .protocol e => "WebSocket protocol error: " ++ e.message
  | .writeBufferFull => "Write buffer is full"
  | .utf8 => "UTF-8 encoding error"
  | .attackAttempt => "Attack attempt detected"
  | .url e => "URL error: " ++ e.message
  | .http status => "HTTP error: " ++ HttpStatus.text status
  | .httpFormat e => "HTTP format error: " ++ e.message

/-- Whether the endpoint itself is at fault, so that dialing it again cannot help. -/
def isEndpointFault : WebSocketError → Bool
  | .url _ | .httpFormat _ => true
  | _ => false

end WebSocketError

end StationPool
