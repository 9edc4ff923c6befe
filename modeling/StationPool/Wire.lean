import StationPool.Error.WebSocket
import StationPool.Frame

/-!
# Frames on the wire

The framing of a WebSocket from the side of a station: frames that the central system sends are read
from bytes that may come in any portions, fragments are put together, and breaches of the protocol
are found. A frame is judged when it is complete, except for its kind and its size, which its header
tells.

`encode` writes the unmasked frame that the central system sends.
-/

namespace StationPool.Wire

/-! ## Writing -/

/-- The kind of a frame that goes on with a message, by its number on the wire. -/
def continuation : Nat := 0

/-- The kind of a frame that begins a text message. -/
def textFrame : Nat := 1

/-- The kind of a frame that begins a binary message. -/
def binaryFrame : Nat := 2

/-- The kind of a frame that closes the session. -/
def closeFrame : Nat := 8

/-- The kind of a frame that asks for a pong. -/
def pingFrame : Nat := 9

/-- The kind of a frame that answers a ping. -/
def pongFrame : Nat := 10

/-- So many bytes of a number, the most significant first. -/
def bigEndian : Nat → Nat → Bytes
  | 0, _ => []
  | width + 1, n => UInt8.ofNat (n / Nat.pow 256 width % 256) :: bigEndian width n

/-- The length of a payload behind the first byte of a frame. -/
def encodeLength (n : Nat) : Bytes :=
  if n < 126 then [UInt8.ofNat n]
  else if n < 65536 then 126 :: bigEndian 2 n
  else 127 :: bigEndian 8 n

/-- A whole message in one frame. -/
def encode (kind : Nat) (payload : Bytes) : Bytes :=
  UInt8.ofNat (128 + kind) :: encodeLength payload.length ++ payload

/-- The payload of a close frame. -/
def closePayload : Option (Nat × String) → Bytes
  | none => []
  | some (code, reason) => bigEndian 2 code ++ Text.Utf8.encode reason

/-! ## Reading -/

/-- The largest frame. -/
def maxFrame : Nat := 16777216

/-- The largest message. -/
def maxMessage : Nat := 67108864

/-- What the reader of a socket finds. -/
inductive Arrival where
  /-- A frame that completes no message. -/
  | piece
  | data (payload : Bytes)
  | ping (payload : Bytes)
  | pong (payload : Bytes)
  | close (reason : Option (Nat × String))
  | failed (e : WebSocketError)
  deriving DecidableEq, Repr

/-- A message of which the end is missing. -/
structure Assembly where
  isText : Bool
  bytes : Bytes
  deriving DecidableEq, Repr

/-- The receiving end of a socket. -/
structure Incoming where
  /-- Bytes of a frame that is not complete. -/
  unread : Bytes := []
  assembly : Option Assembly := none
  /-- Whether a failure or a close frame ended the reading. -/
  closed : Bool := false
  deriving DecidableEq, Repr

/-- A frame that was read. -/
structure Read where
  final : Bool
  reserved : Bool
  kind : Nat
  masked : Bool
  payload : Bytes

/-- The number that bytes write, the most significant first. -/
def number (bs : Bytes) : Nat := bs.foldl (fun n b => n * 256 + b.toNat) 0

/-- The kinds that are defined. -/
def isKnown (kind : Nat) : Bool := kind ≤ 2 || (8 ≤ kind && kind ≤ 10)

/-- A frame at the start of the bytes and the bytes after it; none while bytes are missing. -/
def readFrame? (bs : Bytes) : Option (Except WebSocketError (Read × Bytes)) :=
  match bs with
  | first :: second :: rest =>
    let masked := second.toNat ≥ 128
    let short := second.toNat % 128
    let width := if short = 126 then 2 else if short = 127 then 8 else 0
    let size := if width = 0 then short else number (rest.take width)
    let header := width + if masked then 4 else 0
    if rest.length < header then none
    else
      let kind := first.toNat % 16
      if !isKnown kind then some (.error (.protocol (.invalidOpcode kind)))
      else if maxFrame < size then some (.error (.messageTooLong size maxFrame))
      else
        let body := rest.drop header
        let payload := body.take size
        if payload.length < size then none
        else
          some (.ok (⟨first.toNat ≥ 128, first.toNat / 16 % 8 ≠ 0, kind, masked, payload⟩,
            body.drop size))
  | _ => none

/-- Whether bytes begin a well-formed text; at the end of a message they have to be one. -/
def isTextSoFar (final : Bool) (bs : Bytes) : Bool :=
  let reader := bs.foldl Text.Utf8.Reader.feed {}
  reader.found.all (·.scalar?.isSome) && (!final || reader.owed.isNone)

/-- A message with more bytes: complete, or with its end missing still. -/
def Assembly.extend (a : Assembly) (final : Bool) (payload : Bytes) :
    Arrival × Option Assembly :=
  let bytes := a.bytes ++ payload
  if maxMessage < bytes.length then
    (.failed (.messageTooLong bytes.length maxMessage), none)
  else if a.isText && !isTextSoFar final bytes then (.failed .utf8, none)
  else if final then (.data bytes, none)
  else (.piece, some { a with bytes })

/-- What a close frame says. -/
def closeReason (payload : Bytes) : Arrival :=
  match payload with
  | [] => .close none
  | [_] => .failed (.protocol .invalidClose)
  | a :: b :: rest =>
    match Text.Utf8.decode? rest with
    | none => .failed .utf8
    | some reason => .close (some (number [a, b], reason))

/-- What a complete frame is to the reader. -/
def judge (assembly : Option Assembly) (f : Read) : Arrival × Option Assembly :=
  let breach (e : ProtocolError) : Arrival × Option Assembly := (.failed (.protocol e), assembly)
  if f.reserved then breach .reservedBits
  else if f.masked then breach .maskedFromServer
  else if 8 ≤ f.kind then
    if !f.final then breach .fragmentedControl
    else if 125 < f.payload.length then breach .controlTooBig
    else if f.kind = pingFrame then (.ping f.payload, assembly)
    else if f.kind = pongFrame then (.pong f.payload, assembly)
    else (closeReason f.payload, assembly)
  else match assembly with
    | some a =>
      if f.kind = continuation then a.extend f.final f.payload
      else breach (.expectedFragment (f.kind = textFrame))
    | none =>
      if f.kind = continuation then breach .nothingToContinue
      else Assembly.extend ⟨f.kind = textFrame, []⟩ f.final f.payload

/-- Whether nothing is read after an arrival. -/
def Arrival.isLast : Arrival → Bool
  | .close _ | .failed _ => true
  | _ => false

/-- Reads the complete frames of the bytes at hand; at most so many. -/
def drain : Nat → Incoming → List Arrival → Incoming × List Arrival
  | 0, i, found => (i, found.reverse)
  | fuel + 1, i, found =>
    if i.closed then (i, found.reverse)
    else match readFrame? i.unread with
      | none => (i, found.reverse)
      | some (.error e) => ({ i with closed := true }, (.failed e :: found).reverse)
      | some (.ok (frame, rest)) =>
        let (arrival, assembly) := judge i.assembly frame
        drain fuel ⟨rest, assembly, arrival.isLast⟩ (arrival :: found)

/-- Takes more bytes off the socket. -/
def Incoming.feed (i : Incoming) (bytes : Bytes) : Incoming × List Arrival :=
  if i.closed then (i, [])
  else
    let unread := i.unread ++ bytes
    drain (unread.length + 1) { i with unread } []

/-- The close codes that may be sent. -/
def isAllowedCode (code : Nat) : Bool :=
  [1000, 1001, 1002, 1003, 1007, 1008, 1009, 1010, 1011, 1012, 1013].contains code
    || (3000 ≤ code && code < 5000)

/-- The answer to a close frame: the same again, or a word about a code that may not be sent. -/
def closeReply : Option (Nat × String) → Option (Nat × String)
  | none => none
  | some (code, reason) =>
    if isAllowedCode code then some (code, reason) else some (1002, "Protocol violation")

end StationPool.Wire
