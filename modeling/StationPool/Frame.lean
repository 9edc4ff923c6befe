import StationPool.Text.Utf8

/-!
# Outbound frames

What callers queue for a station (`Frame`), and what a frame becomes on the wire (`Message`): data
goes out as text if its bytes are well-formed UTF-8 and as binary otherwise, and every payload goes
out unchanged.
-/

namespace StationPool

/-- A frame that waits to be written. -/
inductive Frame where
  | data (payload : Bytes)
  | ping (payload : Bytes)
  | pong (payload : Bytes)
  | close
  deriving DecidableEq, Repr

/-- A message on the wire. -/
inductive Message where
  | text (payload : Bytes)
  | binary (payload : Bytes)
  | ping (payload : Bytes)
  | pong (payload : Bytes)
  /-- A close frame, with a code and a reason or bare. -/
  | close (reason : Option (Nat × String))
  deriving DecidableEq, Repr

namespace Frame

/-- A frame of the protocol itself, not of the application. -/
def isControl : Frame → Bool
  | .data _ => false
  | _ => true

/-- The bytes it carries. -/
def payload : Frame → Bytes
  | .data p | .ping p | .pong p => p
  | .close => []

/-- The number of bytes it carries. -/
def size (f : Frame) : Nat := f.payload.length

/-- The message it becomes. -/
def message : Frame → Message
  | .data p => if Text.Utf8.wellFormed p then .text p else .binary p
  | .ping p => .ping p
  | .pong p => .pong p
  | .close => .close none

end Frame

end StationPool
