import StationPool.Frame
import StationPool.Queue.Basic

/-!
# Sessions

One socket of a connection and the three tasks that share it. The reader takes messages off the
socket under a read deadline that every message renews; the writer puts frames on it, a waiting
keepalive ping before any queued frame; the keeper asks for a ping once a period and ends the
session when the other side has been silent for too long.

Each task waits at one point at a time, and a task's type lists the points it may wait at. A look is
what a task does when it is woken: it goes on to its next point, or it stays.
-/

namespace StationPool

/-- What a socket holds for its reader. -/
inductive Inbound where
  /-- A frame that completes no message. -/
  | piece
  /-- A text or binary message. -/
  | data (payload : Bytes)
  | ping
  | pong
  /-- A close frame. -/
  | close
  | failed (e : WebSocketError)
  /-- The end of the stream. -/
  | ended
  deriving DecidableEq, Repr

/-- Where a reader waits. -/
inductive Reader where
  /-- For a message, until a deadline. -/
  | waiting (deadline : Nat)
  | stopped
  deriving DecidableEq, Repr

/-- Where a writer has a frame from. -/
inductive Origin where
  /-- A keepalive ping. -/
  | keeper
  /-- The queue of the session. -/
  | queue
  deriving DecidableEq, Repr

/-- Where a writer waits. -/
inductive Writer where
  /-- For a frame. -/
  | idle
  /-- For the socket to take a frame, until a deadline. -/
  | writing (origin : Origin) (frame : Frame) (deadline : Nat)
  /-- For the socket to take the close frame, until a deadline. -/
  | closing (deadline : Nat)
  | stopped
  deriving DecidableEq, Repr

/-- Where a keeper waits. -/
inductive Keeper where
  /-- For the end of the session: keepalive is off. -/
  | off
  /-- For its next tick. -/
  | ticking (next : Nat)
  | stopped
  deriving DecidableEq, Repr

/-- A session of a connection. -/
structure Session where
  /-- Whether it is over. -/
  ended : Bool := false
  /-- When the last message came in; at first, when the session was installed. -/
  lastInbound : Nat
  queue : SendQueue Frame
  /-- Whether a keepalive ping waits for the writer. -/
  pingWaiting : Bool := false
  reader : Reader
  writer : Writer := .idle
  keeper : Keeper
  /-- What the socket holds for the reader, in order of arrival. -/
  inbox : List Inbound := []
  deriving DecidableEq

namespace Session

/-- How late a tick may be taken and still keep the rhythm of the ticks before it. -/
def tickSlack : Nat := 5000000

/-- The next tick after one that was due at a moment: one period after it was due, or after it was
taken if it was taken late. -/
def nextTick (due now period : Nat) : Nat :=
  if due + tickSlack < now then now + period else due + period

/-- Whether the three tasks have stopped. -/
def isQuiet (s : Session) : Bool :=
  s.reader == .stopped && s.writer == .stopped && s.keeper == .stopped

/-- The session with its writer stopped: nobody takes from the queue any more. -/
def stopWriter (s : Session) : Session :=
  { s with writer := .stopped, queue := s.queue.dropReceiver }

/-- The session with its tasks stopped where they wait. -/
def abort (s : Session) : Session :=
  { s with reader := .stopped, keeper := .stopped }.stopWriter

end Session

end StationPool
