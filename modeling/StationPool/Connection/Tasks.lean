import StationPool.Connection.Basic

/-!
# The tasks of a session

A look of the reader, the writer and the keeper of a session. Each looks first whether it is told to
stop; then at what its socket, its queue or its partner holds for it; then at the clock. A look is
none where the task stays at its point.
-/

namespace StationPool.Connection

/-- The reader goes on waiting, with a new deadline. -/
def renewRead (c : Connection) (i : Nat) : Connection :=
  c.modifySession i fun s =>
    { s with lastInbound := c.now, reader := .waiting (c.now + c.settings.readTimeout.nanos) }

/-- The reader stops and ends the session. -/
def stopReading (c : Connection) (i : Nat) (error : Option ConnectionError) : Connection :=
  (c.modifySession i ({ · with reader := .stopped })).endSession i error

/-- What the reader does with something from the socket. A frame that completes no message leaves
the deadline as it is. -/
def takeInbound (c : Connection) (i : Nat) : Inbound → Connection
  | .piece => c
  | .data payload => (c.renewRead i).receive i payload
  | .ping | .pong => c.renewRead i
  | .close => (c.modifySession i ({ · with lastInbound := c.now })).stopReading i none
  | .failed e => c.stopReading i (some (.webSocket e))
  | .ended => c.stopReading i none

/-- A look of the reader. -/
def lookReader (c : Connection) (i : Nat) (s : Session) : Option Connection :=
  match s.reader with
  | .stopped => none
  | .waiting deadline =>
    if c.isCut s then some (c.stopReading i none)
    else match s.inbox with
      | item :: rest => some ((c.modifySession i ({ · with inbox := rest })).takeInbound i item)
      | [] =>
        if deadline ≤ c.now then
          some (c.stopReading i (some (.readTimeout c.settings.readTimeout)))
        else none

/-- The writer gives a frame to the socket. -/
def beginWrite (c : Connection) (i : Nat) (origin : Origin) (frame : Frame) : Connection :=
  (c.modifySession i
    ({ · with writer := .writing origin frame (c.now + c.settings.writeTimeout.nanos) })).note
    (.handed i origin frame)

/-- The writer stops for good, with an error. -/
def failWriting (c : Connection) (i : Nat) (e : ConnectionError) : Connection :=
  (c.endSession i (some e)).modifySession i Session.stopWriter

/-- A look of the writer. -/
def lookWriter (c : Connection) (i : Nat) (s : Session) : Option Connection :=
  match s.writer with
  | .stopped => none
  | .idle =>
    if c.isCut s then
      let deadline := c.now + c.settings.writeTimeout.nanos
      some ((c.endSession i none).modifySession i ({ · with writer := .closing deadline }))
    else if s.pingWaiting then
      some ((c.modifySession i ({ · with pingWaiting := false })).beginWrite i .keeper (.ping []))
    else match s.queue.receive with
      | some (frame, queue) =>
        some ((c.modifySession i ({ · with queue })).beginWrite i .queue frame)
      | none => none
  | .writing _ _ deadline =>
    if deadline ≤ c.now then some (c.failWriting i (.writeTimeout c.settings.writeTimeout))
    else none
  | .closing deadline =>
    if deadline ≤ c.now then some (c.modifySession i Session.stopWriter) else none

/-- The socket took what the writer gave it, or failed. -/
def socketAnswered (c : Connection) (i : Nat) (s : Session) (result : Except WebSocketError Unit) :
    Option Connection :=
  match s.writer, result with
  | .writing origin frame _, .ok () =>
    some ((c.wrote i origin frame).modifySession i ({ · with writer := .idle }))
  | .writing .., .error e => some (c.failWriting i (.webSocket e))
  | .closing _, _ => some (c.modifySession i Session.stopWriter)
  | _, _ => none

/-- The keeper stops and ends the session. -/
def stopKeeping (c : Connection) (i : Nat) (error : ConnectionError) : Connection :=
  (c.modifySession i ({ · with keeper := .stopped })).endSession i (some error)

/-- A tick of the keeper: the silence has been too long, or a ping is asked for. There is room for
one ping, and none once the writer has stopped and taken its end of the way with it. -/
def tick (c : Connection) (i : Nat) (s : Session) (due : Nat) : Connection :=
  let silence := c.now - s.lastInbound
  let limit := c.settings.keepaliveInterval.nanos + c.settings.keepaliveTimeout.nanos
  if limit < silence then c.stopKeeping i (.keepaliveTimeout (.clamp silence))
  else if s.writer = .stopped then c.stopKeeping i .closed
  else
    c.modifySession i fun s =>
      { s with
        pingWaiting := true
        keeper := .ticking (Session.nextTick due c.now c.settings.keepaliveInterval.nanos) }

/-- A look of the keeper. -/
def lookKeeper (c : Connection) (i : Nat) (s : Session) : Option Connection :=
  match s.keeper with
  | .stopped => none
  | .off => if c.isCut s then some (c.modifySession i ({ · with keeper := .stopped })) else none
  | .ticking due =>
    if c.isCut s then some (c.modifySession i ({ · with keeper := .stopped }))
    else if due ≤ c.now then some (c.tick i s due)
    else none

end StationPool.Connection
