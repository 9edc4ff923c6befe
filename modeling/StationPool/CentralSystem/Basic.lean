import StationPool.Connection.Step
import StationPool.Json.Basic
import StationPool.Wire

/-!
# A central system to rehearse with

The other side of every connection, as a script wants it: whether the network has a route, whether
anyone listens, how handshakes are answered, and what is sent over the sockets that are open. It
writes down what it hears, by socket.

A socket that stalls is not read: small frames wait in it, a large one keeps its writer waiting. A
socket is open for the central system from its handshake until it drops it or has read the station's
end of it.
-/

namespace StationPool

namespace CentralSystem

/-- How a handshake is answered. -/
inductive Mode where
  | accept
  /-- Accepts without naming a subprotocol. -/
  | noSubprotocol
  /-- Accepts with a subprotocol that was not offered. -/
  | wrongSubprotocol
  | wrongKey
  | noUpgrade
  /-- Answers with something that is not HTTP. -/
  | garbage
  | drop
  | hang
  | status (code : Nat)
  deriving DecidableEq, Repr

/-- What the station makes of an answer; none where there is no answer. -/
def Mode.outcome : Mode → Option (Except WebSocketError Unit)
  | .accept => some (.ok ())
  | .noSubprotocol => some (.error (.protocol .noSubprotocol))
  | .wrongSubprotocol => some (.error (.protocol .invalidSubprotocol))
  | .wrongKey => some (.error (.protocol .keyMismatch))
  | .noUpgrade => some (.error (.protocol .noUpgrade))
  | .garbage => some (.error (.protocol .invalidHttp))
  | .drop => some (.error (.protocol .handshakeIncomplete))
  | .hang => none
  | .status code => some (.error (.http code))

/-- Whether the central system takes a handshake as done. -/
def Mode.completes : Mode → Bool
  | .accept | .noSubprotocol | .wrongSubprotocol => true
  | _ => false

/-- What the central system hears. -/
inductive Heard where
  /-- A handshake that it accepts: what is asked for, the offered subprotocol, the credentials. -/
  | handshake (target subprotocol : String) (authorization : Option String)
  | refused (mode : Mode)
  | message (m : Message)
  deriving DecidableEq, Repr

/-- A socket to a session of a station. -/
structure Link where
  tag : String
  connection : Nat
  session : Nat
  /-- The station's receiving end. -/
  incoming : Wire.Incoming := {}
  stalled : Bool := false
  dropped : Bool := false
  /-- Whether the station's end of it was read. -/
  gone : Bool := false
  /-- What waits in the socket while it stalls. -/
  held : List Message := []
  /-- The answer that the station owes to a close frame. -/
  owedClose : Option (Option (Nat × String)) := none
  /-- Whether the station has sent a close frame. -/
  closeSent : Bool := false
  deriving DecidableEq, Repr

/-- Whether the socket is open for the central system. -/
def Link.isOpen (l : Link) : Bool := !l.dropped && !l.gone

/-- What is done to a socket. -/
inductive Act where
  /-- Bytes straight onto the socket. -/
  | raw (bytes : Bytes)
  /-- A frame of a kind. -/
  | frame (kind : Nat) (payload : Bytes)
  | drop
  | stall
  | unstall
  deriving DecidableEq, Repr

/-- The largest frame that a stalled socket takes. -/
def socketRoom : Nat := 1048576

end CentralSystem

open CentralSystem in
/-- The central system, and the network before it. -/
structure CentralSystem where
  /-- Whether the network has a route to it. -/
  routed : Bool
  listening : Bool := true
  mode : Mode := .accept
  /-- A mode for the next so many handshakes. -/
  next : Option (Mode × Nat) := none
  /-- The handshakes so far, by path. -/
  counts : List (String × Nat) := []
  /-- The dials that were answered or are kept waiting, by connection and number. -/
  met : List (Nat × Nat) := []
  links : List Link := []
  /-- What was heard, by tag, in order. -/
  heard : List (String × Heard) := []

namespace CentralSystem

/-- Hears something on a socket. -/
def hear (s : CentralSystem) (tag : String) (what : Heard) : CentralSystem :=
  { s with heard := s.heard ++ [(tag, what)] }

/-- Sets how handshakes are answered from now on, or for the next so many. -/
def setMode (s : CentralSystem) (mode : Mode) : Option Nat → CentralSystem
  | none => { s with mode, next := none }
  | some times => { s with next := some (mode, times) }

/-- The mode for a handshake, and the central system after it. -/
def takeMode (s : CentralSystem) : Mode × CentralSystem :=
  match s.next with
  | some (mode, times + 1) => (mode, { s with next := some (mode, times) })
  | _ => (s.mode, s)

/-- Changes one socket. -/
def modifyLink (s : CentralSystem) (i : Nat) (change : Link → Link) : CentralSystem :=
  { s with links := s.links.modify i change }

/-! ## Handshakes -/

/-- A handshake arrives: it is counted, answered by the mode, and written down. -/
def meet (s : CentralSystem) (connection session : Nat) (h : Handshake) :
    CentralSystem × Option (Except WebSocketError Unit) :=
  let count := (Json.lookup h.uri.path s.counts).getD 0 + 1
  let s := { s with counts := Json.put h.uri.path count s.counts }
  let tag := h.uri.path ++ "#" ++ toString count
  let (mode, s) := s.takeMode
  let s :=
    if mode.completes then s.hear tag (.handshake h.uri.target h.subprotocol h.authorization)
    else s.hear tag (.refused mode)
  let s :=
    if mode = .accept then { s with links := s.links ++ [{ tag, connection, session }] } else s
  (s, mode.outcome)

/-- What comes of a dial that has begun its handshake; none while it is kept waiting. -/
def answerDial (s : CentralSystem) (connection dialer session : Nat) (h : Handshake) :
    CentralSystem × Option (Except WebSocketError Unit) :=
  if s.met.contains (connection, dialer) then (s, none)
  else if !s.routed then (s, some (.error (.io .networkUnreachable)))
  else if !s.listening then (s, some (.error (.io .connectionRefused)))
  else if h.uri.scheme = some "ws" then
    { s with met := (connection, dialer) :: s.met }.meet connection session h
  else if h.uri.scheme = some "wss" then (s, some (.error (.protocol .handshakeIncomplete)))
  else (s, some (.error (.url .unsupportedScheme)))

/-! ## What the station sends -/

/-- A message arrives from the station. -/
def takeMessage (s : CentralSystem) (i : Nat) (l : Link) (m : Message) : CentralSystem :=
  if l.dropped then s
  else if l.stalled then s.modifyLink i fun l => { l with held := l.held ++ [m] }
  else s.hear l.tag (.message m)

/-- What the station's socket holds for its reader after something arrived, and what the station
answers by itself. -/
def inbound (l : Link) : Wire.Arrival → Inbound × Link × Option Message
  | .piece => (.piece, l, none)
  | .data p => (.data p, l, none)
  | .ping p => (.ping, l, if l.closeSent then none else some (.pong p))
  | .pong _ => (.pong, l, none)
  | .close reason =>
    (.close, if l.closeSent then l else { l with owedClose := some (Wire.closeReply reason) }, none)
  | .failed e => (.failed e, l, none)

/-- Sends bytes to a station: what its socket then holds for the reader. -/
def sendBytes (s : CentralSystem) (i : Nat) (l : Link) (bytes : Bytes) :
    CentralSystem × List Inbound :=
  let (incoming, arrivals) := l.incoming.feed bytes
  let (l, items, replies) := arrivals.foldl
    (fun (l, items, replies) arrival =>
      let (item, l, reply) := inbound l arrival
      (l, items ++ [item], replies ++ reply.toList))
    ({ l with incoming }, ([] : List Inbound), ([] : List Message))
  let s := s.modifyLink i fun _ => l
  (replies.foldl (fun s m => s.takeMessage i l m) s, items)

/-- The central system answers what it heard: a ping with a pong, a close frame with a close
frame. -/
def reply (s : CentralSystem) (i : Nat) (l : Link) (m : Message) : CentralSystem × List Inbound :=
  if l.stalled || l.dropped then (s, [])
  else match m with
    | .ping p => s.sendBytes i l (Wire.encode Wire.pongFrame p)
    | .close reason => s.sendBytes i l (Wire.encode Wire.closeFrame (Wire.closePayload reason))
    | _ => (s, [])

/-- The socket's answer to a frame that the station writes, what is heard of it, and what comes
back. None while the frame does not fit. -/
def takeFrame (s : CentralSystem) (i : Nat) (l : Link) (frame : Frame) :
    CentralSystem × Option (Except WebSocketError Unit) × List Inbound :=
  if l.dropped then (s, some (.error (.io .connectionReset)), [])
  else if l.closeSent then (s, some (.error (.protocol .sendAfterClosing)), [])
  else if l.stalled && socketRoom < frame.size then (s, none, [])
  else
    let m := frame.message
    let l := if frame = .close then { l with closeSent := true } else l
    let s := (s.modifyLink i fun _ => l).takeMessage i l m
    let (s, items) := s.reply i l m
    (s, some (.ok ()), items)

/-- The station closes its side: the close frame it owes, or a bare one. -/
def takeClose (s : CentralSystem) (i : Nat) (l : Link) : CentralSystem :=
  if l.closeSent then s
  else
    let m := Message.close (l.owedClose.getD none)
    (s.modifyLink i ({ · with closeSent := true })).takeMessage i l m

/-- The station has let go of a socket; a socket that is read is over. -/
def hangUp (s : CentralSystem) (i : Nat) : CentralSystem :=
  s.modifyLink i fun l => if l.stalled then l else { l with gone := true }

/-! ## Acts -/

/-- Something is done to a socket; what the station's socket then holds for its reader. -/
def act (s : CentralSystem) (i : Nat) (l : Link) : Act → CentralSystem × List Inbound
  | .raw bytes => s.sendBytes i l bytes
  | .frame kind payload => s.sendBytes i l (Wire.encode kind payload)
  | .drop =>
    let item : Inbound :=
      if l.incoming.closed then .ended
      else if l.held.isEmpty then .failed (.protocol .resetWithoutClosing)
      else .failed (.io .connectionReset)
    (s.modifyLink i ({ · with dropped := true, held := [] }), [item])
  | .stall => (s.modifyLink i ({ · with stalled := true }), [])
  | .unstall =>
    let awake := { l with stalled := false, held := [] }
    let s := s.modifyLink i fun _ => awake
    let s := l.held.foldl (fun s m => s.hear l.tag (.message m)) s
    l.held.foldl
      (fun (s, items) m =>
        let (s, more) := s.reply i awake m
        (s, items ++ more))
      (s, [])

end CentralSystem

end StationPool
