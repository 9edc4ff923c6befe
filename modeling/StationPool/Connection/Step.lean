import StationPool.Connection.Calls
import StationPool.Connection.Tasks

/-!
# Steps of a connection

What may happen to a connection, one thing at a time: a caller calls, the network or a file
answers, something arrives on a socket, the clock moves on, or one of the parties that wait has a
look. A look is a step only where the party goes on.

Every order of steps is a run, so a property of all reachable connections holds whatever the
callers, the network and the scheduler do.
-/

namespace StationPool.Connection

/-- What may happen to a connection. -/
inductive Action where
  | connect
  | disconnect
  | send (frame : Frame)
  /-- The TLS material of a dial was read, or could not be. -/
  | load (dialer : Nat) (result : Except ConnectionError Unit)
  /-- The handshake of a dial came to an end. -/
  | dial (dialer : Nat) (result : Except ConnectionError Unit)
  | lookDialer (dialer : Nat)
  /-- Something arrives on the socket of a session. -/
  | arrive (session : Nat) (item : Inbound)
  | lookReader (session : Nat)
  | lookWriter (session : Nat)
  /-- The socket of a session took a frame, or failed. -/
  | socket (session : Nat) (result : Except WebSocketError Unit)
  | lookKeeper (session : Nat)
  | lookSend (session call : Nat)
  | lookTeardown
  /-- The clock moves on by so many nanoseconds. -/
  | advance (nanos : Nat)

/-- A dial that waits for the TLS material. -/
def loading? (c : Connection) (number : Nat) : Option Dialer :=
  (c.dialer? number).filter (·.stage == .loading)

/-- A dial that waits for its handshake. -/
def handshaking? (c : Connection) (number : Nat) : Option Dialer :=
  (c.dialer? number).filter fun d =>
    match d.stage with
    | .handshaking _ => true
    | _ => false

/-- The connection after an action; none where the action is not possible. -/
def step (c : Connection) : Action → Option Connection
  | .connect => some c.connect
  | .disconnect => some c.disconnect
  | .send frame => some (c.send frame)
  | .load number result => (c.loading? number).map (c.loaded · result)
  | .dial number result => (c.handshaking? number).map (c.dialed · result)
  | .lookDialer number => (c.dialer? number).bind c.lookDialer
  | .arrive i item =>
    c.sessions[i]?.map fun _ =>
      (c.modifySession i fun s => { s with inbox := s.inbox ++ [item] }).note (.arrived i item)
  | .lookReader i => c.sessions[i]?.bind (c.lookReader i)
  | .lookWriter i => c.sessions[i]?.bind (c.lookWriter i)
  | .socket i result => c.sessions[i]?.bind (c.socketAnswered i · result)
  | .lookKeeper i => c.sessions[i]?.bind (c.lookKeeper i)
  | .lookSend i call => c.sessions[i]?.bind (c.lookSend i · call)
  | .lookTeardown => c.teardown.bind c.lookTeardown
  | .advance nanos => some { c with now := c.now + nanos }

/-- The connections that some order of steps leads to from a new one, whatever its clock. -/
inductive Reachable (settings : ConnectionSettings) : Connection → Prop where
  | new {horizon : Horizon} : Reachable settings (Connection.new settings horizon)
  | step {c c' : Connection} (a : Action) :
      Reachable settings c → c.step a = some c' → Reachable settings c'

/-! ## Looks -/

/-- The looks of the parties that wait: dials, the tasks of each session, sends, the disconnect. -/
def looks (c : Connection) : List Action :=
  c.dialers.map (.lookDialer ·.number)
    ++ ((List.range c.sessions.length).zip c.sessions).flatMap (fun (i, s) =>
      [.lookReader i, .lookWriter i, .lookKeeper i]
        ++ s.queue.blocked.map (.lookSend i ·.ticket))
    ++ [.lookTeardown]

/-- Whether nobody can go on without the clock, a caller, the network or the other side. -/
def isSettled (c : Connection) : Bool := c.looks.all fun a => (c.step a).isNone

end StationPool.Connection
