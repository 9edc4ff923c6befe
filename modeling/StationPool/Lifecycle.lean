/-!
# The lifecycle of a connection

The states a connection reports. `closed` is terminal: a connection that was taken down for good
leaves it no more.
-/

namespace StationPool

/-- What a connection reports about itself. -/
inductive Lifecycle where
  | disconnected
  | connecting
  | connected
  | reconnecting
  | error
  | closed
  deriving DecidableEq, Repr, Inhabited

namespace Lifecycle

/-- The state of a connection that was never used. -/
def initial : Lifecycle := .disconnected

/-- Every state. -/
def all : List Lifecycle := [disconnected, connecting, connected, reconnecting, error, closed]

/-- The name of the state, in messages and in encoded data. -/
def name : Lifecycle → String
  | .disconnected => "disconnected"
  | .connecting => "connecting"
  | .connected => "connected"
  | .reconnecting => "reconnecting"
  | .error => "error"
  | .closed => "closed"

/-- The name of the state in the description of a connection. -/
def title : Lifecycle → String
  | .disconnected => "Disconnected"
  | .connecting => "Connecting"
  | .connected => "Connected"
  | .reconnecting => "Reconnecting"
  | .error => "Error"
  | .closed => "Closed"

/-- The state of a name. -/
def ofName? (s : String) : Option Lifecycle := all.find? (·.name = s)

/-- A state is read back from its name. -/
theorem ofName?_name (l : Lifecycle) : ofName? l.name = some l := by cases l <;> decide

/-- Whether frames can be sent. -/
def isConnected (l : Lifecycle) : Bool := l == .connected

/-- Whether no state follows. -/
def isTerminal (l : Lifecycle) : Bool := l == .closed

/-- The state after a wish to enter `next`: a terminal state stays. -/
def enter (l next : Lifecycle) : Lifecycle := if l.isTerminal then l else next

/-- A closed connection stays closed, whatever it is to enter. -/
theorem enter_closed (next : Lifecycle) : enter .closed next = .closed := rfl

/-- Every other state is left for the next. -/
theorem enter_eq_of_ne_closed {l : Lifecycle} (h : l ≠ .closed) (next : Lifecycle) :
    l.enter next = next := by
  cases l <;> first | rfl | exact absurd rfl h

end Lifecycle

end StationPool
