import StationPool.Connection.Step

/-!
# What a history tells

The properties of a connection are said of what happened to it. This module holds the views they
are said through: the sessions that live, the calls that were made, what the observer was told, the
turns of the sessions, and for each session what came in on its socket and what of it was passed on.

A history has the last entry first, and so has every view of one. `after` is the run of a list of
actions; every connection that a run leads to is reachable.
-/

namespace StationPool

/-- What an item from a socket brings for the application. -/
def Inbound.payload? : Inbound → Option Bytes
  | .data payload => some payload
  | _ => none

/-- What still waits in the inbox for the application. -/
def Session.unread (s : Session) : List Bytes := s.inbox.filterMap Inbound.payload?

/-- The session with its end marked. -/
def Session.finish (s : Session) : Session := { s with ended := true }

namespace Connection

/-- A session was installed and is not over. -/
def Live (c : Connection) (i : Nat) : Prop := ∃ s, c.sessions[i]? = some s ∧ s.ended = false

/-- For every session ever installed, whether it is over. -/
def fates (c : Connection) : List Bool := c.sessions.map (·.ended)

/-- A session goes on exactly where its fate is not to be over. -/
theorem live_iff_fates {c : Connection} {i : Nat} : c.Live i ↔ c.fates[i]? = some false := by
  simp only [Live, fates, List.getElem?_map, Option.map_eq_some_iff]

/-- There is a request that the settings ask for, and a port to send it to. -/
def Dialable (settings : ConnectionSettings) : Prop :=
  ∃ h port, Handshake.ofSettings settings = .ok h ∧ h.port? = some port

/-- The dials of the connection itself: those that wait in a backoff and those that go on. -/
def redials (c : Connection) : List Dialer := c.dialers.filter (!·.byCaller)

/-! ## Calls -/

/-- The call that an entry writes down. -/
def Happening.request? : Happening → Option (Nat × Request)
  | .called call request _ _ => some (call, request)
  | _ => none

/-- The calls that were made. -/
def requests (history : List Entry) : List (Nat × Request) :=
  history.filterMap (·.what.request?)

/-- The ends of calls. -/
def Happening.outcome? : Happening → Option (Nat × Outcome)
  | .returned call outcome => some (call, outcome)
  | _ => none

/-- The calls that ended, and how. -/
def outcomes (history : List Entry) : List (Nat × Outcome) :=
  history.filterMap (·.what.outcome?)

/-! ## Observations -/

/-- What an entry tells the observer. -/
def Happening.told? : Happening → Option (Option Nat × Observation)
  | .observed session what => some (session, what)
  | _ => none

/-- What the observer was told. -/
def told (history : List Entry) : List (Option Nat × Observation) :=
  history.filterMap (·.what.told?)

/-- The two turns of a session: it is told as connected, and as disconnected. -/
inductive Turn where
  | up (session : Option Nat)
  | down (session : Option Nat)
  deriving DecidableEq

/-- The turn that an entry tells of. -/
def Happening.turn? : Happening → Option Turn
  | .observed session .connected => some (.up session)
  | .observed session (.disconnected _) => some (.down session)
  | _ => none

/-- The turns that the observer was told of. -/
def turns (history : List Entry) : List Turn := history.filterMap (·.what.turn?)

/-- The turns of two parts of a history are those of the one and of the other. -/
theorem turns_append (new old : List Entry) : turns (new ++ old) = turns new ++ turns old :=
  List.filterMap_append

/-- The message of one session that an entry passes on. -/
def Happening.message? (i : Nat) : Happening → Option Bytes
  | .observed (some j) (.message payload) => if j = i then some payload else none
  | _ => none

/-- The messages of one session that the observer was given. -/
def messages (history : List Entry) (i : Nat) : List Bytes :=
  history.filterMap (·.what.message? i)

/-- The message of one session that an entry says has arrived. -/
def Happening.arrival? (i : Nat) : Happening → Option Bytes
  | .arrived j item => if j = i then item.payload? else none
  | _ => none

/-- The messages that have arrived on the socket of one session. -/
def arrivals (history : List Entry) (i : Nat) : List Bytes :=
  history.filterMap (·.what.arrival? i)

/-- The bytes of payloads, together. -/
def bulk : List Bytes → Nat
  | [] => 0
  | payload :: rest => payload.length + bulk rest

/-- The bytes of two batches of messages are those of the one and of the other. -/
theorem bulk_append (first second : List Bytes) :
    bulk (first ++ second) = bulk first + bulk second := by
  induction first with
  | nil => exact (Nat.zero_add _).symm
  | cons payload rest ih => rw [List.cons_append, bulk, bulk, ih, Nat.add_assoc]

/-- The data that an entry says a socket took. -/
def Happening.data? : Happening → Option Bytes
  | .wrote _ _ (.data payload) => some payload
  | _ => none

/-- The data that the sockets of all sessions took. -/
def dataWritten (history : List Entry) : List Bytes := history.filterMap (·.what.data?)

/-! ## Runs -/

/-- Settings that name an endpoint and leave the rest as it is. -/
def plain : ConnectionSettings := { url := "ws://host/station" }

/-- The connection after a list of actions; none where one of them is not possible. -/
def after (c : Connection) (as : List Action) : Option Connection := as.foldlM step c

/-- A run begins with its first action. -/
theorem after_cons (c : Connection) (a : Action) (as : List Action) :
    c.after (a :: as) = (c.step a).bind (·.after as) := rfl

/-- A run from a reachable connection stays among the reachable ones. -/
theorem Reachable.after {settings : ConnectionSettings} {c c' : Connection} {as : List Action}
    (reachable : Reachable settings c) (run : c.after as = some c') : Reachable settings c' := by
  induction as generalizing c with
  | nil => cases run; exact reachable
  | cons a as ih =>
    rw [after_cons] at run
    obtain ⟨next, stepped, rest⟩ := Option.bind_eq_some_iff.mp run
    exact ih (reachable.step a stepped) rest

/-- A run is evaluated, and so is what it leads to. -/
theorem reachable_of_run {settings : ConnectionSettings} {as : List Action} {p : Connection → Bool}
    (run : ((new settings).after as).map p = some true) :
    ∃ c, (new settings).after as = some c ∧ Reachable settings c ∧ p c = true := by
  obtain ⟨c, ran, holds⟩ := Option.map_eq_some_iff.mp run
  exact ⟨c, ran, Reachable.new.after ran, holds⟩

/-- What holds at the start of a run and is kept by every step holds at its end. -/
theorem after_induction {P : Connection → Prop}
    (keeps : ∀ {c a c'}, P c → c.step a = some c' → P c') {c c' : Connection} {as : List Action}
    (holds : P c) (run : c.after as = some c') : P c' := by
  induction as generalizing c with
  | nil => cases run; exact holds
  | cons a as ih =>
    rw [after_cons] at run
    obtain ⟨next, stepped, rest⟩ := Option.bind_eq_some_iff.mp run
    exact ih (keeps holds stepped) rest

end Connection

end StationPool
