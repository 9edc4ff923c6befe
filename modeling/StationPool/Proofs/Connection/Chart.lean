import StationPool.Proofs.Connection.Beats
import StationPool.Proofs.Connection.Clock

/-!
# The chart of a connection

The sessions of a connection up to their ends, and what its history signals of them: that one began,
that a complete message arrived for it, that it was lost by an error. Most of what a connection does
leaves its chart alone.
-/

namespace StationPool

/-- Whether something from a socket completes a message. -/
def Inbound.isMessage : Inbound → Bool
  | .data _ | .ping | .pong => true
  | _ => false

namespace Connection

/-- What the history signals of a session. -/
inductive Signal where
  | began (session : Nat)
  /-- A complete message arrived. -/
  | heard (session : Nat)
  | lost (session : Nat) (e : ConnectionError)
  deriving DecidableEq

/-- The session that a signal is of. -/
def Signal.session : Signal → Nat
  | .began i | .heard i | .lost i _ => i

/-- Whether a signal is the start of a session or a message for it. -/
def Signal.reaches (i : Nat) : Signal → Bool
  | .began j | .heard j => j == i
  | .lost .. => false

/-- The signal that something is for a session, if it is one. A frame that completes no message is
none. -/
def Happening.signal? : Happening → Option Signal
  | .observed (some i) .connected => some (.began i)
  | .observed (some i) (.disconnected (some e)) => some (.lost i e)
  | .arrived i item => if item.isMessage then some (.heard i) else none
  | _ => none

/-- The signals of a history with their moments, the last first. -/
def signals (history : List Entry) : List (Nat × Signal) :=
  history.filterMap fun e => e.what.signal?.map (e.moment, ·)

/-- The sessions up to their ends, and the signals. -/
structure Chart where
  bodies : List Session
  signals : List (Nat × Signal)

/-- The chart of a connection. -/
def chart (c : Connection) : Chart := ⟨c.sessions.map Session.finish, signals c.history⟩

/-- A session is lost by an error, if by one. -/
def Chart.lose (x : Chart) (now i : Nat) : Option ConnectionError → Chart
  | none => x
  | some e => { x with signals := (now, .lost i e) :: x.signals }

variable {c c' : Connection} {i : Nat} {s : Session}

/-! ## What leaves the chart alone -/

/-- A call is no signal. -/
@[simp] theorem chart_begin (request : Request) : (c.begin request).chart = c.chart := rfl

/-- Nor is its end. -/
@[simp] theorem chart_answer (call : Nat) (outcome : Outcome) :
    (c.answer call outcome).chart = c.chart := rfl

/-- The state of a connection is not in the chart. -/
@[simp] theorem chart_enter (next : Lifecycle) : (c.enter next).chart = c.chart := rfl

@[simp] theorem chart_addDialer (number : Nat) (byCaller : Bool) (stage : Stage) :
    (c.addDialer number byCaller stage).chart = c.chart := rfl

@[simp] theorem chart_dropDialer (number : Nat) : (c.dropDialer number).chart = c.chart := rfl

@[simp] theorem chart_dialing (number : Nat) : (c.note (.dialing number)).chart = c.chart := rfl

/-- An error that is told is a signal only with the end of a session. -/
@[simp] theorem chart_fail (session : Option Nat) (e : ConnectionError) :
    (c.fail session e).chart = c.chart := by
  cases session <;> rfl

/-- A session that ends without an error is not lost. -/
@[simp] theorem chart_disconnected (session : Option Nat) :
    (c.tell session (.disconnected none)).chart = c.chart := by
  cases session <;> rfl

/-- The end of a session shows in its signals only: the chart has every session as it was at its
end. -/
@[simp] theorem chart_closeBooks : (c.closeBooks i).chart = c.chart := by
  have bodies : (c.sessions.modify i Session.finish).map Session.finish =
      c.sessions.map Session.finish := by
    apply List.ext_getElem?
    intro k
    simp only [List.getElem?_map, List.getElem?_modify]
    cases c.sessions[k]? with
    | none => rfl
    | some s => by_cases own : i = k <;> simp [own, Session.finish]
  exact congrArg (Chart.mk · (signals c.history)) bodies

/-- A session that gives way was not lost, so the chart stays. -/
@[simp] theorem chart_retire : (c.retire i).chart = c.chart := by
  unfold retire
  split
  · rfl
  · split <;> simp

@[simp] theorem chart_retireCurrent : c.retireCurrent.chart = c.chart := by
  unfold retireCurrent
  split
  · rfl
  · exact chart_retire

/-- Redials are not in the chart. -/
@[simp] theorem chart_scheduleReconnect : c.scheduleReconnect.chart = c.chart := by
  unfold scheduleReconnect
  split
  · rfl
  · dsimp only
    split <;> rfl

@[simp] theorem chart_settleEnd : c.settleEnd.chart = c.chart := by
  unfold settleEnd
  split <;> simp

@[simp] theorem chart_dialClosed (number : Nat) (byCaller : Bool) :
    (c.dialClosed number byCaller).chart = c.chart := by
  unfold dialClosed
  split <;> rfl

@[simp] theorem chart_dialFailed (number : Nat) (byCaller : Bool) (e : ConnectionError) :
    (c.dialFailed number byCaller e).chart = c.chart := by
  unfold dialFailed
  split
  · simp
  · dsimp only
    split <;> simp

@[simp] theorem chart_beginHandshake (number : Nat) (byCaller : Bool) (h : Handshake) :
    (c.beginHandshake number byCaller h).chart = c.chart := by
  unfold beginHandshake
  split <;> simp

@[simp] theorem chart_beginDial (number : Nat) (byCaller : Bool) :
    (c.beginDial number byCaller).chart = c.chart := by
  unfold beginDial
  split
  · simp
  · dsimp only
    split
    · simp
    · split <;> simp

@[simp] theorem chart_finishTeardown (t : Teardown) : (c.finishTeardown t).chart = c.chart :=
  chart_retire

/-- What a push comes to is between the queue and its caller; the chart leaves both out. -/
@[simp] theorem chart_settlePush (call : Nat) (frame : Frame) (outcome : Option Outcome) :
    (c.settlePush i call frame outcome).chart = c.chart := by
  unfold settlePush
  split <;> rfl

@[simp] theorem chart_wrote (origin : Origin) (frame : Frame) :
    (c.wrote i origin frame).chart = c.chart := by
  unfold wrote
  dsimp only
  split <;> rfl

theorem chart_disconnect : c.disconnect.chart = c.chart := by
  unfold disconnect
  dsimp only
  split
  · rfl
  · split
    · rfl
    · generalize Duration.add? _ teardownSlack = grace
      cases grace <;> rfl

/-- No look of a dial changes the chart, since it can begin a handshake but not end one. -/
theorem chart_lookDialer {d : Dialer} (looked : c.lookDialer d = some c') :
    c'.chart = c.chart := by
  unfold lookDialer at looked
  repeat' split at looked
  all_goals cases looked
  · rfl
  · simp
  · simp
  · simp

theorem chart_loaded (d : Dialer) (result : Except ConnectionError Unit) :
    (c.loaded d result).chart = c.chart := by
  unfold loaded
  dsimp only
  split
  · simp
  · split
    · simp
    · split <;> simp

/-! ## What changes the chart -/

/-- A session is found after a change as it was changed. -/
theorem sessions_modifySession (at_ : c.sessions[i]? = some s) (f : Session → Session) :
    (c.modifySession i f).sessions[i]? = some (f s) := by
  rw [modifySession, List.getElem?_modify_eq, at_]
  rfl

/-- The chart has every session of the connection. -/
theorem length_bodies : c.chart.bodies.length = c.sessions.length := List.length_map _

/-- A session is in the chart as it was at its end. -/
theorem body_at (at_ : c.sessions[i]? = some s) : c.chart.bodies[i]? = some s.finish := by
  rw [chart, List.getElem?_map, at_]
  rfl

/-- A change of one session is a change of its body. -/
theorem chart_modifySession (at_ : c.sessions[i]? = some s) (f : Session → Session) :
    (c.modifySession i f).chart =
      { c.chart with bodies := c.chart.bodies.set i (f s).finish } := by
  have bodies : (c.sessions.modify i f).map Session.finish =
      (c.sessions.map Session.finish).set i (f s).finish := by
    apply List.ext_getElem?
    intro k
    rw [List.getElem?_map, List.getElem?_modify, List.getElem?_set, List.getElem?_map,
      List.length_map]
    by_cases own : i = k
    · subst own
      obtain ⟨bound, _⟩ := List.getElem?_eq_some_iff.mp at_
      simp only [at_, bound, if_true, Option.map_eq_map, Option.map_some]
    · simp only [own, if_false, Option.map_eq_map, Option.map_id']
  exact congrArg (Chart.mk · (signals c.history)) bodies

/-- A session that lives ends, by an error or not. -/
theorem chart_endSession (h : Sound c) (live : c.Live i) (e : Option ConnectionError) :
    (c.endSession i e).chart = c.chart.lose c.now i e := by
  have vacated : (c.vacate i).chart = c.chart := chart_closeBooks
  rw [h.endSession_eq live]
  cases e with
  | none =>
    rw [afterEnd_none, chart_settleEnd, chart_disconnected, chart_enter, vacated, Chart.lose]
  | some e =>
    rw [afterEnd_some, chart_settleEnd, Chart.lose, ← vacated]
    rfl

/-- A new session begins. -/
def Chart.enrol (x : Chart) (now : Nat) (s : Session) : Chart :=
  ⟨x.bodies ++ [s.finish], (now, .began x.bodies.length) :: x.signals⟩

/-- A session that is installed is enrolled: it comes behind the others, and its start is a signal.
-/
theorem chart_install (h : Sound c) (up : c.cancelled = false) :
    c.install.chart = c.chart.enrol c.now c.newSession := by
  have footing : c.retireCurrent.footing = c.footing := footing_retireCurrent
  have settings : c.retireCurrent.settings = c.settings := congrArg (·.1) footing
  have horizon : c.retireCurrent.horizon = c.horizon := congrArg (·.2.1) footing
  have now : c.retireCurrent.now = c.now := congrArg (·.2.2) footing
  have same : c.retireCurrent.chart = c.chart := chart_retireCurrent
  have fresh : c.retireCurrent.newSession = c.newSession := by
    rw [newSession, newSession, now, settings, horizon]
  have opened : c.install.chart = c.retireCurrent.chart.enrol c.now c.newSession := by
    rw [h.install_eq up, install_of_empty retireCurrent_slot (h.retireCurrent_unclosed up), now,
      fresh]
    rw [Chart.enrol, length_bodies]
    exact congrArg (Chart.mk · _) List.map_append
  rw [opened, same]

end Connection

end StationPool
