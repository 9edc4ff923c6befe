import StationPool.Proofs.Connection.Views

/-!
# The clock and the settings

Nothing changes the settings of a connection or how far its clock can count, and nothing moves the
clock but its own action (`footing_of_step`).
-/

namespace StationPool.Connection

variable {c c' : Connection} {i : Nat} {s : Session}

/-- What a connection stands on: its settings, its clock and the moment. -/
def footing (c : Connection) : ConnectionSettings × Horizon × Nat := (c.settings, c.horizon, c.now)

@[simp] theorem footing_begin (request : Request) : (c.begin request).footing = c.footing := rfl

@[simp] theorem footing_answer (call : Nat) (outcome : Outcome) :
    (c.answer call outcome).footing = c.footing := rfl

@[simp] theorem footing_note (what : Happening) : (c.note what).footing = c.footing := rfl

@[simp] theorem footing_tell (session : Option Nat) (what : Observation) :
    (c.tell session what).footing = c.footing := rfl

@[simp] theorem footing_enter (next : Lifecycle) : (c.enter next).footing = c.footing := rfl

@[simp] theorem footing_fail (session : Option Nat) (e : ConnectionError) :
    (c.fail session e).footing = c.footing := rfl

@[simp] theorem footing_addDialer (number : Nat) (byCaller : Bool) (stage : Stage) :
    (c.addDialer number byCaller stage).footing = c.footing := rfl

@[simp] theorem footing_dropDialer (number : Nat) : (c.dropDialer number).footing = c.footing := rfl

@[simp] theorem footing_modifySession (f : Session → Session) :
    (c.modifySession i f).footing = c.footing := rfl

@[simp] theorem footing_closeBooks : (c.closeBooks i).footing = c.footing := rfl

@[simp] theorem footing_retire : (c.retire i).footing = c.footing := by
  unfold retire
  split
  · rfl
  · split <;> rfl

@[simp] theorem footing_retireCurrent : c.retireCurrent.footing = c.footing := by
  unfold retireCurrent
  split
  · rfl
  · exact footing_retire

@[simp] theorem footing_scheduleReconnect : c.scheduleReconnect.footing = c.footing := by
  unfold scheduleReconnect
  split
  · rfl
  · dsimp only
    split <;> rfl

@[simp] theorem footing_afterEnd (e : Option ConnectionError) :
    (c.afterEnd i e).footing = c.footing := by
  unfold afterEnd
  cases e <;> dsimp only <;> split <;> simp

@[simp] theorem footing_endSession (e : Option ConnectionError) :
    (c.endSession i e).footing = c.footing := by
  unfold endSession
  split
  · rfl
  · split
    · rfl
    · dsimp only
      split
      · split
        · exact footing_afterEnd e
        · simp
      · simp

@[simp] theorem footing_dialClosed (number : Nat) (byCaller : Bool) :
    (c.dialClosed number byCaller).footing = c.footing := by
  unfold dialClosed
  split <;> rfl

@[simp] theorem footing_dialFailed (number : Nat) (byCaller : Bool) (e : ConnectionError) :
    (c.dialFailed number byCaller e).footing = c.footing := by
  unfold dialFailed
  split
  · simp
  · dsimp only
    split <;> simp

@[simp] theorem footing_beginHandshake (number : Nat) (byCaller : Bool) (h : Handshake) :
    (c.beginHandshake number byCaller h).footing = c.footing := by
  unfold beginHandshake
  split <;> simp

@[simp] theorem footing_beginDial (number : Nat) (byCaller : Bool) :
    (c.beginDial number byCaller).footing = c.footing := by
  unfold beginDial
  split
  · simp
  · dsimp only
    split
    · simp
    · split <;> simp

@[simp] theorem footing_install : c.install.footing = c.footing := by
  unfold install
  cases c.slot <;> dsimp only <;> split <;> first | rfl | exact footing_retire

@[simp] theorem footing_dialDone (number : Nat) (byCaller : Bool) :
    (c.dialDone number byCaller).footing = c.footing := by
  unfold dialDone
  split
  · simp
  · dsimp only
    split <;> simp

@[simp] theorem footing_awaitTasks (call session : Nat) (grace : Option Duration) :
    (c.awaitTasks call session grace).footing = c.footing := by
  cases grace <;> rfl

@[simp] theorem footing_finishTeardown (t : Teardown) :
    (c.finishTeardown t).footing = c.footing :=
  footing_retire

@[simp] theorem footing_settlePush (call : Nat) (frame : Frame) (outcome : Option Outcome) :
    (c.settlePush i call frame outcome).footing = c.footing := by
  unfold settlePush
  split <;> rfl

theorem footing_disconnect : c.disconnect.footing = c.footing := by
  unfold disconnect
  dsimp only
  split
  · rfl
  · split
    · rfl
    · exact footing_awaitTasks _ _ _

theorem footing_send (frame : Frame) : (c.send frame).footing = c.footing := by
  unfold send
  dsimp only
  split
  · rfl
  · split
    · rfl
    · split
      · rfl
      · simp

theorem footing_tick (due : Nat) : (c.tick i s due).footing = c.footing := by
  unfold tick
  dsimp only
  split
  · exact footing_endSession _
  · split
    · exact footing_endSession _
    · rfl

@[simp] theorem footing_stopReading (e : Option ConnectionError) :
    (c.stopReading i e).footing = c.footing :=
  footing_endSession e

theorem footing_takeInbound (item : Inbound) : (c.takeInbound i item).footing = c.footing := by
  cases item <;> first | rfl | exact footing_stopReading _

theorem footing_lookReader (looked : c.lookReader i s = some c') : c'.footing = c.footing := by
  unfold lookReader at looked
  repeat' split at looked
  all_goals cases looked
  · exact footing_stopReading _
  · exact footing_takeInbound _
  · exact footing_stopReading _

theorem footing_lookWriter (looked : c.lookWriter i s = some c') : c'.footing = c.footing := by
  unfold lookWriter at looked
  repeat' split at looked
  all_goals cases looked
  · exact footing_endSession none
  · rfl
  · rfl
  · exact footing_endSession _
  · rfl

theorem footing_socketAnswered {result : Except WebSocketError Unit}
    (answered : c.socketAnswered i s result = some c') : c'.footing = c.footing := by
  unfold socketAnswered at answered
  split at answered
  all_goals cases answered
  · unfold wrote
    dsimp only
    split <;> rfl
  · exact footing_endSession _
  · rfl

theorem footing_lookKeeper (looked : c.lookKeeper i s = some c') : c'.footing = c.footing := by
  unfold lookKeeper at looked
  repeat' split at looked
  all_goals cases looked
  · rfl
  · rfl
  · exact footing_tick _

theorem footing_lookSend {call : Nat} (looked : c.lookSend i s call = some c') :
    c'.footing = c.footing := by
  unfold lookSend at looked
  repeat' split at looked
  all_goals cases looked
  exact footing_settlePush _ _ _

theorem footing_lookDialer {d : Dialer} (looked : c.lookDialer d = some c') :
    c'.footing = c.footing := by
  unfold lookDialer at looked
  repeat' split at looked
  all_goals cases looked
  · rfl
  · exact footing_beginDial _ _
  · exact footing_dialClosed _ _
  · exact footing_dialFailed _ _ _

theorem footing_loaded (d : Dialer) (result : Except ConnectionError Unit) :
    (c.loaded d result).footing = c.footing := by
  unfold loaded
  dsimp only
  split
  · simp
  · split
    · simp
    · split <;> simp

theorem footing_dialed (d : Dialer) (result : Except ConnectionError Unit) :
    (c.dialed d result).footing = c.footing := by
  unfold dialed
  dsimp only
  split <;> simp

theorem footing_lookTeardown {t : Teardown} (looked : c.lookTeardown t = some c') :
    c'.footing = c.footing := by
  unfold lookTeardown at looked
  repeat' split at looked
  all_goals cases looked
  all_goals exact footing_finishTeardown _

/-- The time that an action takes. -/
def Action.passing : Action → Nat
  | .advance nanos => nanos
  | _ => 0

/-- A step leaves the footing be, but for the time that it takes. -/
theorem footing_of_step {a : Action} (stepped : c.step a = some c') :
    c'.footing = (c.settings, c.horizon, c.now + a.passing) := by
  cases a with
  | connect =>
    cases stepped
    exact footing_beginDial _ _
  | disconnect =>
    cases stepped
    exact footing_disconnect
  | send frame =>
    cases stepped
    exact footing_send frame
  | load number result =>
    obtain ⟨d, -, rfl⟩ := Option.map_eq_some_iff.mp stepped
    exact footing_loaded d result
  | dial number result =>
    obtain ⟨d, -, rfl⟩ := Option.map_eq_some_iff.mp stepped
    exact footing_dialed d result
  | lookDialer number =>
    obtain ⟨d, -, looked⟩ := Option.bind_eq_some_iff.mp stepped
    exact footing_lookDialer looked
  | arrive i item =>
    obtain ⟨s, -, rfl⟩ := Option.map_eq_some_iff.mp stepped
    rfl
  | lookReader i =>
    obtain ⟨s, -, looked⟩ := Option.bind_eq_some_iff.mp stepped
    exact footing_lookReader looked
  | lookWriter i =>
    obtain ⟨s, -, looked⟩ := Option.bind_eq_some_iff.mp stepped
    exact footing_lookWriter looked
  | socket i result =>
    obtain ⟨s, -, answered⟩ := Option.bind_eq_some_iff.mp stepped
    exact footing_socketAnswered answered
  | lookKeeper i =>
    obtain ⟨s, -, looked⟩ := Option.bind_eq_some_iff.mp stepped
    exact footing_lookKeeper looked
  | lookSend i call =>
    obtain ⟨s, -, looked⟩ := Option.bind_eq_some_iff.mp stepped
    exact footing_lookSend looked
  | lookTeardown =>
    obtain ⟨t, -, looked⟩ := Option.bind_eq_some_iff.mp stepped
    exact footing_lookTeardown looked
  | advance nanos =>
    cases stepped
    rfl

theorem settings_of_step {a : Action} (stepped : c.step a = some c') : c'.settings = c.settings :=
  congrArg (·.1) (footing_of_step stepped)

theorem horizon_of_step {a : Action} (stepped : c.step a = some c') : c'.horizon = c.horizon :=
  congrArg (·.2.1) (footing_of_step stepped)

theorem horizon_of_run {as : List Action} (run : c.after as = some c') : c'.horizon = c.horizon :=
  after_induction (P := (·.horizon = c.horizon))
    (fun same stepped => (horizon_of_step stepped).trans same) rfl run

/-- The clock moves on by the time that the step takes. -/
theorem now_of_step {a : Action} (stepped : c.step a = some c') : c'.now = c.now + a.passing :=
  congrArg (·.2.2) (footing_of_step stepped)

end StationPool.Connection
