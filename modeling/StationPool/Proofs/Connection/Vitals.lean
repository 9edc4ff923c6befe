import StationPool.Proofs.Connection.Chart

/-!
# The vitals of a session

What keeps a session alive or ends it. Every step does one of five things to the chart of a
connection (`Pulse`, `pulse_of_step`): nothing; a session begins; something arrives; a task or a
caller changes a session that goes on, in one of six ways (`Change`); or a session ends, for one of
five causes (`Cause`), or is over already. Beside it stands the ping that the step asks for, if it
asks for one. Seen from one session, a step that it outlives leaves it be, begins it, brings it
something or changes it (`Outlives`).
-/

namespace StationPool

/-- The writer of a session that goes on. -/
def Writer.Going (w : Writer) : Prop := w ≠ .stopped ∧ ∀ deadline, w ≠ .closing deadline

/-- The session after its reader took a complete message. -/
def Session.hear (s : Session) (rest : List Inbound) (now : Nat) (patience : Duration) : Session :=
  { s with inbox := rest, lastInbound := now, reader := .waiting (now + patience.nanos) }

/-- Whether a ping of its keeper waits for the writer of a session that goes on. -/
def Session.pinging (s : Session) : Bool := !s.ended && s.keeper != .stopped && s.pingWaiting

namespace Connection

variable {c c' : Connection} {i j : Nat} {s : Session} {a : Action}

/-- The ping that a step asks for: its moment and its session. It is the keeper that asks, and after
its look the ping waits. -/
def asked (c : Connection) (a : Action) (c' : Connection) : List (Nat × Nat) :=
  match a with
  | .lookKeeper i => if c'.sessions[i]?.any Session.pinging then [(c.now, i)] else []
  | _ => []

/-! ## What a step may do -/

/-- What may become of a session that goes on, and the ping that is asked for then. -/
inductive Change (c : Connection) (i : Nat) (s : Session) : List (Nat × Nat) → Session → Prop where
  /-- Frames are put into its queue or give way to others. -/
  | requeues (queue : SendQueue Frame) : Change c i s [] { s with queue }
  | skips {rest : List Inbound} (head : s.inbox = .piece :: rest) :
      Change c i s [] { s with inbox := rest }
  /-- The reader takes a complete message. -/
  | hears {item : Inbound} {rest : List Inbound} (up : c.cancelled = false)
      (head : s.inbox = item :: rest) (complete : item.isMessage = true) :
      Change c i s [] (s.hear rest c.now c.settings.readTimeout)
  /-- The writer takes a frame, or the socket takes it. -/
  | writes (writer : Writer) (pingWaiting : Bool) (queue : SendQueue Frame)
      (going : s.writer.Going → writer.Going) :
      Change c i s [] { s with writer, pingWaiting, queue }
  /-- The keeper asks for a ping. -/
  | asks {due : Nat} (point : s.keeper = .ticking due) (late : due ≤ c.now)
      (heard : c.now - s.lastInbound ≤
        c.settings.keepaliveInterval.nanos + c.settings.keepaliveTimeout.nanos) :
      Change c i s [(c.now, i)] { s with
        pingWaiting := true
        keeper := .ticking (Session.nextTick due c.now c.settings.keepaliveInterval.nanos) }
  /-- The keeper stops because the connection is going down. -/
  | dismissed (gone : c.cancelled = true) : Change c i s [] { s with keeper := .stopped }

/-- Why a session ends. -/
inductive Cause (c : Connection) (i : Nat) : Option ConnectionError → Prop where
  | silent : Cause c i none
  /-- An error of the socket, or the deadline of the writer. -/
  | failed (e : ConnectionError) (open_ : e ≠ .closed) (other : ∀ d, e ≠ .keepaliveTimeout d)
      (read : ∀ d, e ≠ .readTimeout d) : Cause c i (some e)
  /-- The reader has waited until its deadline and has nothing left to read. -/
  | overdue {s : Session} {deadline : Nat} (at_ : c.sessions[i]? = some s)
      (going : s.ended = false) (point : s.reader = .waiting deadline) (late : deadline ≤ c.now)
      (empty : s.inbox = []) : Cause c i (some (.readTimeout c.settings.readTimeout))
  /-- The keeper has heard nothing for too long. -/
  | unheard {s : Session} {due : Nat} (at_ : c.sessions[i]? = some s) (going : s.ended = false)
      (up : c.cancelled = false) (point : s.keeper = .ticking due) (late : due ≤ c.now)
      (long : c.settings.keepaliveInterval.nanos + c.settings.keepaliveTimeout.nanos <
        c.now - s.lastInbound) :
      Cause c i (some (.keepaliveTimeout (.clamp (c.now - s.lastInbound))))
  /-- The keeper finds the writer gone. -/
  | unattended {s : Session} (at_ : c.sessions[i]? = some s) (going : s.ended = false)
      (stopped : s.writer = .stopped) : Cause c i (some .closed)

/-- An error of the socket is a cause of its own: it is none of a deadline. -/
theorem Cause.webSocket (e : WebSocketError) : Cause c i (some (.webSocket e)) :=
  .failed _ nofun nofun nofun

/-- The deadline of the writer is a cause of its own. -/
theorem Cause.writeTimeout (d : Duration) : Cause c i (some (.writeTimeout d)) :=
  .failed _ nofun nofun nofun

/-- What a step does to the chart, and the ping that it asks for. -/
inductive Pulse (c c' : Connection) : List (Nat × Nat) → Prop where
  | calm (same : c'.chart = c.chart) : Pulse c c' []
  | begins (up : c.cancelled = false) (opened : c'.chart = c.chart.enrol c.now c.newSession) :
      Pulse c c' []
  | arrives {i : Nat} {s : Session} (item : Inbound) (at_ : c.sessions[i]? = some s)
      (arrived : c'.chart =
        ⟨c.chart.bodies.set i { s.finish with inbox := s.inbox ++ [item] },
          (if item.isMessage then [(c.now, .heard i)] else []) ++ c.chart.signals⟩) :
      Pulse c c' []
  | changes {i : Nat} {s s' : Session} {asks : List (Nat × Nat)} (at_ : c.sessions[i]? = some s)
      (going : s.ended = false) (change : Change c i s asks s')
      (changed : c'.chart = { c.chart with bodies := c.chart.bodies.set i s'.finish }) :
      Pulse c c' asks
  /-- A session ends, or is over and its tasks stop. -/
  | ends {i : Nat} {body : Session} {e : Option ConnectionError} (at_ : i < c.sessions.length)
      (dead : ¬ c'.Live i) (cause : Cause c i e)
      (ended : c'.chart =
        Chart.lose { c.chart with bodies := c.chart.bodies.set i body } c.now i e) :
      Pulse c c' []

/-! ## Sessions that are over -/

/-- No beat revives a session. -/
theorem Beat.stays_over {x y : Scene} (beat : Beat x y) {face : Face}
    (at_ : x.faces[i]? = some face) (ended : face.ended = true) :
    ∃ face', y.faces[i]? = some face' ∧ face'.ended = true := by
  have bound := (List.getElem?_eq_some_iff.mp at_).1
  cases beat with
  | aside e aside => exact ⟨face, at_, ended⟩
  | installs moment dead => exact ⟨face, (List.getElem?_append_left bound).trans at_, ended⟩
  | @ends _ _ j unread moment error there cause =>
    by_cases own : j = i
    · subst own
      exact ⟨⟨true, unread⟩, List.getElem?_set_self bound, rfl⟩
    · exact ⟨face, (List.getElem?_set_ne own).trans at_, ended⟩
  | @arrives _ _ j other moment item there =>
    by_cases own : j = i
    · subst own
      cases at_.symm.trans there
      exact ⟨_, List.getElem?_set_self bound, ended⟩
    · exact ⟨face, (List.getElem?_set_ne own).trans at_, ended⟩
  | @delivers _ _ j payload unread moment there =>
    by_cases own : j = i
    · subst own
      cases at_.symm.trans there
      cases ended
    · exact ⟨face, (List.getElem?_set_ne own).trans at_, ended⟩

/-- What is over stays over. No beat begins a session that ended. -/
theorem Beats.stays_over {x y : Scene} (beats : Beats x y) {face : Face}
    (at_ : x.faces[i]? = some face) (ended : face.ended = true) :
    ∃ face', y.faces[i]? = some face' ∧ face'.ended = true := by
  induction beats with
  | refl => exact ⟨face, at_, ended⟩
  | tail _ beat ih =>
    obtain ⟨face', shown, ended'⟩ := ih
    exact beat.stays_over shown ended'

/-- A session that is over is not live. -/
theorem not_live_of_ended (at_ : c.sessions[i]? = some s) (ended : s.ended = true) :
    ¬ c.Live i := by
  rintro ⟨s', at', going⟩
  cases at_.symm.trans at'
  exact absurd (going.symm.trans ended) Bool.false_ne_true

/-- A session that is over stays so. -/
theorem over_of_step (h : Sound c) (stepped : c.step a = some c') (at_ : c.sessions[i]? = some s)
    (ended : s.ended = true) : ∃ s', c'.sessions[i]? = some s' ∧ s'.ended = true := by
  obtain ⟨face, shown, gone⟩ := ((move_of_step h stepped).beats h).stays_over (face_at at_) ended
  rw [scene, List.getElem?_map] at shown
  obtain ⟨s', at', rfl⟩ := Option.map_eq_some_iff.mp shown
  exact ⟨s', at', gone⟩

/-- A session that lives after a step lived before it, unless it is new. -/
theorem live_of_step (h : Sound c) (stepped : c.step a = some c') (there : i < c.sessions.length)
    (live : c'.Live i) : c.Live i := by
  have at_ := List.getElem?_eq_getElem there
  cases ended : c.sessions[i].ended with
  | false => exact ⟨_, at_, ended⟩
  | true =>
    obtain ⟨s', at', gone⟩ := over_of_step h stepped at_ ended
    exact absurd live (not_live_of_ended at' gone)

/-- A session that a task changed and ended is over. -/
theorem not_live_of_end (h : Sound c) {f : Session → Session}
    (keeps : ∀ s, (f s).ended = s.ended) (commutes : ∀ s, f s.finish = (f s).finish)
    (e : Option ConnectionError) : ¬ ((c.modifySession i f).endSession i e).Live i := by
  rw [endSession_modifySession keeps commutes, live_modifySession fun s _ => keeps s]
  by_cases live : c.Live i
  · rw [h.endSession_eq live]
    rintro ⟨s', at_, going⟩
    rw [(afterEnd_frame e).1] at at_
    exact h.not_live_vacate live i ⟨s', at_, going⟩
  · rwa [endSession_of_over live]

/-! ## The tasks of a session -/

/-- A step that asks for no ping changes a session. -/
theorem pulse_of_change (h : Sound c) (at_ : c.sessions[i]? = some s)
    (stepped : c.step a = some c') {s' : Session} (change : s.ended = false → Change c i s [] s')
    (changed : c'.chart = { c.chart with bodies := c.chart.bodies.set i s'.finish }) :
    Pulse c c' [] := by
  have there := (List.getElem?_eq_some_iff.mp at_).1
  cases ended : s.ended with
  | false => exact .changes at_ ended (change ended) changed
  | true =>
    have before := not_live_of_ended at_ ended
    exact .ends there (fun live => before (live_of_step h stepped there live)) .silent changed

/-- A task changes its session and ends it. -/
theorem pulse_of_end (h : Sound c) (at_ : c.sessions[i]? = some s) {f : Session → Session}
    {e : Option ConnectionError} (eq : c' = (c.modifySession i f).endSession i e)
    (keeps : ∀ s, (f s).ended = s.ended) (commutes : ∀ s, f s.finish = (f s).finish)
    (cause : s.ended = false → Cause c i e) : Pulse c c' [] := by
  have there := (List.getElem?_eq_some_iff.mp at_).1
  have dead := not_live_of_end (i := i) h keeps commutes e
  rw [eq]
  rw [endSession_modifySession keeps commutes] at dead ⊢
  cases ended : s.ended with
  | false =>
    have live : c.Live i := ⟨s, at_, ended⟩
    have after : (c.endSession i e).sessions[i]? = some s.finish := by
      rw [h.endSession_eq live, (afterEnd_frame e).1, vacate_at at_]
    have changed : ((c.endSession i e).modifySession i f).chart =
        Chart.lose { c.chart with bodies := c.chart.bodies.set i (f s.finish).finish } c.now i
          e := by
      rw [chart_modifySession after, chart_endSession h live]
      cases e <;> rfl
    exact .ends there dead (cause ended) changed
  | true =>
    rw [endSession_of_over (not_live_of_ended at_ ended)] at dead ⊢
    exact .ends there dead .silent (chart_modifySession at_ f)

/-- A look of a reader is a pulse without a ping: it hears, skips a piece, or ends the session for a
cause. -/
theorem pulse_of_reader (h : Sound c) (at_ : c.sessions[i]? = some s)
    (looked : c.lookReader i s = some c') : Pulse c c' [] := by
  have stepped : c.step (.lookReader i) = some c' := by rw [step, at_, Option.bind_some, looked]
  unfold lookReader at looked
  split at looked
  case h_1 => cases looked
  case h_2 deadline point =>
    split at looked
    case isTrue cut =>
      cases looked
      exact pulse_of_end h at_ rfl (fun _ => rfl) (fun _ => rfl) fun _ => .silent
    case isFalse uncut =>
      have up : c.cancelled = false := by
        simp only [isCut, Bool.or_eq_true, not_or, Bool.not_eq_true] at uncut
        exact uncut.1
      split at looked
      case h_1 item rest head =>
        cases looked
        have hears (complete : item.isMessage = true) :
            Change c i s [] (s.hear rest c.now c.settings.readTimeout) := .hears up head complete
        have renewed : ((c.modifySession i ({ · with inbox := rest })).renewRead i).chart =
            { c.chart with bodies :=
                c.chart.bodies.set i (s.hear rest c.now c.settings.readTimeout).finish } := by
          rw [renewRead, modifySession_modifySession, chart_modifySession at_]
          rfl
        cases item with
        | piece =>
          exact pulse_of_change h at_ stepped (fun _ => .skips head) (chart_modifySession at_ _)
        | data payload => exact pulse_of_change h at_ stepped (fun _ => hears rfl) renewed
        | ping => exact pulse_of_change h at_ stepped (fun _ => hears rfl) renewed
        | pong => exact pulse_of_change h at_ stepped (fun _ => hears rfl) renewed
        | close =>
          rw [takeInbound, stopReading, modifySession_modifySession, modifySession_modifySession]
          exact pulse_of_end h at_ rfl (fun _ => rfl) (fun _ => rfl) fun _ => .silent
        | failed e =>
          rw [takeInbound, stopReading, modifySession_modifySession]
          exact pulse_of_end h at_ rfl (fun _ => rfl) (fun _ => rfl) fun _ => .webSocket e
        | ended =>
          rw [takeInbound, stopReading, modifySession_modifySession]
          exact pulse_of_end h at_ rfl (fun _ => rfl) (fun _ => rfl) fun _ => .silent
      case h_2 empty =>
        split at looked
        case isTrue late =>
          cases looked
          exact pulse_of_end h at_ rfl (fun _ => rfl) (fun _ => rfl) fun going =>
            .overdue at_ going point late empty
        case isFalse => cases looked

/-- A writer that fails ends its session, or finds it over. -/
theorem pulse_of_failWriting (h : Sound c) (at_ : c.sessions[i]? = some s) {e : ConnectionError}
    (cause : Cause c i (some e)) : Pulse c (c.failWriting i e) [] := by
  have swapped := endSession_modifySession (c := c) (i := i) (f := Session.stopWriter)
    (fun _ => rfl) (fun _ => rfl) (some e)
  exact pulse_of_end h at_ swapped.symm (fun _ => rfl) (fun _ => rfl) fun _ => cause

/-- The writer changes its session and gives a frame to the socket. -/
theorem chart_beginWrite (at_ : c.sessions[i]? = some s) (f : Session → Session) (origin : Origin)
    (frame : Frame) : ((c.modifySession i f).beginWrite i origin frame).chart =
      { c.chart with bodies := c.chart.bodies.set i ({ f s with
          writer := .writing origin frame (c.now + c.settings.writeTimeout.nanos) } :
            Session).finish } := by
  have same : ((c.modifySession i f).beginWrite i origin frame).chart =
      ((c.modifySession i f).modifySession i fun s =>
        { s with writer := .writing origin frame (c.now + c.settings.writeTimeout.nanos) }).chart :=
    rfl
  rw [same, modifySession_modifySession, chart_modifySession at_]
  rfl

/-- A look of a writer is a pulse without a ping of the keeper: the ping that it takes was asked for
before. -/
theorem pulse_of_writer (h : Sound c) (at_ : c.sessions[i]? = some s)
    (looked : c.lookWriter i s = some c') : Pulse c c' [] := by
  have stepped : c.step (.lookWriter i) = some c' := by rw [step, at_, Option.bind_some, looked]
  unfold lookWriter at looked
  split at looked
  case h_1 => cases looked
  case h_2 point =>
    split at looked
    case isTrue cut =>
      cases looked
      have swapped := endSession_modifySession (c := c) (i := i)
        (f := fun s : Session =>
          { s with writer := .closing (c.now + c.settings.writeTimeout.nanos) })
        (fun _ => rfl) (fun _ => rfl) none
      exact pulse_of_end h at_ swapped.symm (fun _ => rfl) (fun _ => rfl) fun _ => .silent
    case isFalse uncut =>
      split at looked
      case isTrue waits =>
        cases looked
        refine pulse_of_change h at_ stepped (fun _ => .writes
          (.writing .keeper (.ping []) (c.now + c.settings.writeTimeout.nanos)) false s.queue
          (fun _ => ⟨nofun, nofun⟩)) ?_
        exact chart_beginWrite at_ _ _ _
      case isFalse none_ =>
        split at looked
        case h_1 frame queue taken =>
          cases looked
          refine pulse_of_change h at_ stepped (fun _ => .writes
            (.writing .queue frame (c.now + c.settings.writeTimeout.nanos)) s.pingWaiting queue
            (fun _ => ⟨nofun, nofun⟩)) ?_
          exact chart_beginWrite at_ _ _ _
        case h_2 => cases looked
  case h_3 origin frame deadline point =>
    split at looked
    · cases looked
      exact pulse_of_failWriting h at_ (.writeTimeout _)
    · cases looked
  case h_4 deadline point =>
    split at looked
    · cases looked
      refine pulse_of_change h at_ stepped (fun _ => .writes .stopped s.pingWaiting _ ?_)
        (chart_modifySession at_ Session.stopWriter)
      rw [point]
      exact fun going => absurd rfl (going.2 deadline)
    · cases looked

/-- An answer of the socket is a pulse without a ping. -/
theorem pulse_of_socket (h : Sound c) (at_ : c.sessions[i]? = some s)
    {result : Except WebSocketError Unit} (answered : c.socketAnswered i s result = some c') :
    Pulse c c' [] := by
  have stepped : c.step (.socket i result) = some c' := by
    rw [step, at_, Option.bind_some, answered]
  unfold socketAnswered at answered
  split at answered
  case h_1 origin frame deadline point =>
    cases answered
    have same : (c.wrote i origin frame).sessions = c.sessions := by
      unfold wrote
      dsimp only
      split <;> rfl
    refine pulse_of_change h at_ stepped
      (fun _ => .writes .idle s.pingWaiting s.queue (fun _ => ⟨nofun, nofun⟩)) ?_
    rw [chart_modifySession (same ▸ at_), chart_wrote]
  case h_2 e point =>
    cases answered
    exact pulse_of_failWriting h at_ (.webSocket e)
  case h_3 deadline point =>
    cases answered
    refine pulse_of_change h at_ stepped (fun _ => .writes .stopped s.pingWaiting _ ?_)
      (chart_modifySession at_ Session.stopWriter)
    rw [point]
    exact fun going => absurd rfl (going.2 deadline)
  case h_4 => cases answered

/-- A look of a keeper asks for a ping exactly if one waits afterwards. -/
theorem asked_at (at_ : c'.sessions[i]? = some s) :
    asked c (.lookKeeper i) c' = if s.pinging then [(c.now, i)] else [] := by
  rw [asked, at_]
  rfl

/-- Where a session is over after a look of its keeper, no ping is asked for. -/
theorem asked_of_over (dead : ¬ c'.Live i) : asked c (.lookKeeper i) c' = [] := by
  cases at_ : c'.sessions[i]? with
  | none => rw [asked, at_]; rfl
  | some s =>
    have ended : s.ended = true := (Bool.not_eq_false _).mp fun going => dead ⟨s, at_, going⟩
    rw [asked_at at_, Session.pinging, ended]
    rfl

/-- A look of a keeper is a pulse with the ping it asks for. -/
theorem pulse_of_keeper (h : Sound c) (at_ : c.sessions[i]? = some s)
    (looked : c.lookKeeper i s = some c') : Pulse c c' (asked c (.lookKeeper i) c') := by
  have stepped : c.step (.lookKeeper i) = some c' := by rw [step, at_, Option.bind_some, looked]
  have ends {e : ConnectionError} (eq : c.stopKeeping i e = c')
      (cause : s.ended = false → Cause c i (some e)) : Pulse c c' (asked c (.lookKeeper i) c') := by
    have dead : ¬ (c.stopKeeping i e).Live i :=
      not_live_of_end (f := fun s => { s with keeper := .stopped }) h (fun _ => rfl)
        (fun _ => rfl) (some e)
    rw [asked_of_over (eq ▸ dead)]
    exact pulse_of_end h at_ eq.symm (fun _ => rfl) (fun _ => rfl) cause
  have dismissed (cut : c.isCut s = true)
      (eq : c' = c.modifySession i ({ · with keeper := .stopped })) :
      Pulse c c' (asked c (.lookKeeper i) c') := by
    have none_ : asked c (.lookKeeper i) c' = [] := by
      rw [eq, asked_at (sessions_modifySession at_ _), Session.pinging]
      simp
    rw [none_]
    refine pulse_of_change h at_ stepped (fun going => .dismissed ?_)
      (eq ▸ chart_modifySession at_ _)
    rwa [isCut, going, Bool.or_false] at cut
  unfold lookKeeper at looked
  split at looked
  case h_1 => cases looked
  case h_2 =>
    split at looked
    case isTrue cut => exact dismissed cut (Option.some.inj looked).symm
    case isFalse => cases looked
  case h_3 due point =>
    split at looked
    case isTrue cut => exact dismissed cut (Option.some.inj looked).symm
    case isFalse uncut =>
      simp only [isCut, Bool.or_eq_true, not_or, Bool.not_eq_true] at uncut
      obtain ⟨up, going⟩ := uncut
      split at looked
      case isFalse => cases looked
      case isTrue late =>
        have ticked := Option.some.inj looked
        unfold tick at ticked
        dsimp only at ticked
        split at ticked
        case isTrue long => exact ends ticked fun _ => .unheard at_ going up point late long
        case isFalse heard =>
          split at ticked
          case isTrue stopped => exact ends ticked fun _ => .unattended at_ going stopped
          case isFalse =>
            have one : asked c (.lookKeeper i) c' = [(c.now, i)] := by
              rw [← ticked, asked_at (sessions_modifySession at_ _), Session.pinging, going]
              rfl
            rw [one]
            exact .changes at_ going (.asks point late (Nat.le_of_not_lt heard))
              (ticked ▸ chart_modifySession at_ _)

/-! ## Every step -/

/-- A call to send is a pulse without a ping. It puts a frame into the queue at most. -/
theorem pulse_of_send (h : Sound c) (frame : Frame) : Pulse c (c.send frame) [] := by
  unfold send
  dsimp only
  split
  · exact .calm rfl
  · cases installed : (c.begin (.send frame)).slot with
    | none => exact .calm rfl
    | some i =>
      obtain ⟨s, at_, going⟩ := h.slot_live i installed
      have there : (c.begin (.send frame)).sessions[i]? = some s := at_
      simp only [there]
      refine .changes at_ going (.requeues (s.queue.offer c.now (c.isCut s) c.fresh frame
        c.settings.sendTimeout).1) ?_
      rw [chart_settlePush, chart_modifySession there, chart_begin]
      rfl

/-- A look of a send is a pulse without a ping. -/
theorem pulse_of_lookSend (h : Sound c) (at_ : c.sessions[i]? = some s) {call : Nat}
    (looked : c.lookSend i s call = some c') : Pulse c c' [] := by
  have stepped : c.step (.lookSend i call) = some c' := by
    rw [step, at_, Option.bind_some, looked]
  unfold lookSend at looked
  split at looked
  · cases looked
  · dsimp only at looked
    split at looked
    · cases looked
    · cases looked
      refine pulse_of_change h at_ stepped
        (fun _ => .requeues (s.queue.resume c.now (c.isCut s) call).1) ?_
      rw [chart_settlePush, chart_modifySession at_]

/-- A look of a disconnect leaves the chart or ends the tasks of a session. -/
theorem pulse_of_teardown {t : Teardown} (looked : c.lookTeardown t = some c') :
    Pulse c c' [] := by
  unfold lookTeardown at looked
  split at looked
  · cases looked
    exact .calm (chart_finishTeardown t)
  case h_2 s at_ =>
    split at looked
    · cases looked
      exact .calm (chart_finishTeardown t)
    · split at looked
      · cases looked
        have changed : ((c.modifySession t.session Session.abort).finishTeardown t).chart =
            { c.chart with bodies := c.chart.bodies.set t.session s.abort.finish } := by
          rw [chart_finishTeardown, chart_modifySession at_]
        exact .ends (List.getElem?_eq_some_iff.mp at_).1 not_live_retire .silent changed
      · cases looked

/-- A handshake succeeds. -/
theorem pulse_of_dialDone (h : Sound c) (d : Dialer) :
    Pulse c ((c.dropDialer d.number).dialDone d.number d.byCaller) [] := by
  unfold dialDone
  cases up : (c.dropDialer d.number).cancelled with
  | true => exact .calm (chart_dialClosed _ _)
  | false =>
    have installed := chart_install (h.dropDialer d.number) up
    refine .begins up ?_
    rw [if_neg Bool.false_ne_true]
    dsimp only
    split <;> exact installed

/-- Every step is a pulse. What is proved of the deadline of the reader and of the pings goes by
these cases. -/
theorem pulse_of_step (h : Sound c) (stepped : c.step a = some c') :
    Pulse c c' (asked c a c') := by
  cases a with
  | connect =>
    cases stepped
    exact .calm (chart_beginDial _ _)
  | disconnect =>
    cases stepped
    exact .calm chart_disconnect
  | send frame =>
    cases stepped
    exact pulse_of_send h frame
  | load number result =>
    obtain ⟨d, -, rfl⟩ := Option.map_eq_some_iff.mp stepped
    exact .calm (chart_loaded d result)
  | dial number result =>
    obtain ⟨d, -, rfl⟩ := Option.map_eq_some_iff.mp stepped
    cases result with
    | error e => exact .calm (chart_dialFailed _ _ _)
    | ok done => exact pulse_of_dialDone h d
  | lookDialer number =>
    obtain ⟨d, -, looked⟩ := Option.bind_eq_some_iff.mp stepped
    exact .calm (chart_lookDialer looked)
  | arrive i item =>
    obtain ⟨s, at_, rfl⟩ := Option.map_eq_some_iff.mp stepped
    have noted (c : Connection) : (c.note (.arrived i item)).chart =
        { c.chart with
          signals := (if item.isMessage then [(c.now, .heard i)] else []) ++ c.chart.signals } := by
      cases item <;> rfl
    exact .arrives item at_ (by rw [noted, chart_modifySession at_]; rfl)
  | lookReader i =>
    obtain ⟨s, at_, looked⟩ := Option.bind_eq_some_iff.mp stepped
    exact pulse_of_reader h at_ looked
  | lookWriter i =>
    obtain ⟨s, at_, looked⟩ := Option.bind_eq_some_iff.mp stepped
    exact pulse_of_writer h at_ looked
  | socket i result =>
    obtain ⟨s, at_, answered⟩ := Option.bind_eq_some_iff.mp stepped
    exact pulse_of_socket h at_ answered
  | lookKeeper i =>
    obtain ⟨s, at_, looked⟩ := Option.bind_eq_some_iff.mp stepped
    exact pulse_of_keeper h at_ looked
  | lookSend i call =>
    obtain ⟨s, at_, looked⟩ := Option.bind_eq_some_iff.mp stepped
    exact pulse_of_lookSend h at_ looked
  | lookTeardown =>
    obtain ⟨t, -, looked⟩ := Option.bind_eq_some_iff.mp stepped
    exact pulse_of_teardown looked
  | advance nanos =>
    cases stepped
    exact .calm rfl

/-! ## One session that goes on -/

/-- A ping is asked for by the keeper of the session that changes. -/
theorem Change.own {s' : Session} {asks : List (Nat × Nat)} (change : Change c i s asks s') :
    ∀ x ∈ asks, x.2 = i := by
  cases change with
  | asks => simp
  | _ => nofun

/-- How a session comes out of a step that it outlives. -/
inductive Outlives (c c' : Connection) (i : Nat) : List (Nat × Nat) → Session → Prop where
  /-- The step had to do with other sessions. -/
  | beside {s : Session} {asks : List (Nat × Nat)} (more : List (Nat × Signal))
      (there : i < c.sessions.length) (at_ : c.chart.bodies[i]? = some s)
      (signalled : c'.chart.signals = more ++ c.chart.signals)
      (other : ∀ x ∈ more, x.2.reaches i = false) (unasked : ∀ x ∈ asks, x.2 ≠ i) :
      Outlives c c' i asks s
  | begun (new_ : c.chart.bodies.length = i)
      (signalled : c'.chart.signals = (c.now, .began i) :: c.chart.signals) :
      Outlives c c' i [] c.newSession.finish
  | arrived {s : Session} (item : Inbound) (at_ : c.sessions[i]? = some s)
      (signalled : c'.chart.signals =
        (if item.isMessage then [(c.now, .heard i)] else []) ++ c.chart.signals) :
      Outlives c c' i [] { s.finish with inbox := s.inbox ++ [item] }
  | changed {s s' : Session} {asks : List (Nat × Nat)} (at_ : c.sessions[i]? = some s)
      (signalled : c'.chart.signals = c.chart.signals) (change : Change c i s asks s') :
      Outlives c c' i asks s'.finish

/-- A session that is live after a step comes out of it in one of four ways: the step had to do with
others, began it, brought it something, or changed it. -/
theorem Pulse.outlives {asks : List (Nat × Nat)} (pulse : Pulse c c' asks) (live : c'.Live j)
    (at_ : c'.chart.bodies[j]? = some s) : Outlives c c' j asks s := by
  have bound {s : Session} (at_ : c.chart.bodies[j]? = some s) : j < c.sessions.length :=
    length_bodies ▸ (List.getElem?_eq_some_iff.mp at_).1
  cases pulse with
  | calm same =>
    rw [same] at at_
    exact .beside [] (bound at_) at_ (by rw [same]; rfl) nofun nofun
  | begins up opened =>
    have signalled : c'.chart.signals =
        [(c.now, .began c.chart.bodies.length)] ++ c.chart.signals := by rw [opened]; rfl
    rw [opened, Chart.enrol] at at_
    rcases Nat.lt_or_ge j c.chart.bodies.length with old | new_
    · rw [List.getElem?_append_left old] at at_
      refine .beside _ (bound at_) at_ signalled (fun x mem => ?_) nofun
      rw [List.mem_singleton.mp mem]
      simpa [Signal.reaches] using Nat.ne_of_gt old
    · have there := (List.getElem?_eq_some_iff.mp at_).1
      rw [List.length_append, List.length_singleton] at there
      obtain rfl : j = c.chart.bodies.length := Nat.le_antisymm (Nat.le_of_lt_succ there) new_
      rw [List.getElem?_concat_length] at at_
      cases at_
      exact .begun rfl signalled
  | @arrives i s' item there arrived =>
    have signalled : c'.chart.signals =
        (if item.isMessage then [(c.now, .heard i)] else []) ++ c.chart.signals := by rw [arrived]
    rw [arrived] at at_
    by_cases own : i = j
    · subst own
      rw [List.getElem?_set_self (length_bodies ▸ (List.getElem?_eq_some_iff.mp there).1)] at at_
      cases at_
      exact .arrived item there signalled
    · rw [List.getElem?_set_ne own] at at_
      refine .beside _ (bound at_) at_ signalled (fun x mem => ?_) nofun
      split at mem
      · rw [List.mem_singleton.mp mem]
        simpa [Signal.reaches] using own
      · cases mem
  | @changes i s₀ s' _ there going change changed =>
    have signalled : c'.chart.signals = c.chart.signals := by rw [changed]
    rw [changed] at at_
    by_cases own : i = j
    · subst own
      rw [List.getElem?_set_self (length_bodies ▸ (List.getElem?_eq_some_iff.mp there).1)] at at_
      cases at_
      exact .changed there signalled change
    · rw [List.getElem?_set_ne own] at at_
      exact .beside [] (bound at_) at_ signalled nofun fun x mem same =>
        own ((change.own x mem).symm.trans same)
  | @ends i body e there dead cause ended =>
    have own : i ≠ j := by rintro rfl; exact dead live
    rw [ended] at at_
    cases e with
    | none =>
      have at_ : c.chart.bodies[j]? = some s := (List.getElem?_set_ne own).symm.trans at_
      exact .beside [] (bound at_) at_ (by rw [ended]; rfl) nofun nofun
    | some e =>
      have at_ : c.chart.bodies[j]? = some s := (List.getElem?_set_ne own).symm.trans at_
      exact .beside [(c.now, .lost i e)] (bound at_) at_ (by rw [ended]; rfl)
        (fun x mem => by rw [List.mem_singleton.mp mem]; rfl) nofun

/-- A loss that the history signals was signalled before, or is what the step came to. -/
theorem Pulse.lost {asks : List (Nat × Nat)} (pulse : Pulse c c' asks) {moment : Nat}
    {e : ConnectionError} {before : List (Nat × Signal)}
    (suffix : (moment, .lost i e) :: before <:+ c'.chart.signals) :
    (moment, .lost i e) :: before <:+ c.chart.signals ∨
      asks = [] ∧ moment = c.now ∧ before = c.chart.signals ∧
        i < c.sessions.length ∧ ¬ c'.Live i ∧ Cause c i (some e) := by
  cases pulse with
  | calm same =>
    rw [same] at suffix
    exact .inl suffix
  | begins up opened =>
    rw [opened, Chart.enrol] at suffix
    rcases List.suffix_cons_iff.mp suffix with first | suffix
    · cases first
    · exact .inl suffix
  | arrives item at_ arrived =>
    rw [arrived] at suffix
    cases message : item.isMessage with
    | false =>
      rw [message] at suffix
      exact .inl suffix
    | true =>
      rw [message] at suffix
      rcases List.suffix_cons_iff.mp suffix with first | suffix
      · cases first
      · exact .inl suffix
  | changes at_ going change changed =>
    rw [changed] at suffix
    exact .inl suffix
  | @ends j body e there dead cause ended =>
    rw [ended] at suffix
    cases e with
    | none => exact .inl suffix
    | some e =>
      rcases List.suffix_cons_iff.mp suffix with first | suffix
      · cases first
        exact .inr ⟨rfl, rfl, rfl, there, dead, cause⟩
      · exact .inl suffix

end Connection

end StationPool
