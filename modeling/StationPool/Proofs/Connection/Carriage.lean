import StationPool.Proofs.Connection.Pending
import StationPool.Proofs.Connection.Traffic
import StationPool.Proofs.Queue.Slots

/-!
# What the sockets are given

Every step is a passage of the frames (`passage_of_step`): most of what a connection does leaves them
alone, and what is left are the sends and the writers. With the two invariants of passages this says
what every socket is given in every run (`sockets_get_accepted_frames`).
-/

namespace StationPool

/-- The bytes that a message carries. -/
def Message.payload : Message → Bytes
  | .text p | .binary p | .ping p | .pong p => p
  | .close _ => []

/-- A frame becomes a message of its kind with the same bytes. -/
theorem Frame.message_payload (f : Frame) : f.message.payload = f.payload := by
  cases f with
  | data p =>
    simp only [message]
    split <;> rfl
  | ping p => rfl
  | pong p => rfl
  | close => rfl

namespace Connection

variable {c : Connection} {i : Nat}

/-! ## What leaves the frames alone -/

/-- A call says nothing of frames until its push is settled. -/
@[simp] theorem transit_begin (request : Request) : (c.begin request).transit = c.transit := rfl

/-- Nor does its end. -/
@[simp] theorem transit_answer (call : Nat) (outcome : Outcome) :
    (c.answer call outcome).transit = c.transit := rfl

/-- The observer hears of messages and sessions, not of what goes out. -/
@[simp] theorem transit_tell (session : Option Nat) (what : Observation) :
    (c.tell session what).transit = c.transit := rfl

@[simp] theorem transit_enter (next : Lifecycle) : (c.enter next).transit = c.transit := rfl

@[simp] theorem transit_fail (session : Option Nat) (e : ConnectionError) :
    (c.fail session e).transit = c.transit := rfl

@[simp] theorem transit_addDialer (number : Nat) (byCaller : Bool) (stage : Stage) :
    (c.addDialer number byCaller stage).transit = c.transit := rfl

@[simp] theorem transit_dialing (number : Nat) :
    (c.note (.dialing number)).transit = c.transit := rfl

/-- A change of one session is a change of its lane. -/
theorem transit_modifySession {f : Session → Session} {g : Lane → Lane}
    (acts : ∀ s, (f s).lane = g s.lane) :
    (c.modifySession i f).transit = { c.transit with lanes := c.transit.lanes.modify i g } := by
  have lanes : (c.sessions.modify i f).map Session.lane =
      (c.sessions.map Session.lane).modify i g := by
    apply List.ext_getElem?
    intro j
    simp only [List.getElem?_map, List.getElem?_modify]
    cases c.sessions[j]? with
    | none => rfl
    | some s => by_cases own : i = j <;> simp [own, acts]
  simp only [transit, modifySession, lanes]

/-- A change of a session outside of its lane does not show. -/
theorem transit_modifySession_same {f : Session → Session} (same : ∀ s, (f s).lane = s.lane) :
    (c.modifySession i f).transit = c.transit := by
  rw [transit_modifySession (g := id) same, List.modify_id]

/-- The end of a session leaves its lane as it is: what has been accepted may still be written, or
is lost when the writer stops. -/
@[simp] theorem transit_closeBooks : (c.closeBooks i).transit = c.transit :=
  transit_modifySession_same fun _ => rfl

/-- A session that gives way keeps its lane. -/
@[simp] theorem transit_retire : (c.retire i).transit = c.transit := by
  unfold retire
  split
  · rfl
  · split <;> simp

@[simp] theorem transit_retireCurrent : c.retireCurrent.transit = c.transit := by
  unfold retireCurrent
  split
  · rfl
  · exact transit_retire

@[simp] theorem transit_scheduleReconnect : c.scheduleReconnect.transit = c.transit := by
  unfold scheduleReconnect
  split
  · rfl
  · dsimp only
    split <;> rfl

/-- Nothing that follows the end of a session has to do with frames. -/
@[simp] theorem transit_afterEnd (e : Option ConnectionError) :
    (c.afterEnd i e).transit = c.transit := by
  unfold afterEnd
  cases e <;> dsimp only <;> split <;> simp

@[simp] theorem transit_endSession (e : Option ConnectionError) :
    (c.endSession i e).transit = c.transit := by
  unfold endSession
  split
  · rfl
  · split
    · rfl
    · dsimp only
      split
      · split
        · exact (transit_afterEnd e).trans transit_closeBooks
        · simp
      · simp

@[simp] theorem transit_dialClosed (number : Nat) (byCaller : Bool) :
    (c.dialClosed number byCaller).transit = c.transit := by
  unfold dialClosed
  split <;> rfl

/-- A dial that fails has no session, and so no lane. -/
@[simp] theorem transit_dialFailed (number : Nat) (byCaller : Bool) (e : ConnectionError) :
    (c.dialFailed number byCaller e).transit = c.transit := by
  unfold dialFailed
  split
  · simp
  · dsimp only
    split <;> simp

@[simp] theorem transit_beginHandshake (number : Nat) (byCaller : Bool) (h : Handshake) :
    (c.beginHandshake number byCaller h).transit = c.transit := by
  unfold beginHandshake
  split <;> simp

@[simp] theorem transit_beginDial (number : Nat) (byCaller : Bool) :
    (c.beginDial number byCaller).transit = c.transit := by
  unfold beginDial
  split
  · simp
  · dsimp only
    split
    · simp
    · split <;> simp

@[simp] theorem transit_finishTeardown (t : Teardown) : (c.finishTeardown t).transit = c.transit :=
  transit_retire

@[simp] theorem transit_awaitTasks (call session : Nat) (grace : Option Duration) :
    (c.awaitTasks call session grace).transit = c.transit := by
  cases grace <;> rfl

/-- A disconnect tells the tasks to stop; the lanes change when they do. -/
theorem transit_disconnect : c.disconnect.transit = c.transit := by
  unfold disconnect
  dsimp only
  split
  · rfl
  · split
    · rfl
    · exact transit_awaitTasks _ _ _

/-- A session that is installed has an empty lane. -/
theorem transit_install :
    c.install.transit = { c.transit with lanes := c.transit.lanes ++ [{}] } := by
  have lanes (c' : Connection) (same : c'.history = c.history)
      (more : c'.sessions = c.sessions ++ [c.newSession]) :
      c'.transit = { c.transit with lanes := c.transit.lanes ++ [{}] } := by
    simp only [transit, same, more, List.map_append]
    rfl
  unfold install
  dsimp only
  cases c.slot with
  | none =>
    dsimp only
    split
    · exact lanes _ rfl rfl
    · exact (transit_tell _ _).trans (lanes _ rfl rfl)
  | some j =>
    dsimp only
    split
    · exact transit_retire.trans (lanes _ rfl rfl)
    · exact (transit_tell _ _).trans (transit_retire.trans (lanes _ rfl rfl))

/-! ## The steps of the tasks -/

variable {s : Session} {a : Action} {c' : Connection}

/-- The lanes are those of the sessions, in order. -/
theorem lane_at (at_ : c.sessions[i]? = some s) : c.transit.lanes[i]? = some s.lane := by
  simp [transit, at_]

/-- Where neither the lanes nor the history of frames change, the passage is the calm one. -/
theorem passage_of_calm {x y : Transit} {call : Nat} (same : y = x) : Passage a call x y :=
  same ▸ .calm

/-- A change of one session that is there. -/
theorem transit_modifySession_at (at_ : c.sessions[i]? = some s) (before : c'.transit = c.transit)
    {f : Session → Session} (g : Lane → Lane) (acts : ∀ s, (f s).lane = g s.lane) :
    (c'.modifySession i f).transit =
      { c.transit with lanes := c.transit.lanes.set i (g s.lane) } := by
  rw [transit_modifySession acts, before, List.modify_eq_set_getElem?, lane_at at_]
  rfl

theorem transit_stopReading (e : Option ConnectionError) :
    (c.stopReading i e).transit = c.transit :=
  (transit_endSession e).trans (transit_modifySession_same fun _ => rfl)

theorem transit_renewRead : (c.renewRead i).transit = c.transit :=
  transit_modifySession_same fun _ => rfl

/-- The reader takes no part in what goes out, whatever comes in. -/
theorem transit_takeInbound (item : Inbound) : (c.takeInbound i item).transit = c.transit := by
  cases item with
  | piece => rfl
  | data payload => exact transit_renewRead
  | ping => exact transit_renewRead
  | pong => exact transit_renewRead
  | close =>
    refine (transit_stopReading _).trans ?_
    exact transit_modifySession_same (f := ({ · with lastInbound := c.now })) fun _ => rfl
  | failed e => exact transit_stopReading _
  | ended => exact transit_stopReading _

/-- No look of a reader moves a frame. -/
theorem transit_lookReader (looked : c.lookReader i s = some c') : c'.transit = c.transit := by
  unfold lookReader at looked
  split at looked
  · cases looked
  · split at looked
    · cases looked
      exact transit_stopReading _
    · split at looked
      case h_1 item rest _ =>
        cases looked
        refine (transit_takeInbound item).trans ?_
        exact transit_modifySession_same (f := ({ · with inbox := rest })) fun _ => rfl
      case h_2 =>
        split at looked
        · cases looked
          exact transit_stopReading _
        · cases looked

/-- The writer of a session stops: its lane loses what waited in the queue, and no other changes. -/
theorem transit_stopWriter (at_ : c.sessions[i]? = some s) (before : c'.transit = c.transit) :
    (c'.modifySession i Session.stopWriter).transit =
      { c.transit with
        lanes := c.transit.lanes.set i
          { s.lane with items := [], gone := true, writer := .stopped } } :=
  transit_modifySession_at at_ before
    (fun l => { l with items := [], gone := true, writer := .stopped }) fun _ => rfl

/-- A writer that stops is a passage, also where the books of the session were closed before. -/
theorem passage_stopWriter (at_ : c.sessions[i]? = some s) (before : c'.transit = c.transit)
    (call : Nat) : Passage a call c.transit (c'.modifySession i Session.stopWriter).transit := by
  rw [transit_stopWriter at_ before]
  exact .stops (lane_at at_)

/-- A write that fails ends the session and stops the writer. -/
theorem passage_failWriting (at_ : c.sessions[i]? = some s) (e : ConnectionError) (call : Nat) :
    Passage a call c.transit (c.failWriting i e).transit :=
  passage_stopWriter at_ (transit_endSession (some e)) call

/-- The lane of a session that changes and begins to write. -/
theorem transit_beginWrite (at_ : c.sessions[i]? = some s) {f : Session → Session}
    (g : Lane → Lane) (acts : ∀ s, (f s).lane = g s.lane) (origin : Origin) (frame : Frame) :
    ((c.modifySession i f).beginWrite i origin frame).transit =
      { c.transit with
        lanes := c.transit.lanes.set i
          { g s.lane with
            writer := .writing origin frame (c.now + c.settings.writeTimeout.nanos) }
        handed := ⟨i, origin, frame⟩ :: c.transit.handed } := by
  let write (s : Session) : Session :=
    { s with writer := .writing origin frame (c.now + c.settings.writeTimeout.nanos) }
  have eq := transit_modifySession_at at_ rfl (f := write ∘ f)
    (fun l => { g l with
      writer := .writing origin frame (c.now + c.settings.writeTimeout.nanos) })
    fun s => by rw [← acts s]; rfl
  rw [← modifySession_modifySession] at eq
  exact congrArg (fun x : Transit => { x with handed := ⟨i, origin, frame⟩ :: x.handed }) eq

/-- Slots that are given change nothing of who waits with what. -/
theorem waiting_grant (blocked : List (Blocked Frame)) :
    ((SendQueue.grant blocked).map fun b => (b.ticket, b.item)) =
      blocked.map fun b => (b.ticket, b.item) := by
  have same := congrArg (List.map fun b : Blocked Frame => (b.ticket, b.item))
    (SendQueue.grant_bare blocked)
  simpa [Blocked.bare, Function.comp_def] using same

/-- A look of a writer gives a waiting ping to the socket, else the first frame of the queue, or it
stops or begins to close. -/
theorem passage_of_writer (at_ : c.sessions[i]? = some s) (looked : c.lookWriter i s = some c')
    (call : Nat) : Passage (.lookWriter i) call c.transit c'.transit := by
  have lane := lane_at at_
  unfold lookWriter at looked
  split at looked
  case h_1 => cases looked
  case h_2 idle =>
    split at looked
    · cases looked
      rw [transit_modifySession_at at_ (transit_endSession none)
        (fun l => { l with writer := .closing (c.now + c.settings.writeTimeout.nanos) })
        fun _ => rfl]
      exact .closes _ lane idle
    · split at looked
      case isTrue waits =>
        cases looked
        rw [transit_beginWrite at_ (fun l => { l with pingWaiting := false }) fun _ => rfl]
        exact .pings (l := s.lane) _ lane rfl idle waits
      case isFalse none_ =>
        rw [Bool.not_eq_true] at none_
        unfold SendQueue.receive at looked
        cases items : s.queue.items with
        | nil =>
          rw [items] at looked
          cases looked
        | cons frame rest =>
          rw [items] at looked
          cases looked
          rw [transit_beginWrite at_
            (fun l => { l with
              items := rest
              gone := s.queue.receiverGone
              waiting := s.lane.waiting })
            fun s' => by simp [Session.lane, waiting_grant]]
          exact .hands (l := s.lane) _ lane rfl idle none_ items
  case h_3 =>
    split at looked
    · cases looked
      exact passage_failWriting at_ _ call
    · cases looked
  case h_4 =>
    split at looked
    · cases looked
      exact passage_stopWriter at_ rfl call
    · cases looked

/-- The answer of a socket completes a write or makes it fail, and a close frame is no write. -/
theorem passage_of_socket (at_ : c.sessions[i]? = some s) {result : Except WebSocketError Unit}
    (answered : c.socketAnswered i s result = some c') (call : Nat) :
    Passage a call c.transit c'.transit := by
  unfold socketAnswered at answered
  split at answered
  case h_1 origin frame deadline writing =>
    cases answered
    have wrote : (c.wrote i origin frame).transit =
        { c.transit with written := ⟨i, origin, frame⟩ :: c.transit.written } := by
      unfold Connection.wrote
      dsimp only
      split <;> rfl
    have eq : ((c.wrote i origin frame).modifySession i ({ · with writer := .idle })).transit =
        { c.transit with
          lanes := c.transit.lanes.set i { s.lane with writer := .idle }
          written := ⟨i, origin, frame⟩ :: c.transit.written } := by
      rw [transit_modifySession (g := fun l => { l with writer := .idle }) fun _ => rfl, wrote,
        List.modify_eq_set_getElem?, lane_at at_]
      rfl
    rw [eq]
    exact .takes (lane_at at_) writing
  case h_2 =>
    cases answered
    exact passage_failWriting at_ _ call
  case h_3 =>
    cases answered
    exact passage_stopWriter at_ rfl call
  case h_4 => cases answered

/-- A look of a keeper lets at most a ping wait. -/
theorem passage_of_keeper (at_ : c.sessions[i]? = some s) (looked : c.lookKeeper i s = some c')
    (call : Nat) : Passage (.lookKeeper i) call c.transit c'.transit := by
  have stops : (c.modifySession i ({ · with keeper := .stopped })).transit = c.transit :=
    transit_modifySession_same fun _ => rfl
  unfold lookKeeper at looked
  split at looked
  · cases looked
  · split at looked
    · cases looked
      exact passage_of_calm stops
    · cases looked
  · split at looked
    · cases looked
      exact passage_of_calm stops
    · split at looked
      · cases looked
        unfold tick
        dsimp only
        split
        · exact passage_of_calm ((transit_endSession _).trans stops)
        · split
          · exact passage_of_calm ((transit_endSession _).trans stops)
          · rw [transit_modifySession_at at_ rfl (fun l => { l with pingWaiting := true })
              fun _ => rfl]
            exact .asks (lane_at at_) rfl
      · cases looked

/-! ## The steps of the sends -/

/-- The lane of a session whose queue changes. -/
theorem transit_requeue (at_ : c.sessions[i]? = some s) (before : c'.transit = c.transit)
    (queue : SendQueue Frame) :
    (c'.modifySession i ({ · with queue })).transit =
      { c.transit with
        lanes := c.transit.lanes.set i
          { s.lane with
            items := queue.items
            gone := queue.receiverGone
            waiting := queue.blocked.map fun b => (b.ticket, b.item) } } :=
  transit_modifySession_at at_ before
    (fun l => { l with
      items := queue.items
      gone := queue.receiverGone
      waiting := queue.blocked.map fun b => (b.ticket, b.item) })
    fun _ => rfl

/-- A push that ends well is an acceptance. -/
theorem transit_settlePush_ok (call : Nat) (frame : Frame) :
    (c.settlePush i call frame (some (.ok ()))).transit =
      { c.transit with accepted := ⟨i, call, frame⟩ :: c.transit.accepted } := rfl

/-- A push that fails leaves no trace in the lanes or in the history of frames. -/
theorem transit_settlePush_error (call : Nat) (frame : Frame) (e : ConnectionError) :
    (c.settlePush i call frame (some (.error e))).transit = c.transit := rfl

/-- A send is accepted at once, refused, or waits at the queue of the installed session. -/
theorem passage_of_send (frame : Frame) :
    Passage (.send frame) c.fresh c.transit (c.send frame).transit := by
  unfold send
  dsimp only
  split
  · exact .calm
  · split
    · exact .calm
    · split
      · exact .calm
      case h_2 i _ _ s at_ =>
        have at_ : c.sessions[i]? = some s := at_
        have lane := lane_at at_
        have look := SendQueue.offered s.queue (c.begin (.send frame)).now
          ((c.begin (.send frame)).isCut s) c.fresh frame (c.begin (.send frame)).settings.sendTimeout
        generalize s.queue.offer _ _ _ _ _ = answer at look
        obtain ⟨queue, outcome⟩ := answer
        have requeued := transit_requeue at_ (transit_begin (.send frame)) queue
        cases look with
        | closed gone =>
          refine passage_of_calm ((transit_settlePush_error _ _ _).trans (requeued.trans ?_))
          exact congrArg ({ c.transit with lanes := · }) (set_of_getElem? lane)
        | refused stays none_ hurried =>
          refine passage_of_calm ((transit_settlePush_error _ _ _).trans (requeued.trans ?_))
          exact congrArg ({ c.transit with lanes := · }) (set_of_getElem? lane)
        | accepted stays free =>
          rw [transit_settlePush_ok, requeued]
          refine .passes (l := s.lane) lane rfl ?_
          simp only [Bool.or_eq_false_iff] at stays
          exact stays.2
        | waits stays none_ =>
          have passage : Passage (.send frame) c.fresh _ _ := .joins (l := s.lane) lane rfl
          have out : ((c.begin (.send frame)).modifySession i ({ · with queue := _ })).transit = _ :=
            requeued
          simp only [List.map_append, List.map_cons, List.map_nil] at out
          exact out ▸ passage

/-- Whoever is not the one that leaves waits on. -/
theorem waiting_others (q : SendQueue Frame) (ticket : Nat) :
    ((q.others ticket).map fun b => (b.ticket, b.item)) =
      (q.blocked.map fun b => (b.ticket, b.item)).filter (·.1 != ticket) := by
  simp [SendQueue.others, List.filter_map, Function.comp_def]

/-- A send that looks again is accepted, gives up, or goes on waiting; a slot that it passes on lets
nobody in yet. -/
theorem passage_of_lookSend (at_ : c.sessions[i]? = some s) {ticket : Nat}
    (looked : c.lookSend i s ticket = some c') (call : Nat) :
    Passage (.lookSend i ticket) call c.transit c'.transit := by
  have lane := lane_at at_
  unfold lookSend at looked
  split at looked
  case h_1 => cases looked
  case h_2 b found =>
    have own : b.ticket = ticket := by simpa using List.find?_some found
    have mem : (ticket, b.item) ∈ s.lane.waiting :=
      own ▸ List.mem_map_of_mem (List.mem_of_find?_eq_some found)
    have left (queue : SendQueue Frame) (e : ConnectionError) (items : queue.items = s.queue.items)
        (gone : queue.receiverGone = s.queue.receiverGone)
        (waiting : (queue.blocked.map fun b => (b.ticket, b.item)) =
          s.lane.waiting.filter (·.1 != ticket)) :
        Passage (.lookSend i ticket) call c.transit ((c.modifySession i ({ · with queue })).settlePush i ticket b.item
          (some (.error e))).transit := by
      rw [transit_settlePush_error, transit_requeue at_ rfl, items, gone, waiting]
      exact .leaves (l := s.lane) ticket lane
    unfold SendQueue.resume at looked
    simp only [found] at looked
    cases cut : (c.isCut s || s.queue.receiverGone) with
    | true =>
      simp only [cut, if_true] at looked
      cases looked
      refine left _ _ rfl rfl ?_
      dsimp only
      split
      · rw [waiting_grant, waiting_others]
        rfl
      · rw [waiting_others]
        rfl
    | false =>
      simp only [cut, Bool.false_eq_true, if_false] at looked
      cases granted : b.granted with
      | true =>
        simp only [granted, if_true] at looked
        cases looked
        rw [transit_settlePush_ok, transit_requeue at_ rfl, waiting_others]
        simp only [Bool.or_eq_false_iff] at cut
        exact .admits (l := s.lane) lane mem cut.2 rfl
      | false =>
        simp only [granted, Bool.false_eq_true, if_false] at looked
        by_cases due : b.deadline ≤ c.now
        · simp only [due, if_true] at looked
          cases looked
          exact left _ _ rfl rfl (waiting_others s.queue ticket)
        · simp only [due, if_false] at looked
          cases looked

/-- The disconnect that waits stops tasks and moves no frame. -/
theorem passage_of_teardown {t : Teardown} (looked : c.lookTeardown t = some c') (call : Nat) :
    Passage a call c.transit c'.transit := by
  unfold lookTeardown at looked
  split at looked
  · cases looked
    exact passage_of_calm (transit_finishTeardown t)
  · split at looked
    · cases looked
      exact passage_of_calm (transit_finishTeardown t)
    · split at looked
      · cases looked
        rw [transit_finishTeardown, transit_modifySession_at ‹_› rfl
          (fun l => { l with items := [], gone := true, writer := .stopped }) fun _ => rfl]
        exact .stops (lane_at ‹_›)
      · cases looked

/-! ## Every step -/

/-- A dial that is done opens a lane behind the others; it is empty, and nothing was accepted for
it. -/
theorem passage_of_dialDone (number : Nat) (byCaller : Bool) (call : Nat) :
    Passage a call c.transit (c.dialDone number byCaller).transit := by
  unfold dialDone
  split
  · exact passage_of_calm (transit_dialClosed number byCaller)
  · dsimp only
    split
    · rw [transit_answer, transit_install]
      exact .opens
    · rw [transit_install]
      exact .opens

/-- Every step is a passage of the frames. -/
theorem passage_of_step (stepped : c.step a = some c') :
    Passage a c.fresh c.transit c'.transit := by
  cases a with
  | connect =>
    cases stepped
    exact passage_of_calm (transit_beginDial _ _)
  | disconnect =>
    cases stepped
    exact passage_of_calm transit_disconnect
  | send frame =>
    cases stepped
    exact passage_of_send frame
  | load number result =>
    obtain ⟨d, -, rfl⟩ := Option.map_eq_some_iff.mp stepped
    refine passage_of_calm ?_
    unfold loaded
    dsimp only
    split
    · exact transit_dialFailed _ _ _
    · split
      · exact transit_dialClosed _ _
      · split
        · exact transit_dialFailed _ _ _
        · exact transit_beginHandshake _ _ _
  | dial number result =>
    obtain ⟨d, -, rfl⟩ := Option.map_eq_some_iff.mp stepped
    cases result with
    | error e => exact passage_of_calm (transit_dialFailed _ _ _)
    | ok done => exact passage_of_dialDone (c := c.dropDialer d.number) d.number d.byCaller c.fresh
  | lookDialer number =>
    obtain ⟨d, -, looked⟩ := Option.bind_eq_some_iff.mp stepped
    refine passage_of_calm ?_
    unfold lookDialer at looked
    split at looked
    · split at looked
      · cases looked
        rfl
      · split at looked
        · cases looked
          exact transit_beginDial _ _
        · cases looked
    · cases looked
    · split at looked
      · cases looked
        exact transit_dialClosed _ _
      · split at looked
        · cases looked
          exact transit_dialFailed _ _ _
        · cases looked
  | arrive i item =>
    obtain ⟨s, -, rfl⟩ := Option.map_eq_some_iff.mp stepped
    refine passage_of_calm ?_
    exact transit_modifySession_same (f := fun s => { s with inbox := s.inbox ++ [item] })
      fun _ => rfl
  | lookReader i =>
    obtain ⟨s, -, looked⟩ := Option.bind_eq_some_iff.mp stepped
    exact passage_of_calm (transit_lookReader looked)
  | lookWriter i =>
    obtain ⟨s, at_, looked⟩ := Option.bind_eq_some_iff.mp stepped
    exact passage_of_writer at_ looked c.fresh
  | socket i result =>
    obtain ⟨s, at_, answered⟩ := Option.bind_eq_some_iff.mp stepped
    exact passage_of_socket at_ answered c.fresh
  | lookKeeper i =>
    obtain ⟨s, at_, looked⟩ := Option.bind_eq_some_iff.mp stepped
    exact passage_of_keeper at_ looked c.fresh
  | lookSend i call =>
    obtain ⟨s, at_, looked⟩ := Option.bind_eq_some_iff.mp stepped
    exact passage_of_lookSend at_ looked c.fresh
  | lookTeardown =>
    obtain ⟨t, -, looked⟩ := Option.bind_eq_some_iff.mp stepped
    exact passage_of_teardown looked c.fresh
  | advance nanos =>
    cases stepped
    exact .calm

/-- Once the tasks of a session are told to stop, its writer gives nothing more to the socket. -/
theorem handed_of_cut (at_ : c.sessions[i]? = some s) (cut : c.isCut s = true)
    (stepped : c.step (.lookWriter i) = some c') : c'.transit.handed = c.transit.handed := by
  have looked : c.lookWriter i s = some c' := by simpa [step, at_] using stepped
  unfold lookWriter at looked
  split at looked
  · cases looked
  · rw [if_pos cut] at looked
    cases looked
    rw [transit_modifySession_at at_ (transit_endSession none)
      (fun l => { l with writer := .closing (c.now + c.settings.writeTimeout.nanos) })
      fun _ => rfl]
  · split at looked
    · cases looked
      rw [failWriting, transit_stopWriter at_ (transit_endSession _)]
    · cases looked
  · split at looked
    · cases looked
      rfl
    · cases looked

/-! ## Every run -/

/-- In every reachable connection the history of frames agrees with what the lanes carry. -/
theorem Reachable.carries {settings : ConnectionSettings} (reachable : Reachable settings c) :
    Carries c.transit := by
  induction reachable with
  | new => exact ⟨fun _ _ at_ => absurd at_ (by simp [transit, Connection.new]), fun _ _ => rfl⟩
  | step a _ stepped ih => exact ih.passage (passage_of_step stepped)

/-- In every reachable connection the frames accepted and those that wait are frames of sends, each
under the number of its call. -/
theorem Reachable.owned {settings : ConnectionSettings} (reachable : Reachable settings c) :
    Owned (requests c.history) c.transit := by
  induction reachable with
  | new => exact .new _
  | step a reachable stepped ih =>
    have h := reachable.sound
    have calls := (move_of_step h stepped).requests h
    refine ih.passage (passage_of_step stepped) ?_ ?_ ?_
    · intro q mem
      exact calls ▸ List.mem_append_right _ mem
    · rintro frame rfl
      exact calls ▸ List.mem_append_left _ List.mem_cons_self
    · exact fun q mem => Nat.ne_of_lt (h.called q mem)

/-- What the history tells of the frames of one session: what its queue accepted, what its writer
gave to the socket, and what of it the socket took. -/
def account (c : Connection) (i : Nat) : Account := c.transit.account i

/-- How the frames of a session went, up to now. -/
structure Conveyed (a : Account) (s : Session) : Prop where
  /-- Of what the queue accepted the socket was given a beginning, in order; -/
  given : queued a.handed <+: a.accepted
  /-- the rest waits, until the writer stops and it is dropped. -/
  whole : s.writer ≠ .stopped → queued a.handed ++ s.queue.items = a.accepted
  dropped : s.writer = .stopped → s.queue.items = []
  /-- What else the socket was given are empty pings. -/
  between : ∀ frame, (.keeper, frame) ∈ a.handed → frame = .ping []
  /-- The socket took what it was given, but perhaps the last frame. -/
  taken : ∃ cut, a.written ++ cut = a.handed ∧ cut.length ≤ 1 ∧
    (s.writer ≠ .stopped → cut = s.writer.pending)
  completed : queued a.written <+: a.accepted

/-- What the writer of a session may give to the socket in a step. -/
structure Polite (c : Connection) (a : Action) (c' : Connection) (i : Nat) (s : Session) :
    Prop where
  /-- A ping that waits goes first, and then none waits; else it is the first frame of the queue. -/
  gives : (c'.account i).handed = (c.account i).handed ∨
    a = .lookWriter i ∧ c.isCut s = false ∧ s.writer = .idle ∧
      (s.pingWaiting = true ∧
        (c'.account i).handed = (c.account i).handed ++ [(.keeper, .ping [])] ∧
        (∀ s', c'.sessions[i]? = some s' → s'.pingWaiting = false) ∨
      s.pingWaiting = false ∧ ∃ frame rest, s.queue.items = frame :: rest ∧
        (c'.account i).handed = (c.account i).handed ++ [(.queue, frame)])
  /-- No ping begins to wait but by a tick of the keeper. -/
  asks : s.pingWaiting = false → ∀ s', c'.sessions[i]? = some s' → s'.pingWaiting = true →
    a = .lookKeeper i

/-- What a lane carries, told by the queue and the writer of its session. -/
theorem Carried.conveyed {a : Account} (h : Carried a s.lane) : Conveyed a s := by
  obtain ⟨lost, split, none_⟩ := h.in_order
  obtain ⟨cut, taken, short, pending⟩ := h.completed
  have given : queued a.handed <+: a.accepted := by
    rw [← split, List.append_assoc]
    exact List.prefix_append _ _
  refine ⟨given, ?_, ?_, h.between, ⟨cut, taken, short, pending⟩, ?_⟩
  · intro going
    have there : s.lane.gone = false := by
      rw [← Bool.not_eq_true]
      exact fun gone => going (h.stopped.mp gone)
    rw [← split, none_ there, List.append_nil]
    rfl
  · exact fun stopped => h.dropped (h.stopped.mpr stopped)
  · refine List.IsPrefix.trans ?_ given
    rw [← taken, queued_append]
    exact List.prefix_append _ _

/-- What a step may give to a socket: a ping before any frame of the queue, else the first of the
queue, and nothing to a session whose writer has stopped. -/
theorem polite_of_step (stepped : c.step a = some c') (at_ : c.sessions[i]? = some s) :
    Polite c a c' i s := by
  have passage := passage_of_step stepped
  have lane := lane_at at_
  constructor
  · rcases passage.gives lane with same | ⟨rfl, idle, gives⟩
    · exact .inl same
    · cases cut : c.isCut s with
      | true => exact .inl (congrArg (sentOn i) (handed_of_cut at_ cut stepped))
      | false =>
        refine .inr ⟨rfl, rfl, idle, gives.imp ?_ id⟩
        rintro ⟨waits, given, none_⟩
        exact ⟨waits, given, fun s' after => none_ _ (lane_at after)⟩
  · intro none_ s' after waits
    exact passage.asks_of_keeper lane (lane_at after) none_ waits

/-- Whatever callers, dials, tasks, sockets and the clock do, in whatever order: the socket of each
session is given the frames that the queue of this session accepted, in that order, with empty pings
between them. A call is accepted by one session, once, and with its own frame; so no frame goes to
two sockets or twice to one. A ping that waits goes before the queue. And each frame goes out as a
message with its bytes. -/
theorem sockets_get_accepted_frames {settings : ConnectionSettings}
    (reachable : Reachable settings c) :
    (∀ i s, c.sessions[i]? = some s → Conveyed (c.account i) s) ∧
    (∀ i, c.sessions.length ≤ i → c.account i = ⟨[], [], []⟩) ∧
    ((acceptances c.history).map (·.call)).Nodup ∧
    (∀ e ∈ acceptances c.history, (e.call, .send e.frame) ∈ requests c.history) ∧
    (∀ a c', c.step a = some c' → ∀ i s, c.sessions[i]? = some s → Polite c a c' i s) ∧
    (∀ i, ∀ h ∈ (c.account i).handed, h.2.message.payload = h.2.payload) := by
  have carries := reachable.carries
  have owned := reachable.owned
  refine ⟨?_, ?_, owned.once, owned.accepted, ?_, fun _ h _ => h.2.message_payload⟩
  · exact fun i s at_ => (carries.lanes i s.lane (lane_at at_)).conveyed
  · intro i beyond
    exact carries.nowhere i (by simpa [transit] using beyond)
  · exact fun a c' stepped i s at_ => polite_of_step stepped at_

/-- Two frames are accepted, a ping overtakes them, and the socket fails at the second. -/
def cutOff : List Action :=
  [.connect, .dial 0 (.ok ()), .send (.data [1]), .send (.data [2]),
    .advance plain.keepaliveInterval.nanos, .lookKeeper 0, .lookWriter 0, .socket 0 (.ok ()),
    .lookWriter 0, .socket 0 (.ok ()), .lookWriter 0, .socket 0 (.error .connectionClosed)]

/-- A socket fails at the second of two frames. It has taken the first, was given the second after a
ping, and what it took is where what was accepted begins. -/
theorem cut_off_socket_gets_accepted_frames : ∃ c, (new plain).after cutOff = some c ∧
    queued (c.account 0).written = [.data [1]] ∧
    queued (c.account 0).written <+: (c.account 0).accepted ∧
    (c.account 0).handed =
      [(.keeper, .ping []), (.queue, .data [1]), (.queue, .data [2])] := by
  obtain ⟨c, run, reachable, outcome⟩ := @reachable_of_run plain cutOff
    (fun c => c.sessions[0]?.isSome ∧ queued (c.account 0).written = [.data [1]] ∧
      (c.account 0).handed =
        [(.keeper, .ping []), (.queue, .data [1]), (.queue, .data [2])]) (by decide +kernel)
  obtain ⟨there, written, handed⟩ := of_decide_eq_true outcome
  obtain ⟨s, at_⟩ := Option.isSome_iff_exists.mp there
  exact ⟨c, run, written, ((sockets_get_accepted_frames reachable).1 0 s at_).completed, handed⟩

end Connection

end StationPool
