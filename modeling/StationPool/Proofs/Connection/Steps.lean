import StationPool.Proofs.Connection.Moves

/-!
# Reading a move off a step

Every step of a sound connection is one of its moves: `move_of_step`. The cases follow the parties
that step: a dial, the three tasks of a session and its socket, a send, the disconnect.
-/

namespace StationPool.Connection

variable {c : Connection} {i : Nat} {s : Session}

/-! ## Dials -/

/-- A dial does not change the settings, nor whether the connection is going down. -/
theorem giveWay_frame : c.giveWay.settings = c.settings ∧ c.giveWay.cancelled = c.cancelled ∧
    c.giveWay.dialers = c.dialers ∧ c.giveWay.fresh = c.fresh := by
  have beside := beside_retireCurrent (c := c)
  rw [giveWay_eq]
  exact ⟨beside.settings, beside.cancelled, beside.dialers, beside.fresh⟩

/-- A dial whose request can be made begins its handshake exactly if the address can be dialed. -/
theorem beginHandshake_cases {h : Handshake} (asked : Handshake.ofSettings c.settings = .ok h)
    (number : Nat) (byCaller : Bool) :
    (¬ Dialable c.settings ∧
      ∃ e, c.beginHandshake number byCaller h = c.dialFailed number byCaller e) ∨
    (Dialable c.settings ∧ ∃ deadline, c.beginHandshake number byCaller h =
      (c.addDialer number byCaller (.handshaking deadline)).note (.dialing number)) := by
  unfold beginHandshake
  cases port : h.port? with
  | some p => exact .inr ⟨⟨h, p, asked, port⟩, _, rfl⟩
  | none =>
    refine .inl ⟨?_, _, rfl⟩
    rintro ⟨h', p, asked', port'⟩
    rw [asked] at asked'
    cases asked'
    rw [port] at port'
    cases port'

/-- The settings ask for nothing. -/
theorem beginDial_of_error (up : c.cancelled = false) {e : ConnectionError}
    (asked : Handshake.ofSettings c.giveWay.settings = .error e) (number : Nat)
    (byCaller : Bool) : c.beginDial number byCaller = c.giveWay.dialFailed number byCaller e := by
  have asked' : Handshake.ofSettings (c.enter .connecting).retireCurrent.settings = .error e :=
    asked
  unfold beginDial
  rw [up, if_neg Bool.false_ne_true]
  simp only [asked']
  rfl

/-- A dial with a request that can be made makes room first, and then loads its files, if it has
any, or begins the handshake at once. -/
theorem beginDial_of_ok (up : c.cancelled = false) {h : Handshake}
    (asked : Handshake.ofSettings c.giveWay.settings = .ok h) (number : Nat) (byCaller : Bool) :
    c.beginDial number byCaller =
      if c.giveWay.settings.tls.hasFiles then c.giveWay.addDialer number byCaller .loading
      else c.giveWay.beginHandshake number byCaller h := by
  have asked' : Handshake.ofSettings (c.enter .connecting).retireCurrent.settings = .ok h := asked
  unfold beginDial
  rw [up, if_neg Bool.false_ne_true]
  simp only [asked']
  rfl

/-- Where a dial begins, it fails at once, waits for the TLS material or for the handshake. -/
theorem beginDial_cases (up : c.cancelled = false) (number : Nat) (byCaller : Bool) :
    (¬ Dialable c.settings ∧
      ∃ e, c.beginDial number byCaller = c.giveWay.dialFailed number byCaller e) ∨
    c.beginDial number byCaller = c.giveWay.addDialer number byCaller .loading ∨
    (Dialable c.settings ∧ ∃ deadline, c.beginDial number byCaller =
      (c.giveWay.addDialer number byCaller (.handshaking deadline)).note (.dialing number)) := by
  cases asked : Handshake.ofSettings c.giveWay.settings with
  | error e =>
    refine .inl ⟨?_, e, beginDial_of_error up asked number byCaller⟩
    rintro ⟨h, port, found, -⟩
    rw [giveWay_frame.1, found] at asked
    cases asked
  | ok h =>
    rw [beginDial_of_ok up asked]
    cases files : c.giveWay.settings.tls.hasFiles with
    | true => exact .inr (.inl (if_pos rfl))
    | false =>
      rw [if_neg Bool.false_ne_true]
      have cases_ := beginHandshake_cases asked number byCaller
      rw [giveWay_frame.1] at cases_
      exact cases_.imp_right .inr

/-- A dial that a caller made tells the caller of its error. -/
theorem dialFailed_caller (up : c.cancelled = false) (number : Nat) (e : ConnectionError) :
    c.dialFailed number true e = c.dialError number e := by
  simp only [dialFailed, up, Bool.false_eq_true, if_false, if_true, dialError]

/-- A redial that fails is told to the observer, and the next redial is scheduled. -/
theorem dialFailed_redial (up : c.cancelled = false) (number : Nat) (e : ConnectionError) :
    c.dialFailed number false e = (c.fail none e).scheduleReconnect := by
  simp only [dialFailed, up, Bool.false_eq_true, if_false]

/-- A dial that fails after the connection went down is told as closed and to nobody else. -/
theorem dialFailed_gone (gone : c.cancelled = true) (number : Nat) (byCaller : Bool)
    (e : ConnectionError) : c.dialFailed number byCaller e = c.dialClosed number byCaller := by
  simp only [dialFailed, gone, if_true]

/-- The end of a dial that has failed. -/
theorem move_dialFailed {a : Action} {d : Dialer} (own : a.dial? = some d.number)
    (mem : d ∈ c.dialers) (e : ConnectionError) :
    Move c a ((c.dropDialer d.number).dialFailed d.number d.byCaller e) := by
  cases up : c.cancelled with
  | true =>
    rw [dialFailed_gone (c := c.dropDialer d.number) up]
    exact .dialClosed own mem up
  | false =>
    cases caller : d.byCaller with
    | true =>
      rw [dialFailed_caller (c := c.dropDialer d.number) up]
      exact .callerFails e own mem caller up
    | false =>
      rw [dialFailed_redial (c := c.dropDialer d.number) up]
      exact .redialFails e own mem caller up

/-- A dial is found under its own number. -/
theorem dialer?_some {number : Nat} {d : Dialer} (found : c.dialer? number = some d) :
    d ∈ c.dialers ∧ d.number = number :=
  ⟨List.mem_of_find?_eq_some found, by simpa using List.find?_some found⟩

/-- The settings ask for something that can be dialed, once a dial is past the TLS material. -/
theorem Sound.fit (h : Sound c) {d : Dialer} (mem : d ∈ c.dialers)
    (further : d.byCaller = false ∨ d.stage ≠ .loading) : Dialable c.settings := by
  rcases h.dialable d mem with ⟨caller, loading⟩ | fit
  · rcases further with redial | past
    · rw [redial] at caller
      cases caller
    · exact absurd loading past
  · exact fit

/-- The TLS material of a dial is there, or is not. -/
theorem move_of_load {d : Dialer} (mem : d ∈ c.dialers) (result : Except ConnectionError Unit) :
    Move c (.load d.number result) (c.loaded d result) := by
  cases result with
  | error e => exact move_dialFailed rfl mem e
  | ok _ =>
    unfold loaded
    cases up : (c.dropDialer d.number).cancelled with
    | true =>
      simp only [up, if_true]
      exact .dialClosed rfl mem up
    | false =>
      simp only [up, Bool.false_eq_true, if_false]
      cases asked : Handshake.ofSettings (c.dropDialer d.number).settings with
      | error e => exact move_dialFailed rfl mem e
      | ok r =>
        rcases beginHandshake_cases asked d.number d.byCaller with ⟨_, e, eq⟩ | ⟨fit, deadline, eq⟩
        · simp only [eq]
          exact move_dialFailed rfl mem e
        · simp only [eq]
          exact .loaded deadline mem up fit

/-- The handshake of a dial came to an end. -/
theorem move_of_dialed (h : Sound c) {d : Dialer} (mem : d ∈ c.dialers)
    (past : d.stage ≠ .loading) (result : Except ConnectionError Unit) :
    Move c (.dial d.number result) (c.dialed d result) := by
  have fit := h.fit mem (.inr past)
  cases result with
  | error e => exact move_dialFailed rfl mem e
  | ok _ =>
    unfold dialed dialDone
    cases up : (c.dropDialer d.number).cancelled with
    | true =>
      simp only [up, if_true]
      exact .dialClosed rfl mem up
    | false =>
      simp only [up, Bool.false_eq_true, if_false]
      cases caller : d.byCaller with
      | true => exact .callerInstalls mem caller up fit
      | false => exact .redialInstalls mem caller up fit

/-- A look of a dial is one of the moves: a backoff that is over begins the dial, a handshake that
takes too long fails, and where the connection went down the dial ends. -/
theorem move_of_lookDialer (h : Sound c) {d : Dialer} (mem : d ∈ c.dialers) {c' : Connection}
    (looked : c.lookDialer d = some c') : Move c (.lookDialer d.number) c' := by
  unfold lookDialer at looked
  cases waiting : d.stage with
  | loading => rw [waiting] at looked; cases looked
  | sleeping due =>
    have redial := h.sleeping d mem due waiting
    have fit := h.fit mem (.inl redial)
    simp only [waiting] at looked
    cases up : c.cancelled with
    | true =>
      simp only [up, if_true, Option.some.injEq] at looked
      subst looked
      have closed := Move.dialClosed (a := .lookDialer d.number) rfl mem up
      rw [redial] at closed
      exact closed
    | false =>
      simp only [up, Bool.false_eq_true, if_false] at looked
      split at looked
      · simp only [Option.some.injEq] at looked
        subst looked
        have up' : (c.dropDialer d.number).cancelled = false := up
        rw [redial]
        rcases beginDial_cases up' d.number false with ⟨bad, _⟩ | eq | ⟨_, deadline, eq⟩
        · exact absurd fit bad
        · rw [eq]
          exact .redialLoads mem redial up
        · rw [eq]
          exact .redialDials deadline mem redial up
      · cases looked
  | handshaking deadline =>
    simp only [waiting] at looked
    cases up : c.cancelled with
    | true =>
      simp only [up, if_true, Option.some.injEq] at looked
      subst looked
      exact .dialClosed rfl mem up
    | false =>
      simp only [up, Bool.false_eq_true, if_false] at looked
      split at looked
      · simp only [Option.some.injEq] at looked
        subst looked
        exact move_dialFailed rfl mem _
      · cases looked

/-! ## Tasks -/

/-- A task ends its session, whether or not it is over already. -/
theorem move_ends (h : Sound c) {a : Action} {g : Session → Session}
    (own : a.task? = some i) (at_ : c.sessions[i]? = some s) (close : s.finish.Close (g s.finish))
    (e : Option ConnectionError) : Move c a ((c.endSession i e).modifySession i g) := by
  have ticketed : s.Ticketed (requests c.history) := h.tickets s (List.mem_of_getElem? at_)
  by_cases live : c.Live i
  · refine .ends e own live ?_
    intro s' at'
    rw [at_] at at'
    cases at'
    exact ⟨close.toNear, close.ticketed ticketed⟩
  · rw [endSession_of_over live]
    refine .quiet (Action.no_call_of_task own) ((Quiet.refl h.tickets).modifySession ?_)
    intro s' at'
    rw [at_] at at'
    cases at'
    have dead : s.ended = true := by
      cases ended : s.ended with
      | true => rfl
      | false => exact absurd ⟨s, at_, ended⟩ live
    have same : s.finish = s := by
      unfold Session.finish
      rw [← dead]
    rw [same] at close
    refine ⟨close.toNear, ?_, close.ticketed ticketed⟩
    intro _ going
    rw [close.ended, dead] at going
    cases going

/-- The reader stops, after what it has done to its session, and ends it. -/
theorem move_stopReading (h : Sound c) (at_ : c.sessions[i]? = some s) {f : Session → Session}
    (keeps : ∀ s, (f s).ended = s.ended) (commutes : ∀ s, f s.finish = (f s).finish)
    (unread : (f s).unread = s.unread) (blocked : (f s).queue.blocked = s.queue.blocked)
    (e : Option ConnectionError) :
    Move c (.lookReader i) ((c.modifySession i f).stopReading i e) := by
  unfold stopReading
  rw [modifySession_modifySession, endSession_modifySession
    (f := (fun s : Session => { s with reader := .stopped }) ∘ f) keeps]
  · refine move_ends (g := (fun s : Session => { s with reader := .stopped }) ∘ f) h rfl at_
      ⟨⟨keeps _, ?_⟩, ?_⟩ e
    · rw [Function.comp, commutes]
      exact unread
    · rw [Function.comp, commutes]
      exact blocked
  · intro s'
    rw [Function.comp, commutes]
    rfl

/-- A look of a reader is one of the moves: it takes what has arrived, times out, or stops. -/
theorem move_of_reader (h : Sound c) (at_ : c.sessions[i]? = some s) {c' : Connection}
    (looked : c.lookReader i s = some c') : Move c (.lookReader i) c' := by
  unfold lookReader at looked
  cases waiting : s.reader with
  | stopped => rw [waiting] at looked; cases looked
  | waiting deadline =>
    have stops (e : Option ConnectionError) : Move c (.lookReader i) (c.stopReading i e) := by
      have move := move_stopReading h at_ (f := id) (fun _ => rfl) (fun _ => rfl) rfl rfl e
      rw [modifySession_id] at move
      exact move
    simp only [waiting] at looked
    cases cut : c.isCut s with
    | true =>
      simp only [cut, if_true, Option.some.injEq] at looked
      subst looked
      exact stops none
    | false =>
      simp only [cut, Bool.false_eq_true, if_false] at looked
      cases inbox : s.inbox with
      | nil =>
        simp only [inbox] at looked
        split at looked
        · simp only [Option.some.injEq] at looked
          subst looked
          exact stops _
        · cases looked
      | cons item rest =>
        simp only [inbox, Option.some.injEq] at looked
        subst looked
        obtain ⟨up, going⟩ : c.cancelled = false ∧ s.ended = false := by
          simpa [isCut] using cut
        have ticketed := h.tickets s (List.mem_of_getElem? at_)
        have popped (silent : item.payload? = none) :
            ({ s with inbox := rest } : Session).unread = s.unread := by
          simp only [Session.unread, inbox, List.filterMap_cons, silent]
        have pop (silent : item.payload? = none) :
            Quiet c (c.modifySession i ({ · with inbox := rest })) := by
          refine (Quiet.refl h.tickets).modifySession ?_
          intro s' at'
          rw [at_] at at'
          cases at'
          exact ⟨⟨rfl, popped silent⟩, id, ticketed⟩
        have renew (silent : item.payload? = none) :
            Quiet c ((c.modifySession i ({ · with inbox := rest })).renewRead i) := by
          refine (pop silent).modifySession ?_
          intro s' at'
          refine ⟨⟨rfl, rfl⟩, fun _ _ => nofun, ?_⟩
          exact (pop silent).tickets s' (List.mem_of_getElem? at')
        cases item with
        | piece => exact .quiet rfl (pop rfl)
        | data payload => exact .delivers at_ going up inbox
        | ping => exact .quiet rfl (renew rfl)
        | pong => exact .quiet rfl (renew rfl)
        | close =>
          simp only [takeInbound, modifySession_modifySession]
          exact move_stopReading h at_
            (f := (fun s : Session => { s with lastInbound := c.now }) ∘ fun s : Session =>
              { s with inbox := rest })
            (fun _ => rfl) (fun _ => rfl) (popped rfl) rfl none
        | failed e =>
          exact move_stopReading h at_ (f := fun s : Session => { s with inbox := rest })
            (fun _ => rfl) (fun _ => rfl) (popped rfl) rfl _
        | ended =>
          exact move_stopReading h at_ (f := fun s : Session => { s with inbox := rest })
            (fun _ => rfl) (fun _ => rfl) (popped rfl) rfl none

/-- A look of the writer, or an answer of its socket, that ends the session with an error. -/
theorem move_failWriting (h : Sound c) (at_ : c.sessions[i]? = some s) {a : Action}
    (own : a.task? = some i) (e : ConnectionError) : Move c a (c.failWriting i e) :=
  move_ends h own at_ ⟨⟨rfl, rfl⟩, rfl⟩ (some e)

/-- A task changes where it waits, and nothing else that others see. -/
theorem quiet_modifySession (h : Sound c) (at_ : c.sessions[i]? = some s) {f : Session → Session}
    (close : s.Close (f s)) (awake : s.Awake → (f s).Awake) : Quiet c (c.modifySession i f) := by
  refine (Quiet.refl h.tickets).modifySession ?_
  intro s' at'
  rw [at_] at at'
  cases at'
  exact ⟨close.toNear, awake, close.ticketed (h.tickets s (List.mem_of_getElem? at_))⟩

/-- A writer that stops is seen by nobody. -/
theorem quiet_stopWriter (h : Sound c) (at_ : c.sessions[i]? = some s) :
    Quiet c (c.modifySession i Session.stopWriter) :=
  quiet_modifySession h at_ ⟨⟨rfl, rfl⟩, rfl⟩ id

/-- A slot that is granted changes no ticket. -/
theorem grant_ticket {α : Type} {blocked : List (Blocked α)} {b : Blocked α}
    (mem : b ∈ SendQueue.grant blocked) : ∃ b' ∈ blocked, b'.ticket = b.ticket := by
  induction blocked with
  | nil => cases mem
  | cons first rest ih =>
    unfold SendQueue.grant at mem
    split at mem
    · rcases List.mem_cons.mp mem with rfl | later
      · exact ⟨b, List.mem_cons_self, rfl⟩
      · obtain ⟨b', mem', same⟩ := ih later
        exact ⟨b', List.mem_cons_of_mem _ mem', same⟩
    · rcases List.mem_cons.mp mem with rfl | later
      · exact ⟨first, List.mem_cons_self, rfl⟩
      · exact ⟨b, List.mem_cons_of_mem _ later, rfl⟩

/-- A frame that is taken from the queue leaves pushes in line that were called for. -/
theorem receive_ticketed {asked : List (Nat × Request)} {frame : Frame} {queue : SendQueue Frame}
    (ticketed : s.Ticketed asked) (taken : s.queue.receive = some (frame, queue)) :
    ({ s with queue } : Session).Ticketed asked := by
  unfold SendQueue.receive at taken
  split at taken
  · cases taken
  · cases taken
    intro b mem
    obtain ⟨b', mem', same⟩ := grant_ticket mem
    rw [← same]
    exact ticketed b' mem'

/-- A look of a writer is one of the moves: it takes a ping or a frame, closes, times out, or finds
nothing to do. -/
theorem move_of_writer (h : Sound c) (at_ : c.sessions[i]? = some s) {c' : Connection}
    (looked : c.lookWriter i s = some c') : Move c (.lookWriter i) c' := by
  have ticketed := h.tickets s (List.mem_of_getElem? at_)
  have begun {c₁ : Connection} (q : Quiet c c₁) (origin : Origin) (frame : Frame) :
      Quiet c (c₁.beginWrite i origin frame) := by
    refine (q.modifySession ?_).note trivial rfl
    intro s' at'
    exact ⟨⟨rfl, rfl⟩, id, q.tickets s' (List.mem_of_getElem? at')⟩
  unfold lookWriter at looked
  cases point : s.writer with
  | stopped => rw [point] at looked; cases looked
  | idle =>
    simp only [point] at looked
    cases cut : c.isCut s with
    | true =>
      simp only [cut, if_true, Option.some.injEq] at looked
      subst looked
      exact move_ends h rfl at_ ⟨⟨rfl, rfl⟩, rfl⟩ none
    | false =>
      simp only [cut, Bool.false_eq_true, if_false] at looked
      cases ping : s.pingWaiting with
      | true =>
        simp only [ping, if_true, Option.some.injEq] at looked
        subst looked
        exact .quiet rfl (begun (quiet_modifySession h at_ ⟨⟨rfl, rfl⟩, rfl⟩ id) _ _)
      | false =>
        simp only [ping, Bool.false_eq_true, if_false] at looked
        cases taken : s.queue.receive with
        | none => rw [taken] at looked; cases looked
        | some pair =>
          obtain ⟨frame, queue⟩ := pair
          simp only [taken, Option.some.injEq] at looked
          subst looked
          refine .quiet rfl (begun ((Quiet.refl h.tickets).modifySession ?_) _ _)
          intro s' at'
          rw [at_] at at'
          cases at'
          exact ⟨⟨rfl, rfl⟩, id, receive_ticketed ticketed taken⟩
  | writing origin frame deadline =>
    simp only [point] at looked
    split at looked
    · simp only [Option.some.injEq] at looked
      subst looked
      exact move_failWriting h at_ rfl _
    · cases looked
  | closing deadline =>
    simp only [point] at looked
    split at looked
    · simp only [Option.some.injEq] at looked
      subst looked
      exact .quiet rfl (quiet_stopWriter h at_)
    · cases looked

/-- An answer of the socket is one of the moves: the frame is written, or the session fails. -/
theorem move_of_socket (h : Sound c) (at_ : c.sessions[i]? = some s) {c' : Connection}
    {result : Except WebSocketError Unit} (answered : c.socketAnswered i s result = some c') :
    Move c (.socket i result) c' := by
  unfold socketAnswered at answered
  split at answered
  · simp only [Option.some.injEq] at answered
    subst answered
    have wrote := (Quiet.refl h.tickets).wrote i ‹Origin› ‹Frame›
    refine .quiet rfl (wrote.modifySession ?_)
    intro s' at'
    exact ⟨⟨rfl, rfl⟩, id, wrote.tickets s' (List.mem_of_getElem? at')⟩
  · simp only [Option.some.injEq] at answered
    subst answered
    exact move_failWriting h at_ rfl _
  · simp only [Option.some.injEq] at answered
    subst answered
    exact .quiet rfl (quiet_stopWriter h at_)
  · cases answered

/-- A keeper that stops with an error ends its session. -/
theorem move_stopKeeping (h : Sound c) (at_ : c.sessions[i]? = some s) (e : ConnectionError) :
    Move c (.lookKeeper i) (c.stopKeeping i e) := by
  rw [stopKeeping, endSession_modifySession (f := fun s : Session => { s with keeper := .stopped })
    (fun _ => rfl) (fun _ => rfl)]
  exact move_ends h rfl at_ ⟨⟨rfl, rfl⟩, rfl⟩ _

/-- A look of a keeper is one of the moves: it asks for a ping, waits, or stops. -/
theorem move_of_keeper (h : Sound c) (at_ : c.sessions[i]? = some s) {c' : Connection}
    (looked : c.lookKeeper i s = some c') : Move c (.lookKeeper i) c' := by
  have stopped : Quiet c (c.modifySession i ({ · with keeper := .stopped })) :=
    quiet_modifySession h at_ ⟨⟨rfl, rfl⟩, rfl⟩ id
  unfold lookKeeper at looked
  cases point : s.keeper with
  | stopped => rw [point] at looked; cases looked
  | off =>
    simp only [point] at looked
    split at looked
    · simp only [Option.some.injEq] at looked
      subst looked
      exact .quiet rfl stopped
    · cases looked
  | ticking due =>
    simp only [point] at looked
    split at looked
    · simp only [Option.some.injEq] at looked
      subst looked
      exact .quiet rfl stopped
    · split at looked
      · simp only [Option.some.injEq] at looked
        subst looked
        unfold tick
        dsimp only
        split
        · exact move_stopKeeping h at_ _
        · split
          · exact move_stopKeeping h at_ _
          · exact .quiet rfl (quiet_modifySession h at_ ⟨⟨rfl, rfl⟩, rfl⟩ id)
      · cases looked

/-! ## Sends -/

/-- A push that is settled is seen by its caller and by the queue, and by nobody else. -/
theorem Quiet.settlePush {c₁ : Connection} (q : Quiet c c₁) {call : Nat} {frame : Frame}
    (asked : (call, .send frame) ∈ requests c.history) (item : Frame) (outcome : Option Outcome) :
    Quiet c (c₁.settlePush i call item outcome) := by
  cases outcome with
  | none => exact q
  | some outcome =>
    cases outcome with
    | ok _ =>
      have accepted : Quiet c (c₁.note (.accepted i call item)) := q.note trivial rfl
      exact accepted.note ⟨frame, asked⟩ rfl
    | error e => exact q.note ⟨frame, asked⟩ rfl

/-- A push that is offered was called for. -/
theorem offer_ticketed {asked : List (Nat × Request)} {now call : Nat} {cut : Bool} {frame : Frame}
    {timeout : Duration} (ticketed : s.Ticketed asked) (own : (call, .send frame) ∈ asked) :
    ({ s with queue := (s.queue.offer now cut call frame timeout).1 } : Session).Ticketed
      asked := by
  unfold SendQueue.offer
  split
  · exact ticketed
  · split
    · exact ticketed
    · split
      · exact ticketed
      · intro b mem
        rcases List.mem_append.mp mem with old | new
        · exact ticketed b old
        · rw [List.mem_singleton.mp new]
          exact ⟨frame, own⟩

/-- A call to send is a quiet move. -/
theorem move_of_send (h : Sound c) (frame : Frame) : Move c (.send frame) (c.send frame) := by
  have own : (c.fresh, .send frame) ∈ requests (c.begin (.send frame)).history :=
    List.mem_cons_self
  have tickets : ∀ s ∈ (c.begin (.send frame)).sessions,
      s.Ticketed (requests (c.begin (.send frame)).history) := by
    intro s mem b waits
    obtain ⟨f, asked⟩ := h.tickets s mem b waits
    exact ⟨f, List.mem_cons_of_mem _ asked⟩
  have refused (e : ConnectionError) : Quiet (c.begin (.send frame))
      ((c.begin (.send frame)).answer c.fresh (.error e)) := (Quiet.refl tickets).note ⟨frame, own⟩ rfl
  refine .sends ?_
  unfold send
  dsimp only
  split
  · exact refused _
  · cases (c.begin (.send frame)).slot with
    | none => exact refused _
    | some i =>
      cases at_ : (c.begin (.send frame)).sessions[i]? with
      | none => simp only [at_]; exact refused _
      | some s =>
        simp only [at_]
        refine Quiet.settlePush ((Quiet.refl tickets).modifySession ?_) own frame _
        intro s' at'
        rw [at_] at at'
        cases at'
        exact ⟨⟨rfl, rfl⟩, id, offer_ticketed (tickets s (List.mem_of_getElem? at_)) own⟩

/-- A push that looks again leaves pushes in line that were called for. -/
theorem resume_ticketed {asked : List (Nat × Request)} {now call : Nat} {cut : Bool}
    (ticketed : s.Ticketed asked) :
    ({ s with queue := (s.queue.resume now cut call).1 } : Session).Ticketed asked := by
  have others {b : Blocked Frame} (mem : b ∈ s.queue.others call) :
      ∃ frame, (b.ticket, .send frame) ∈ asked := ticketed b (List.mem_filter.mp mem).1
  unfold SendQueue.resume
  split
  · exact ticketed
  · split
    · intro b mem
      simp only at mem
      split at mem
      · obtain ⟨b', mem', same⟩ := grant_ticket mem
        rw [← same]
        exact others mem'
      · exact others mem
    · split
      · exact fun b mem => others mem
      · split
        · exact fun b mem => others mem
        · exact ticketed

/-- A look of a send is a quiet move. -/
theorem move_of_lookSend (h : Sound c) (at_ : c.sessions[i]? = some s) {call : Nat}
    {c' : Connection} (looked : c.lookSend i s call = some c') : Move c (.lookSend i call) c' := by
  have ticketed := h.tickets s (List.mem_of_getElem? at_)
  unfold lookSend at looked
  cases found : s.queue.waiting? call with
  | none => rw [found] at looked; cases looked
  | some b =>
    obtain ⟨frame, asked⟩ := ticketed b (List.mem_of_find?_eq_some found)
    have ticket : b.ticket = call := by simpa using List.find?_some found
    rw [ticket] at asked
    simp only [found] at looked
    split at looked
    · cases looked
    · simp only [Option.some.injEq] at looked
      subst looked
      refine .quiet rfl (Quiet.settlePush ((Quiet.refl h.tickets).modifySession ?_) asked _ _)
      intro s' at'
      rw [at_] at at'
      cases at'
      exact ⟨⟨rfl, rfl⟩, id, resume_ticketed ticketed⟩

/-! ## The calls of callers -/

/-- A call to connect is a move: it is refused after the connection went down, and begins a dial
otherwise. -/
theorem move_of_connect (c : Connection) : Move c .connect c.connect := by
  unfold connect
  cases up : c.cancelled with
  | true =>
    have eq : (c.begin .connect).beginDial c.fresh true =
        (c.begin .connect).answer c.fresh (.error .closed) := if_pos up
    rw [eq]
    exact .refused up
  | false =>
    rcases beginDial_cases (c := c.begin .connect) up c.fresh true with
      ⟨bad, e, eq⟩ | eq | ⟨fit, deadline, eq⟩
    · have up' : (c.begin .connect).giveWay.cancelled = false := giveWay_frame.2.1.trans up
      rw [eq, dialFailed_caller up']
      exact .unfit e up bad
    · rw [eq]
      exact .loads up
    · rw [eq]
      exact .dials deadline up fit

/-- What a disconnect comes to. -/
inductive Disconnecting (c : Connection) : Connection → Prop where
  | again (gone : c.cancelled = true) :
      Disconnecting c ((c.begin .disconnect).answer c.fresh (.ok ()))
  | idle (up : c.cancelled = false) (idle : c.slot = none) :
      Disconnecting c
        ({ c.begin .disconnect with cancelled := true, slot := none }.closeDown c.fresh)
  /-- It waits for the tasks of a session, or goes no further. -/
  | waits {i : Nat} (teardown : Option Teardown) (up : c.cancelled = false)
      (installed : c.slot = some i)
      (own : ∀ t ∈ teardown, t.call = c.fresh ∧ t.session = i) :
      Disconnecting c { c.begin .disconnect with cancelled := true, slot := none, teardown }

/-- A call to disconnect comes again, finds no session, or waits for the tasks of one. -/
theorem disconnecting (h : Sound c) : Disconnecting c c.disconnect := by
  have same : (c.begin .disconnect).cancelled = c.cancelled := rfl
  cases up : c.cancelled with
  | true =>
    simp only [disconnect, same, up, if_true]
    exact .again up
  | false =>
    simp only [disconnect, same, up, Bool.false_eq_true, if_false]
    cases installed : (c.begin .disconnect).slot with
    | none => exact .idle up installed
    | some i =>
      dsimp only
      generalize Duration.add? _ teardownSlack = grace
      cases grace with
      | none =>
        refine .waits c.teardown up installed ?_
        intro t waiting
        have gone := (h.teardown t waiting).1
        rw [up] at gone
        cases gone
      | some grace =>
        refine .waits (some ⟨c.fresh, i, c.now + grace.nanos⟩) up installed ?_
        intro t own
        rw [← Option.mem_some_iff.mp own]
        exact ⟨rfl, rfl⟩

/-- A call to disconnect is a move in each of its three cases. -/
theorem Disconnecting.move {c' : Connection} (d : Disconnecting c c') : Move c .disconnect c' := by
  cases d with
  | again gone => exact .disconnectsAgain gone
  | idle up idle => exact .disconnectsIdle up idle
  | waits teardown up installed own =>
    exact .disconnects teardown up installed fun t waiting => (own t waiting).1

/-- The disconnect that waits goes on, and its session is at most changed inside. -/
theorem tornDown_of_look {t : Teardown} {c' : Connection} (looked : c.lookTeardown t = some c') :
    ∃ g, (∀ s : Session, s.Close (g s)) ∧
      c' = (c.finishTeardown t).modifySession t.session g := by
  unfold lookTeardown at looked
  split at looked
  · cases looked
    exact ⟨id, fun _ => ⟨⟨rfl, rfl⟩, rfl⟩, modifySession_id.symm⟩
  · split at looked
    · cases looked
      exact ⟨id, fun _ => ⟨⟨rfl, rfl⟩, rfl⟩, modifySession_id.symm⟩
    · split at looked
      · cases looked
        refine ⟨Session.abort, fun _ => ⟨⟨rfl, rfl⟩, rfl⟩, ?_⟩
        exact finishTeardown_modifySession (fun _ => rfl) (fun _ => rfl)
      · cases looked

/-- A look of a disconnect that waits is a move: the tasks have stopped, or their time is over and
they are aborted. -/
theorem move_of_teardown {t : Teardown} (waiting : c.teardown = some t) {c' : Connection}
    (looked : c.lookTeardown t = some c') : Move c .lookTeardown c' := by
  obtain ⟨g, close, rfl⟩ := tornDown_of_look looked
  exact .tornDown waiting close

/-! ## Every step -/

/-- Every step of a sound connection is one of its moves. -/
theorem move_of_step (h : Sound c) {a : Action} {c' : Connection} (stepped : c.step a = some c') :
    Move c a c' := by
  cases a with
  | connect =>
    cases stepped
    exact move_of_connect c
  | disconnect =>
    cases stepped
    exact (disconnecting h).move
  | send frame =>
    cases stepped
    exact move_of_send h frame
  | load number result =>
    obtain ⟨d, found, rfl⟩ := Option.map_eq_some_iff.mp stepped
    obtain ⟨found, waiting⟩ := Option.filter_eq_some_iff.mp found
    obtain ⟨mem, rfl⟩ := dialer?_some found
    exact move_of_load mem result
  | dial number result =>
    obtain ⟨d, found, rfl⟩ := Option.map_eq_some_iff.mp stepped
    obtain ⟨found, waiting⟩ := Option.filter_eq_some_iff.mp found
    obtain ⟨mem, rfl⟩ := dialer?_some found
    refine move_of_dialed h mem ?_ result
    intro loading
    rw [loading] at waiting
    cases waiting
  | lookDialer number =>
    obtain ⟨d, found, looked⟩ := Option.bind_eq_some_iff.mp stepped
    obtain ⟨mem, rfl⟩ := dialer?_some found
    exact move_of_lookDialer h mem looked
  | arrive i item =>
    obtain ⟨s, at_, rfl⟩ := Option.map_eq_some_iff.mp stepped
    exact .arrives item (List.getElem?_eq_some_iff.mp at_).1
  | lookReader i =>
    obtain ⟨s, at_, looked⟩ := Option.bind_eq_some_iff.mp stepped
    exact move_of_reader h at_ looked
  | lookWriter i =>
    obtain ⟨s, at_, looked⟩ := Option.bind_eq_some_iff.mp stepped
    exact move_of_writer h at_ looked
  | socket i result =>
    obtain ⟨s, at_, answered⟩ := Option.bind_eq_some_iff.mp stepped
    exact move_of_socket h at_ answered
  | lookKeeper i =>
    obtain ⟨s, at_, looked⟩ := Option.bind_eq_some_iff.mp stepped
    exact move_of_keeper h at_ looked
  | lookSend i call =>
    obtain ⟨s, at_, looked⟩ := Option.bind_eq_some_iff.mp stepped
    exact move_of_lookSend h at_ looked
  | lookTeardown =>
    obtain ⟨t, waiting, looked⟩ := Option.bind_eq_some_iff.mp stepped
    exact move_of_teardown waiting looked
  | advance nanos =>
    cases stepped
    exact .quiet rfl { Quiet.refl h.tickets with }

end StationPool.Connection
