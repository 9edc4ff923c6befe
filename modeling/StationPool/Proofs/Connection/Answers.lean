import StationPool.Proofs.Connection.Statistics

/-!
# What calls are answered

Every answer that a step gives is to one call, the one that the action is about (`Answerable`), and
is one of a few (`Verdict`): success, a refusal that the connection makes itself, or an error that a
dial brought from outside. `answers_of_step` says so of every step of every connection. So an error
that no dial brings, and that no connection makes, is never an answer (`Heeds.step`).
-/

namespace StationPool.Connection

variable {c d c' : Connection} {a : Action} {who : Nat → Prop} {fine : ConnectionError → Prop}

/-- The error that an action brings to a dial from outside. -/
def Action.brings? : Action → Option ConnectionError
  | .load _ (.error e) | .dial _ (.error e) => some e
  | _ => none

/-- What a call may be answered in a step. -/
inductive Verdict (a : Action) : Outcome → Prop where
  | ok : Verdict a (.ok ())
  | closed : Verdict a (.error .closed)
  | notConnected (state : Lifecycle) : Verdict a (.error (.notConnected state))
  | queueFull (waited : Duration) : Verdict a (.error (.queueFull waited))
  /-- The settings ask for no request. -/
  | unfit {settings : ConnectionSettings} {e : ConnectionError}
      (bad : Handshake.ofSettings settings = .error e) : Verdict a (.error e)
  | noPort : Verdict a (.error (.webSocket (.url .unsupportedScheme)))
  | late (after : Duration) : Verdict a (.error (.connectTimeout after))
  | brought {e : ConnectionError} (outside : a.brings? = some e) : Verdict a (.error e)

/-- The calls that an action may answer: the one that it makes, the one whose dial or wait it is, or
the disconnect that waits. The tasks of a session answer nobody. -/
def Answerable (c : Connection) (call : Nat) : Action → Prop
  | .connect | .disconnect | .send _ => call = c.fresh
  | .load n _ | .dial n _ | .lookDialer n =>
    ∃ d ∈ c.dialers, d.number = n ∧ d.byCaller = true ∧ call = n
  | .lookSend _ n => call = n
  | .lookTeardown => ∃ t, c.teardown = some t ∧ call = t.call
  | _ => False

/-- Calls of some kind are answered, each with a verdict. -/
def Answers (a : Action) (who : Nat → Prop) (c c' : Connection) : Prop :=
  ∃ outs, outcomes c'.history = outs ++ outcomes c.history ∧
    ∀ x ∈ outs, who x.1 ∧ Verdict a x.2

namespace Answers

/-- Nobody is answered. -/
theorem mute (same : outcomes c'.history = outcomes c.history) : Answers a who c c' :=
  ⟨[], same, nofun⟩

/-- What is answered in two parts of a step is answered in the step. -/
theorem trans (first : Answers a who c d) (second : Answers a who d c') : Answers a who c c' := by
  obtain ⟨outs, grown, all⟩ := first
  obtain ⟨outs', grown', all'⟩ := second
  refine ⟨outs' ++ outs, by rw [grown', grown, List.append_assoc], fun x mem => ?_⟩
  exact (List.mem_append.mp mem).elim (all' x) (all x)

/-- A call is answered with a verdict. -/
theorem answer {call : Nat} (own : who call) {outcome : Outcome} (verdict : Verdict a outcome) :
    Answers a who c (c.answer call outcome) := by
  refine ⟨[(call, outcome)], rfl, fun x mem => ?_⟩
  rw [List.mem_singleton.mp mem]
  exact ⟨own, verdict⟩

/-! ## Dials -/

/-- A dial that finds the connection going down answers its caller as closed, and nobody else. -/
theorem dialClosed {number : Nat} {byCaller : Bool} (own : byCaller = true → who number) :
    Answers a who c (c.dialClosed number byCaller) := by
  unfold Connection.dialClosed
  split
  case isTrue caller => exact answer (own caller) .closed
  case isFalse => exact mute rfl

/-- A dial that fails answers its caller with its error. -/
theorem dialFailed {e : ConnectionError} {number : Nat} {byCaller : Bool}
    (own : byCaller = true → who number) (verdict : Verdict a (.error e)) :
    Answers a who c (c.dialFailed number byCaller e) := by
  unfold Connection.dialFailed
  split
  · exact dialClosed own
  dsimp only
  split
  case isTrue caller => exact (mute rfl).trans (answer (own caller) verdict)
  case isFalse => exact mute ((Posted.fail none e).trans .scheduleReconnect).outcomes

/-- Installing a session answers nobody. -/
theorem install : Answers a who c c.install := by
  refine mute ?_
  have tells {d : Connection} (what : Observation) (session : Option Nat)
      (same : outcomes d.history = outcomes c.history) :
      outcomes (if d.state.isTerminal then d
        else (d.enter .connected).tell session what).history = outcomes c.history := by
    split <;> exact same
  unfold Connection.install
  refine tells _ _ ?_
  split
  · rfl
  · exact (Posted.retire _).outcomes

/-- A dial that is done answers its caller. -/
theorem dialDone {number : Nat} {byCaller : Bool} (own : byCaller = true → who number) :
    Answers a who c (c.dialDone number byCaller) := by
  unfold Connection.dialDone
  split
  · exact dialClosed own
  dsimp only
  split
  case isTrue caller => exact install.trans (answer (own caller) .ok)
  case isFalse => exact install

/-- A handshake that begins answers nobody, unless the endpoint names no port. -/
theorem beginHandshake {number : Nat} {byCaller : Bool} (own : byCaller = true → who number)
    (h : Handshake) : Answers a who c (c.beginHandshake number byCaller h) := by
  unfold Connection.beginHandshake
  split
  · exact dialFailed own .noPort
  · exact mute rfl

/-- A dial that begins answers its caller only if it goes no further. -/
theorem beginDial {number : Nat} {byCaller : Bool} (own : byCaller = true → who number) :
    Answers a who c (c.beginDial number byCaller) := by
  unfold Connection.beginDial
  split
  · exact dialClosed own
  have gives : Answers a who c c.giveWay := mute Posted.giveWay.outcomes
  dsimp only
  split
  · rename_i bad
    exact gives.trans (dialFailed own (.unfit bad))
  · split
    · exact gives.trans (mute rfl)
    · exact gives.trans (beginHandshake own _)

/-- The TLS material of a dial was read or not; what it brings as an error comes from outside. -/
theorem loaded {dialer : Dialer} (own : dialer.byCaller = true → who dialer.number)
    (result : Except ConnectionError Unit)
    (outside : ∀ e, result = .error e → a.brings? = some e) :
    Answers a who c (c.loaded dialer result) := by
  have dropped : Answers a who c (c.dropDialer dialer.number) := mute rfl
  unfold Connection.loaded
  cases result with
  | error e => exact dropped.trans (dialFailed own (.brought (outside e rfl)))
  | ok _ =>
    dsimp only
    split
    · exact dropped.trans (dialClosed own)
    · split
      · rename_i bad
        exact dropped.trans (dialFailed own (.unfit bad))
      · exact dropped.trans (beginHandshake own _)

/-- The handshake of a dial came to an end; what it brings as an error comes from outside. -/
theorem dialed {dialer : Dialer} (own : dialer.byCaller = true → who dialer.number)
    (result : Except ConnectionError Unit)
    (outside : ∀ e, result = .error e → a.brings? = some e) :
    Answers a who c (c.dialed dialer result) := by
  have dropped : Answers a who c (c.dropDialer dialer.number) := mute rfl
  cases result with
  | error e => exact dropped.trans (dialFailed own (.brought (outside e rfl)))
  | ok _ => exact dropped.trans (dialDone own)

/-- A look of a dial answers its caller when its time is over or the connection is going down. -/
theorem lookDialer {dialer : Dialer} (own : dialer.byCaller = true → who dialer.number)
    (stepped : c.lookDialer dialer = some c') : Answers a who c c' := by
  have dropped : Answers a who c (c.dropDialer dialer.number) := mute rfl
  unfold Connection.lookDialer at stepped
  split at stepped
  · split at stepped
    · cases stepped
      exact dropped
    · split at stepped
      · cases stepped
        exact dropped.trans (beginDial own)
      · cases stepped
  · cases stepped
  · split at stepped
    · cases stepped
      exact dropped.trans (dialClosed own)
    · split at stepped
      · cases stepped
        exact dropped.trans (dialFailed own (.late _))
      · cases stepped

/-! ## Sessions -/

/-- What follows the end of a session answers nobody. -/
theorem afterEnd (i : Nat) (e : Option ConnectionError) : Answers a who c (c.afterEnd i e) := by
  have ends {d : Connection} (same : outcomes d.history = outcomes c.history) :
      outcomes (if d.cancelled then d.enter .closed else d.scheduleReconnect).history =
        outcomes c.history := by
    split
    · exact same
    · exact Posted.scheduleReconnect.outcomes.trans same
  refine mute ?_
  unfold Connection.afterEnd
  cases e with
  | none => exact ends rfl
  | some e => exact ends rfl

/-- Nor does the end itself. -/
theorem endSession (i : Nat) (e : Option ConnectionError) : Answers a who c (c.endSession i e) := by
  unfold Connection.endSession
  split
  · exact mute rfl
  · split
    · exact mute rfl
    · dsimp only
      split
      · split
        · exact (mute rfl).trans (afterEnd i e)
        · exact mute rfl
      · exact (mute rfl).trans (afterEnd i e)

/-- A reader that stops answers nobody. -/
theorem stopReading (i : Nat) (e : Option ConnectionError) : Answers a who c (c.stopReading i e) :=
  (mute rfl).trans (endSession i e)

/-- Nor does any look of a reader. -/
theorem lookReader {i : Nat} {s : Session} (stepped : c.lookReader i s = some c') :
    Answers a who c c' := by
  unfold Connection.lookReader at stepped
  split at stepped
  · cases stepped
  split at stepped
  · cases stepped
    exact stopReading i none
  split at stepped
  · rename_i item rest _
    cases stepped
    refine (mute rfl).trans (d := c.modifySession i ({ · with inbox := rest })) ?_
    cases item with
    | close => exact (mute rfl).trans (stopReading i none)
    | failed e => exact stopReading i _
    | ended => exact stopReading i none
    | _ => exact mute rfl
  · split at stepped
    · cases stepped
      exact stopReading i _
    · cases stepped

/-- A write that fails answers nobody; its send was answered when the queue accepted the frame. -/
theorem failWriting (i : Nat) (e : ConnectionError) : Answers a who c (c.failWriting i e) :=
  (endSession i (some e)).trans (mute rfl)

/-- A look of a writer answers nobody. -/
theorem lookWriter {i : Nat} {s : Session} (stepped : c.lookWriter i s = some c') :
    Answers a who c c' := by
  unfold Connection.lookWriter at stepped
  split at stepped
  · cases stepped
  · split at stepped
    · cases stepped
      exact (endSession i none).trans (mute rfl)
    · split at stepped
      · cases stepped
        exact mute rfl
      · split at stepped
        · cases stepped
          exact mute rfl
        · cases stepped
  · split at stepped
    · cases stepped
      exact failWriting i _
    · cases stepped
  · split at stepped
    · cases stepped
      exact mute rfl
    · cases stepped

/-- A frame that the socket took was answered before. -/
theorem wrote (i : Nat) (origin : Origin) (frame : Frame) :
    Answers a who c (c.wrote i origin frame) := by
  unfold Connection.wrote
  dsimp only
  split <;> exact mute rfl

/-- Whatever a socket answers, no call is answered with it. -/
theorem socketAnswered {i : Nat} {s : Session} {result : Except WebSocketError Unit}
    (stepped : c.socketAnswered i s result = some c') : Answers a who c c' := by
  unfold Connection.socketAnswered at stepped
  split at stepped
  · cases stepped
    exact (wrote i _ _).trans (mute rfl)
  · cases stepped
    exact failWriting i _
  · cases stepped
    exact mute rfl
  · cases stepped

/-- A look of a keeper answers nobody. -/
theorem lookKeeper {i : Nat} {s : Session} (stepped : c.lookKeeper i s = some c') :
    Answers a who c c' := by
  unfold Connection.lookKeeper at stepped
  split at stepped
  · cases stepped
  · split at stepped
    · cases stepped
      exact mute rfl
    · cases stepped
  · split at stepped
    · cases stepped
      exact mute rfl
    · split at stepped
      · cases stepped
        unfold Connection.tick
        dsimp only
        split
        · exact (mute rfl).trans (endSession i _)
        · split
          · exact (mute rfl).trans (endSession i _)
          · exact mute rfl
      · cases stepped

/-! ## Calls -/

/-- A disconnect that finds no session answers at once. -/
theorem closeDown {call : Nat} (own : who call) : Answers a who c (c.closeDown call) :=
  (mute rfl).trans (answer own .ok)

/-- A disconnect that finds one waits for its tasks and answers nobody yet. -/
theorem awaitTasks (call i : Nat) (grace : Option Duration) :
    Answers a who c (c.awaitTasks call i grace) := by
  cases grace <;> exact mute rfl

/-- A connect answers its own call if its dial goes no further. -/
theorem connect (own : who c.fresh) : Answers a who c c.connect := by
  have begun : Answers a who c (c.begin .connect) := mute rfl
  exact begun.trans (beginDial fun _ => own)

/-- A disconnect answers its own call or waits. -/
theorem disconnect (own : who c.fresh) : Answers a who c c.disconnect := by
  have begun : Answers a who c (c.begin .disconnect) := mute rfl
  unfold Connection.disconnect
  dsimp only
  split
  · exact begun.trans (answer own .ok)
  · split
    · exact begun.trans ((mute rfl).trans (closeDown own))
    · have gone : Answers a who (c.begin .disconnect)
          { c.begin .disconnect with cancelled := true, slot := none } := mute rfl
      exact begun.trans (gone.trans (awaitTasks _ _ _))

/-- The disconnect that waited for the tasks answers. -/
theorem finishTeardown {t : Teardown} (own : who t.call) :
    Answers a who c (c.finishTeardown t) := by
  have retired := Posted.retire (c := { c with teardown := none }) t.session
  exact (mute retired.outcomes).trans (closeDown own)

/-- A look of the disconnect that waits answers it if the tasks have stopped or its time is over. -/
theorem lookTeardown {t : Teardown} (own : who t.call) (stepped : c.lookTeardown t = some c') :
    Answers a who c c' := by
  unfold Connection.lookTeardown at stepped
  split at stepped
  · cases stepped
    exact finishTeardown own
  · split at stepped
    · cases stepped
      exact finishTeardown own
    · split at stepped
      · cases stepped
        exact (mute rfl).trans (finishTeardown own)
      · cases stepped

/-- What a push comes to, if to anything. -/
theorem settlePush (i : Nat) {call : Nat} (own : who call) (frame : Frame)
    {outcome : Option Outcome} (verdict : ∀ o ∈ outcome, Verdict a o) :
    Answers a who c (c.settlePush i call frame outcome) := by
  unfold Connection.settlePush
  split
  · exact mute rfl
  · exact (mute rfl).trans (answer own .ok)
  · exact answer own (verdict _ rfl)

end Answers

/-! ## Pushes -/

/-- What a queue answers to the first look of a push is a verdict. -/
theorem verdict_of_offer (q : SendQueue Frame) (now : Nat) (cut : Bool) (ticket : Nat)
    (frame : Frame) (timeout : Duration) :
    ∀ o ∈ (q.offer now cut ticket frame timeout).2, Verdict a o := by
  unfold SendQueue.offer
  split
  · rintro _ ⟨⟩
    exact .closed
  split
  · rintro _ ⟨⟩
    exact .ok
  split
  · rintro _ ⟨⟩
    exact .queueFull timeout
  · nofun

/-- So is what it answers to a later look. -/
theorem verdict_of_resume (q : SendQueue Frame) (now : Nat) (cut : Bool) (ticket : Nat) :
    ∀ o ∈ (q.resume now cut ticket).2, Verdict a o := by
  unfold SendQueue.resume
  split
  · nofun
  split
  · rintro _ ⟨⟩
    exact .closed
  split
  · rintro _ ⟨⟩
    exact .ok
  split
  · rintro _ ⟨⟩
    exact .queueFull _
  · nofun

namespace Answers

/-- A send is refused at once, or what its push comes to is its answer. -/
theorem send (own : who c.fresh) (frame : Frame) : Answers a who c (c.send frame) := by
  have begun : Answers a who c (c.begin (.send frame)) := mute rfl
  unfold Connection.send
  dsimp only
  split
  · exact begun.trans (answer own (.notConnected _))
  split
  · exact begun.trans (answer own (.notConnected _))
  split
  · exact begun.trans (answer own (.notConnected _))
  · exact begun.trans ((mute rfl).trans (settlePush _ own _ (verdict_of_offer _ _ _ _ _ _)))

/-- A send that looks again is answered with what its push comes to. -/
theorem lookSend {i call : Nat} {s : Session} (own : who call)
    (stepped : c.lookSend i s call = some c') : Answers a who c c' := by
  unfold Connection.lookSend at stepped
  split at stepped
  · cases stepped
  · have verdict := verdict_of_resume (a := a) s.queue c.now (c.isCut s) call
    dsimp only at stepped
    split at stepped
    · cases stepped
    · rename_i outcome
      cases stepped
      refine (mute rfl).trans (settlePush i own _ ?_)
      rintro _ ⟨⟩
      exact verdict _ outcome

end Answers

/-! ## Steps -/

/-- Every answer of a step is a verdict, and to a call that its action is about. -/
theorem answers_of_step (stepped : c.step a = some c') :
    Answers a (c.Answerable · a) c c' := by
  have dials {d : Dialer} {n : Nat} (found : c.dialer? n = some d) (caller : d.byCaller = true) :
      ∃ d' ∈ c.dialers, d'.number = n ∧ d'.byCaller = true ∧ d.number = n :=
    ⟨d, (dialer?_some found).1, (dialer?_some found).2, caller, (dialer?_some found).2⟩
  cases a with
  | connect =>
    cases stepped
    refine .connect ?_
    rfl
  | disconnect =>
    cases stepped
    refine .disconnect ?_
    rfl
  | send frame =>
    cases stepped
    refine .send ?_ frame
    rfl
  | load n result =>
    obtain ⟨dialer, found, rfl⟩ := Option.map_eq_some_iff.mp stepped
    exact .loaded (dials (Option.filter_eq_some_iff.mp found).1) result fun e failed => failed ▸ rfl
  | dial n result =>
    obtain ⟨dialer, found, rfl⟩ := Option.map_eq_some_iff.mp stepped
    exact .dialed (dials (Option.filter_eq_some_iff.mp found).1) result fun e failed => failed ▸ rfl
  | lookDialer n =>
    obtain ⟨dialer, found, looked⟩ := Option.bind_eq_some_iff.mp stepped
    exact .lookDialer (dials found) looked
  | arrive i item =>
    obtain ⟨s, -, rfl⟩ := Option.map_eq_some_iff.mp stepped
    exact .mute rfl
  | lookReader i =>
    obtain ⟨s, -, looked⟩ := Option.bind_eq_some_iff.mp stepped
    exact .lookReader looked
  | lookWriter i =>
    obtain ⟨s, -, looked⟩ := Option.bind_eq_some_iff.mp stepped
    exact .lookWriter looked
  | socket i result =>
    obtain ⟨s, -, looked⟩ := Option.bind_eq_some_iff.mp stepped
    exact .socketAnswered looked
  | lookKeeper i =>
    obtain ⟨s, -, looked⟩ := Option.bind_eq_some_iff.mp stepped
    exact .lookKeeper looked
  | lookSend i call =>
    obtain ⟨s, -, looked⟩ := Option.bind_eq_some_iff.mp stepped
    exact .lookSend rfl looked
  | lookTeardown =>
    obtain ⟨t, waiting, looked⟩ := Option.bind_eq_some_iff.mp stepped
    exact .lookTeardown ⟨t, waiting, rfl⟩ looked
  | advance nanos =>
    cases stepped
    exact .mute rfl

/-- Every error that a call was answered is of some kind. -/
def Heeds (fine : ConnectionError → Prop) (c : Connection) : Prop :=
  ∀ x ∈ outcomes c.history, ∀ e, x.2 = .error e → fine e

/-- The errors that connections make themselves are of some kind. -/
def Own (fine : ConnectionError → Prop) : Prop :=
  ∀ (a : Action) (e : ConnectionError), Verdict a (.error e) → a.brings? = some e ∨ fine e

/-- Errors of a kind stay the only ones where no dial brings another. -/
theorem Heeds.step (heeds : Heeds fine c) (own : Own fine) (outside : ∀ e ∈ a.brings?, fine e)
    (stepped : c.step a = some c') : Heeds fine c' := by
  obtain ⟨outs, grown, verdicts⟩ := answers_of_step stepped
  intro x mem e failed
  rw [grown] at mem
  rcases List.mem_append.mp mem with new | old
  · exact (own a e (failed ▸ (verdicts x new).2)).elim (outside e) id
  · exact heeds x old e failed

/-- What may bring a call to its end. -/
def Request.ServedBy : Request → Action → Prop
  | .connect, .connect | .connect, .load .. | .connect, .dial .. | .connect, .lookDialer _ => True
  | .disconnect, .disconnect | .disconnect, .lookTeardown => True
  | .send _, .send _ | .send _, .lookSend .. => True
  | _, _ => False

/-- Whoever may be answered in a step has called, and for this. -/
theorem Answerable.asked (h : Sound c) (stepped : c.step a = some c') {call : Nat}
    (own : c.Answerable call a) :
    ∃ request, (call, request) ∈ requests c'.history ∧ request.ServedBy a := by
  have calls := (move_of_step h stepped).requests h
  have before {request : Request} (asked : (call, request) ∈ requests c.history) :
      (call, request) ∈ requests c'.history := by
    rw [calls]
    exact List.mem_append_right _ asked
  have now {request : Request} (made : a.request? = some request) (fresh : call = c.fresh) :
      (call, request) ∈ requests c'.history := by
    rw [calls, made, fresh]
    exact List.mem_append_left _ List.mem_cons_self
  have dials {n : Nat} (own : ∃ d ∈ c.dialers, d.number = n ∧ d.byCaller = true ∧ call = n) :
      (call, .connect) ∈ requests c'.history := by
    obtain ⟨d, mem, rfl, caller, rfl⟩ := own
    exact before (h.callers d mem caller)
  cases a with
  | connect => exact ⟨.connect, now rfl own, trivial⟩
  | disconnect => exact ⟨.disconnect, now rfl own, trivial⟩
  | send frame => exact ⟨.send frame, now rfl own, trivial⟩
  | load n result => exact ⟨.connect, dials own, trivial⟩
  | dial n result => exact ⟨.connect, dials own, trivial⟩
  | lookDialer n => exact ⟨.connect, dials own, trivial⟩
  | lookSend i n =>
    obtain ⟨s, at_, looked⟩ := Option.bind_eq_some_iff.mp stepped
    unfold lookSend at looked
    split at looked
    · cases looked
    · rename_i b found
      have same : b.ticket = n := by simpa using List.find?_some found
      obtain ⟨frame, asked⟩ := h.tickets s (List.mem_of_getElem? at_) b
        (List.mem_of_find?_eq_some found)
      have own : call = n := own
      exact ⟨.send frame, before (own ▸ same ▸ asked), trivial⟩
  | lookTeardown =>
    obtain ⟨t, waiting, rfl⟩ := own
    exact ⟨.disconnect, before (h.teardown t waiting).2, trivial⟩
  | _ => exact own.elim

/-- A call is brought to its end by what may do so. -/
theorem served_of_answered (h : Sound c) (stepped : c.step a = some c') {call : Nat}
    {request : Request} (asked : (call, request) ∈ requests c'.history)
    (own : c.Answerable call a) : request.ServedBy a := by
  obtain ⟨request', asked', served⟩ := own.asked h stepped
  have sound := h.step stepped
  rwa [sound.request_unique asked asked']

/-- In every reachable connection only calls that were made have been answered. -/
theorem Reachable.answered {settings : ConnectionSettings} (reachable : Reachable settings c) :
    ∀ x ∈ outcomes c.history, ∃ request, (x.1, request) ∈ requests c.history := by
  induction reachable with
  | new => nofun
  | @step c c' a before stepped ih =>
    have h := before.sound
    obtain ⟨outs, grown, all⟩ := answers_of_step stepped
    intro x mem
    rw [grown] at mem
    rcases List.mem_append.mp mem with new | old
    · obtain ⟨request, asked, -⟩ := (all x new).1.asked h stepped
      exact ⟨request, asked⟩
    · obtain ⟨request, asked⟩ := ih x old
      refine ⟨request, ?_⟩
      rw [(move_of_step h stepped).requests h]
      exact List.mem_append_right _ asked

end StationPool.Connection
