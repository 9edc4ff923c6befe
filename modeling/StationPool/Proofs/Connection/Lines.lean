import StationPool.Proofs.Connection.Answers
import StationPool.Proofs.Connection.Carriage
import StationPool.Proofs.Connection.Keepalive
import StationPool.Proofs.Connection.Presence

/-!
# The lines at the queues

What a step is to those who send. At the queue of each session stands a line of pushes that wait for
a slot. Most steps leave the lines alone or give one slot (`Shift`); a send ends at its call or joins
the line of the installed session, and a look of a send leaves its line with an answer (`Service`).
`service_of_step` says so of every step, with the reason for every answer.
-/

namespace StationPool.Connection

variable {settings : ConnectionSettings} {c c' : Connection} {i : Nat} {s : Session} {a : Action}

/-! ## Views -/

/-- The pushes that wait at the queue of each session, the longest first. -/
def lines (c : Connection) : List (List (Blocked Frame)) := c.sessions.map (·.queue.blocked)

/-- A send as it was called: its number, its frame, when, and the state and the session it found. -/
structure Sending where
  call : Nat
  frame : Frame
  moment : Nat
  state : Lifecycle
  session : Option Nat

/-- The send that an entry tells of, if it tells that one was called. -/
def Entry.sending? (e : Entry) : Option Sending :=
  match e.what with
  | .called call (.send frame) state session => some ⟨call, frame, e.moment, state, session⟩
  | _ => none

/-- The sends that were called, the last first. -/
def sendings (history : List Entry) : List Sending := history.filterMap Entry.sending?

/-- A send of a frame that is called now. -/
def sending (c : Connection) (frame : Frame) : Sending := ⟨c.fresh, frame, c.now, c.state, c.slot⟩

/-- The push of a send, without regard to a slot. -/
def Sending.push (x : Sending) (limit : Duration) : Blocked Frame :=
  ⟨x.call, x.frame, limit, x.moment + limit.nanos, false⟩

/-- Whether an action is a send or a look of one. -/
def Action.isSend : Action → Bool
  | .send _ | .lookSend .. => true
  | _ => false

/-- The line of a session is the one that its queue keeps. -/
theorem line_at (at_ : c.sessions[i]? = some s) : c.lines[i]? = some s.queue.blocked := by
  rw [lines, List.getElem?_map, at_]
  rfl

/-! ## What leaves the lines alone -/

/-- The lines can be read off the chart. -/
theorem lines_eq (c : Connection) : c.lines = c.chart.bodies.map (·.queue.blocked) := by
  rw [lines, chart, List.map_map]
  rfl

/-- What leaves the chart alone leaves the lines alone. -/
theorem lines_of_chart (same : c'.chart = c.chart) : c'.lines = c.lines := by
  rw [lines_eq, lines_eq, same]

/-- A change to one session changes its own line and no other. -/
theorem lines_modifySession (at_ : c.sessions[i]? = some s) (f : Session → Session) :
    (c.modifySession i f).lines = c.lines.set i (f s).queue.blocked := by
  rw [lines_eq, chart_modifySession at_, List.map_set, lines_eq]
  rfl

/-- A change of one session that its line has no part in. -/
theorem lines_modifySession_same {f : Session → Session}
    (same : ∀ s, (f s).queue.blocked = s.queue.blocked) : (c.modifySession i f).lines = c.lines := by
  cases at_ : c.sessions[i]? with
  | none =>
    rw [lines, modifySession, List.modify_eq_self (List.getElem?_eq_none_iff.mp at_), lines]
  | some s => rw [lines_modifySession at_, same, set_of_getElem? (line_at at_)]

/-- The end of a session leaves its line to be emptied by the looks of those who wait. -/
theorem lines_endSession (e : Option ConnectionError) : (c.endSession i e).lines = c.lines := by
  have booked : (c.closeBooks i).lines = c.lines := lines_of_chart chart_closeBooks
  have after {d : Connection} (same : d.lines = c.lines) : (d.afterEnd i e).lines = c.lines := by
    rw [lines, (afterEnd_frame e).1]
    exact same
  unfold endSession
  split
  · rfl
  · split
    · rfl
    · dsimp only
      split
      · split
        · exact after booked
        · exact booked
      · exact after booked

/-- A reader that stops leaves the lines alone. -/
theorem lines_stopReading (e : Option ConnectionError) : (c.stopReading i e).lines = c.lines :=
  (lines_endSession e).trans (lines_modifySession_same fun _ => rfl)

/-- A frame that arrives leaves the lines alone, whatever it is. -/
theorem lines_takeInbound (item : Inbound) : (c.takeInbound i item).lines = c.lines := by
  have renewed : (c.renewRead i).lines = c.lines := lines_modifySession_same fun _ => rfl
  cases item with
  | piece => rfl
  | data payload => exact renewed
  | ping => exact renewed
  | pong => exact renewed
  | close =>
    refine (lines_stopReading _).trans ?_
    exact lines_modifySession_same (f := ({ · with lastInbound := c.now })) fun _ => rfl
  | failed e => exact lines_stopReading _
  | ended => exact lines_stopReading _

/-- A look of a reader leaves the lines alone. -/
theorem lines_lookReader (looked : c.lookReader i s = some c') : c'.lines = c.lines := by
  unfold lookReader at looked
  split at looked
  · cases looked
  · split at looked
    · cases looked
      exact lines_stopReading _
    · split at looked
      case h_1 item rest _ =>
        cases looked
        refine (lines_takeInbound item).trans ?_
        exact lines_modifySession_same (f := ({ · with inbox := rest })) fun _ => rfl
      case h_2 =>
        split at looked
        · cases looked
          exact lines_stopReading _
        · cases looked

/-- A writer that stops leaves the lines alone. The receiver is gone then, which the next look of a
send finds. -/
theorem lines_stopWriter : (c.modifySession i Session.stopWriter).lines = c.lines :=
  lines_modifySession_same fun _ => rfl

/-- A writer that fails leaves the lines alone. -/
theorem lines_failWriting (e : ConnectionError) : (c.failWriting i e).lines = c.lines :=
  lines_stopWriter.trans (lines_endSession _)

/-- A write that begins leaves the lines alone. -/
theorem lines_beginWrite (origin : Origin) (frame : Frame) :
    (c.beginWrite i origin frame).lines = c.lines :=
  lines_modifySession_same (f := ({ · with
    writer := .writing origin frame (c.now + c.settings.writeTimeout.nanos) })) fun _ => rfl

/-- An answer of the socket leaves the lines alone. -/
theorem lines_socketAnswered {result : Except WebSocketError Unit}
    (answered : c.socketAnswered i s result = some c') : c'.lines = c.lines := by
  unfold socketAnswered at answered
  split at answered
  · cases answered
    refine (lines_modifySession_same (f := ({ · with writer := .idle })) fun _ => rfl).trans ?_
    exact lines_of_chart (chart_wrote _ _)
  · cases answered
    exact lines_failWriting _
  · cases answered
    exact lines_stopWriter
  · cases answered

/-- A look of a keeper leaves the lines alone. Its pings have a channel of their own. -/
theorem lines_lookKeeper (looked : c.lookKeeper i s = some c') : c'.lines = c.lines := by
  have stops : (c.modifySession i ({ · with keeper := .stopped })).lines = c.lines :=
    lines_modifySession_same fun _ => rfl
  have gives_up (e : ConnectionError) : (c.stopKeeping i e).lines = c.lines :=
    (lines_endSession _).trans stops
  unfold lookKeeper at looked
  split at looked
  · cases looked
  · split at looked
    · cases looked
      exact stops
    · cases looked
  · split at looked
    · cases looked
      exact stops
    · split at looked
      · cases looked
        unfold tick
        dsimp only
        split
        · exact gives_up _
        · split
          · exact gives_up _
          · exact lines_modifySession_same fun _ => rfl
      · cases looked

/-- A look of a disconnect leaves the lines alone. -/
theorem lines_lookTeardown {t : Teardown} (looked : c.lookTeardown t = some c') :
    c'.lines = c.lines := by
  have finished {d : Connection} : (d.finishTeardown t).lines = d.lines :=
    lines_of_chart (chart_finishTeardown t)
  unfold lookTeardown at looked
  split at looked
  · cases looked
    exact finished
  · split at looked
    · cases looked
      exact finished
    · split at looked
      · cases looked
        exact finished.trans (lines_modifySession_same fun _ => rfl)
      · cases looked

/-! ## Steps beside the sends -/

/-- What becomes of the lines beside the sends. -/
inductive Shift (x : List (List (Blocked Frame))) : List (List (Blocked Frame)) → Prop where
  | stays : Shift x x
  /-- A session is installed. -/
  | opens : Shift x (x ++ [[]])
  /-- A slot becomes free. -/
  | grants {i : Nat} {line : List (Blocked Frame)} (at_ : x[i]? = some line) :
      Shift x (x.set i (SendQueue.grant line))

/-- Lines that are the same are no shift. -/
theorem Shift.of_same {x y : List (List (Blocked Frame))} (same : y = x) : Shift x y :=
  same ▸ .stays

/-- A writer that takes a frame from the queue gives the slot to the first of those who wait.
Nothing else that it does shifts the lines. -/
theorem shift_of_writer (at_ : c.sessions[i]? = some s) (looked : c.lookWriter i s = some c') :
    Shift c.lines c'.lines := by
  unfold lookWriter at looked
  split at looked
  · cases looked
  · split at looked
    · cases looked
      refine .of_same ((lines_modifySession_same (f := ({ · with
        writer := .closing (c.now + c.settings.writeTimeout.nanos) })) fun _ => rfl).trans ?_)
      exact lines_endSession none
    · split at looked
      · cases looked
        exact .of_same ((lines_beginWrite _ _).trans (lines_modifySession_same fun _ => rfl))
      · unfold SendQueue.receive at looked
        cases items : s.queue.items with
        | nil =>
          rw [items] at looked
          cases looked
        | cons frame rest =>
          rw [items] at looked
          cases looked
          rw [lines_beginWrite, lines_modifySession at_]
          exact .grants (line_at at_)
  · split at looked
    · cases looked
      exact .of_same (lines_failWriting _)
    · cases looked
  · split at looked
    · cases looked
      exact .of_same lines_stopWriter
    · cases looked

/-- A session that is installed has an empty line, and the lines of the others stay. -/
theorem shift_of_install (h : Sound c) (up : c.cancelled = false) :
    Shift c.lines c.install.lines := by
  have opened : c.install.lines = c.lines ++ [[]] := by
    rw [lines_eq, chart_install h up, Chart.enrol, List.map_append, ← lines_eq]
    rfl
  rw [opened]
  exact .opens

/-- A step beside the sends shifts the lines at most. -/
theorem shift_of_step (h : Sound c) (aside : a.isSend = false) (stepped : c.step a = some c') :
    Shift c.lines c'.lines := by
  cases a with
  | send frame => cases aside
  | lookSend i call => cases aside
  | connect =>
    cases stepped
    exact .of_same (lines_of_chart (c := c.begin .connect) (chart_beginDial _ _))
  | disconnect =>
    cases stepped
    exact .of_same (lines_of_chart chart_disconnect)
  | load number result =>
    obtain ⟨d, -, rfl⟩ := Option.map_eq_some_iff.mp stepped
    exact .of_same (lines_of_chart (chart_loaded d result))
  | dial number result =>
    obtain ⟨d, -, rfl⟩ := Option.map_eq_some_iff.mp stepped
    cases result with
    | error e => exact .of_same (lines_of_chart (c := c.dropDialer d.number) (chart_dialFailed _ _ _))
    | ok done =>
      show Shift c.lines ((c.dropDialer d.number).dialDone d.number d.byCaller).lines
      unfold dialDone
      cases up : (c.dropDialer d.number).cancelled with
      | true => exact .of_same (lines_of_chart (c := c.dropDialer d.number) (chart_dialClosed _ _))
      | false =>
        have shift := shift_of_install (h.dropDialer d.number) up
        rw [if_neg Bool.false_ne_true]
        dsimp only
        split <;> exact shift
  | lookDialer number =>
    obtain ⟨d, -, looked⟩ := Option.bind_eq_some_iff.mp stepped
    exact .of_same (lines_of_chart (chart_lookDialer looked))
  | arrive i item =>
    obtain ⟨s, -, rfl⟩ := Option.map_eq_some_iff.mp stepped
    exact .of_same (lines_modifySession_same
      (f := fun s => { s with inbox := s.inbox ++ [item] }) fun _ => rfl)
  | lookReader i =>
    obtain ⟨s, -, looked⟩ := Option.bind_eq_some_iff.mp stepped
    exact .of_same (lines_lookReader looked)
  | lookWriter i =>
    obtain ⟨s, at_, looked⟩ := Option.bind_eq_some_iff.mp stepped
    exact shift_of_writer at_ looked
  | socket i result =>
    obtain ⟨s, -, answered⟩ := Option.bind_eq_some_iff.mp stepped
    exact .of_same (lines_socketAnswered answered)
  | lookKeeper i =>
    obtain ⟨s, -, looked⟩ := Option.bind_eq_some_iff.mp stepped
    exact .of_same (lines_lookKeeper looked)
  | lookTeardown =>
    obtain ⟨t, -, looked⟩ := Option.bind_eq_some_iff.mp stepped
    exact .of_same (lines_lookTeardown looked)
  | advance nanos =>
    cases stepped
    exact .stays

/-- Only a call to send adds a send. -/
theorem sendings_of_step (h : Sound c) (other : ∀ frame, a ≠ .send frame)
    (stepped : c.step a = some c') : sendings c'.history = sendings c.history := by
  have m := move_of_step h stepped
  obtain ⟨new, grown⟩ := (m.beats h).grown
  have grown : c'.history = new ++ c.history := grown
  have made : requests new = (a.request?.map (c.fresh, ·)).toList := by
    have calls := m.requests h
    rw [grown, requests, List.filterMap_append] at calls
    exact List.append_cancel_right calls
  have none_ : sendings new = [] := by
    apply List.filterMap_eq_nil_iff.mpr
    intro e mem
    obtain ⟨moment, what⟩ := e
    cases what with
    | called call request state session =>
      cases request with
      | send frame =>
        have asked : (call, .send frame) ∈ requests new := List.mem_filterMap.mpr ⟨_, mem, rfl⟩
        rw [made] at asked
        obtain ⟨request, own, same⟩ :=
          Option.map_eq_some_iff.mp (Option.mem_toList.mp asked)
        cases same
        cases a with
        | send frame => exact absurd rfl (other frame)
        | connect | disconnect => cases own
        | _ => cases own
      | _ => rfl
    | _ => rfl
  rw [grown, sendings, List.filterMap_append]
  exact congrArg (· ++ sendings c.history) none_

/-- A step beside the sends accepts no frame. -/
theorem acceptances_of_step (aside : a.isSend = false) (stepped : c.step a = some c') :
    acceptances c'.history = acceptances c.history := by
  have passage : Passage a c.fresh c.transit c'.transit := passage_of_step stepped
  show c'.transit.accepted = c.transit.accepted
  generalize c'.transit = y at passage
  cases passage with
  | passes at_ own there =>
    rw [own] at aside
    cases aside
  | admits at_ waits there own =>
    rw [own] at aside
    cases aside
  | _ => rfl

/-- Beside the sends nobody's send is answered. -/
theorem outcomes_of_step (h : Sound c) (aside : a.isSend = false) (stepped : c.step a = some c') :
    ∃ outs, outcomes c'.history = outs ++ outcomes c.history ∧
      ∀ x ∈ outs, ∀ frame, (x.1, .send frame) ∉ requests c.history := by
  obtain ⟨outs, grown, all⟩ := answers_of_step stepped
  refine ⟨outs, grown, fun x mem frame asked => ?_⟩
  have asked' : (x.1, .send frame) ∈ requests c'.history := by
    rw [(move_of_step h stepped).requests h]
    exact List.mem_append_right _ asked
  have served := served_of_answered h stepped asked' (all x mem).1
  cases a with
  | send => cases aside
  | lookSend => cases aside
  | _ => exact served

/-! ## Every step -/

/-- What a connection knows of its sends. -/
structure Desk where
  lines : List (List (Blocked Frame))
  sendings : List Sending
  outcomes : List (Nat × Outcome)
  accepted : List Acceptance

/-- What a connection knows of its sends now. -/
def desk (c : Connection) : Desk where
  lines := c.lines
  sendings := sendings c.history
  outcomes := outcomes c.history
  accepted := acceptances c.history

/-- Why a send is refused when it is called. -/
inductive Refused (c : Connection) : ConnectionError → Prop where
  | unconnected (away : c.state ≠ .connected) : Refused c (.notConnected c.state)
  /-- A disconnect has taken the session out, and no task has ended it. -/
  | takenOut (shown : c.state = .connected) (gone : c.cancelled = true) (live : ∃ i, c.Live i) :
      Refused c (.notConnected c.state)
  /-- There is no slot and no time to wait for one. -/
  | hurried {i : Nat} (installed : c.slot = some i) (live : c.Live i) (up : c.cancelled = false)
      (instant : c.settings.sendTimeout.nanos = 0) : Refused c (.queueFull c.settings.sendTimeout)

/-- Why a send that waits gives up. -/
inductive Declined (c : Connection) (i : Nat) (b : Blocked Frame) : ConnectionError → Prop where
  | closed (ended : c.Live i → c.cancelled = true) : Declined c i b .closed
  | late (live : c.Live i) (up : c.cancelled = false) (without : b.granted = false)
      (due : b.deadline ≤ c.now) : Declined c i b (.queueFull b.timeout)

/-- What a step is to those who send. -/
inductive Service (c : Connection) : Action → Desk → Prop where
  | aside {a : Action} {lines : List (List (Blocked Frame))} {outs : List (Nat × Outcome)}
      (aside : a.isSend = false) (shift : Shift c.lines lines)
      (others : ∀ x ∈ outs, ∀ frame, (x.1, .send frame) ∉ requests c.history) :
      Service c a { c.desk with lines, outcomes := outs ++ c.desk.outcomes }
  /-- A send ends when it is called. -/
  | refuses {frame : Frame} {e : ConnectionError} (reason : Refused c e) :
      Service c (.send frame) { c.desk with
        sendings := c.sending frame :: c.desk.sendings
        outcomes := (c.fresh, .error e) :: c.desk.outcomes }
  /-- A send finds a slot when it is called. -/
  | takes {frame : Frame} {i : Nat} (installed : c.slot = some i) :
      Service c (.send frame) { c.desk with
        sendings := c.sending frame :: c.desk.sendings
        outcomes := (c.fresh, .ok ()) :: c.desk.outcomes
        accepted := ⟨i, c.fresh, frame⟩ :: c.desk.accepted }
  | queues {frame : Frame} {i : Nat} {line : List (Blocked Frame)} (installed : c.slot = some i)
      (at_ : c.lines[i]? = some line) :
      Service c (.send frame) { c.desk with
        lines := c.lines.set i (line ++ [(c.sending frame).push c.settings.sendTimeout])
        sendings := c.sending frame :: c.desk.sendings }
  /-- A send gives up, and its slot, if it has one, goes to the next. -/
  | declines {i : Nat} {line line' : List (Blocked Frame)} {b : Blocked Frame}
      {e : ConnectionError} (at_ : c.lines[i]? = some line) (mem : b ∈ line)
      (left : line' = line.filter (·.ticket != b.ticket) ∨
        line' = SendQueue.grant (line.filter (·.ticket != b.ticket)))
      (reason : Declined c i b e) :
      Service c (.lookSend i b.ticket) { c.desk with
        lines := c.lines.set i line'
        outcomes := (b.ticket, .error e) :: c.desk.outcomes }
  /-- A send uses its slot. -/
  | admits {i : Nat} {line : List (Blocked Frame)} {b : Blocked Frame}
      (at_ : c.lines[i]? = some line) (mem : b ∈ line) :
      Service c (.lookSend i b.ticket) { c.desk with
        lines := c.lines.set i (line.filter (·.ticket != b.ticket))
        outcomes := (b.ticket, .ok ()) :: c.desk.outcomes
        accepted := ⟨i, b.ticket, b.item⟩ :: c.desk.accepted }

/-- The writer of a session that lives takes from its queue. -/
theorem Reachable.receiving (reachable : Reachable settings c) (at_ : c.sessions[i]? = some s)
    (going : s.ended = false) : s.queue.receiverGone = false := by
  have stopped := (reachable.carries.lanes i s.lane (lane_at at_)).stopped
  cases gone : s.queue.receiverGone with
  | false => rfl
  | true =>
    have working := reachable.attended.going i _ ⟨s, at_, going⟩ (body_at at_)
    exact absurd (stopped.mp gone) working.1

/-- A push that succeeds is answered and accepted in one step. -/
theorem desk_settlePush_ok (call : Nat) (frame : Frame) :
    (c.settlePush i call frame (some (.ok ()))).desk = { c.desk with
      outcomes := (call, .ok ()) :: c.desk.outcomes
      accepted := ⟨i, call, frame⟩ :: c.desk.accepted } := rfl

/-- A push that fails is answered and not accepted. -/
theorem desk_settlePush_error (call : Nat) (frame : Frame) (e : ConnectionError) :
    (c.settlePush i call frame (some (.error e))).desk =
      { c.desk with outcomes := (call, .error e) :: c.desk.outcomes } := rfl

/-- A call to send is refused, takes a slot or begins to wait, for the reason given in each case. -/
theorem service_of_send (reachable : Reachable settings c) (frame : Frame) :
    Service c (.send frame) (c.send frame).desk := by
  have h := reachable.sound
  have unconnected (away : c.state ≠ .connected) :
      Service c (.send frame)
        ((c.begin (.send frame)).answer c.fresh (.error (.notConnected c.state))).desk :=
    .refuses (.unconnected away)
  unfold send
  dsimp only
  split
  case isTrue away =>
    apply unconnected
    intro shown
    have state : (c.begin (.send frame)).state = .connected := shown
    rw [state] at away
    cases away
  case isFalse connected =>
    have shown : c.state = .connected := by
      cases state : c.state with
      | connected => rfl
      | _ => exact absurd (by rw [begin, note, state]; rfl) connected
    split
    case h_1 empty =>
      obtain ⟨i, live⟩ := reachable.matched.live shown
      have gone : c.cancelled = true := by
        cases up : c.cancelled with
        | true => rfl
        | false => cases (h.installed up i live).symm.trans empty
      exact .refuses (.takenOut shown gone ⟨i, live⟩)
    case h_2 i installed =>
      have installed : c.slot = some i := installed
      obtain ⟨s, at_, going⟩ := h.slot_live i installed
      have there : (c.begin (.send frame)).sessions[i]? = some s := at_
      have up : c.cancelled = false := h.slot_up i installed
      have uncut : (c.begin (.send frame)).isCut s = false := by
        rw [isCut, going, Bool.or_false]
        exact up
      rw [there]
      dsimp only
      have look := SendQueue.offered s.queue (c.begin (.send frame)).now
        ((c.begin (.send frame)).isCut s) c.fresh frame (c.begin (.send frame)).settings.sendTimeout
      generalize s.queue.offer _ _ _ _ _ = answer at look
      obtain ⟨queue, outcome⟩ := answer
      have seated : ((c.begin (.send frame)).modifySession i ({ · with queue })).desk =
          { c.desk with
            lines := c.lines.set i queue.blocked
            sendings := c.sending frame :: c.desk.sendings } := by
        rw [desk, lines_modifySession there]
        rfl
      have kept (same : queue.blocked = s.queue.blocked) :
          ((c.begin (.send frame)).modifySession i ({ · with queue })).desk =
            { c.desk with sendings := c.sending frame :: c.desk.sendings } := by
        rw [seated, same, set_of_getElem? (line_at at_)]
        rfl
      cases look with
      | closed gone =>
        rw [uncut, reachable.receiving at_ going] at gone
        cases gone
      | accepted stays free =>
        rw [desk_settlePush_ok, kept rfl]
        exact .takes installed
      | refused stays none_ instant =>
        rw [desk_settlePush_error, kept rfl]
        exact .refuses (.hurried installed ⟨s, at_, going⟩ up instant)
      | waits stays none_ =>
        show Service c (.send frame) ((c.begin (.send frame)).modifySession i _).desk
        rw [seated]
        exact .queues installed (line_at at_)

/-- A look of a send finds its slot, or the send gives up, for the reason given. -/
theorem service_of_lookSend (reachable : Reachable settings c) (at_ : c.sessions[i]? = some s)
    {call : Nat} (looked : c.lookSend i s call = some c') :
    Service c (.lookSend i call) c'.desk := by
  have line := line_at at_
  unfold lookSend at looked
  split at looked
  case h_1 => cases looked
  case h_2 b found =>
    obtain rfl : b.ticket = call := by simpa using List.find?_some found
    have mem : b ∈ s.queue.blocked := List.mem_of_find?_eq_some found
    have seated (queue : SendQueue Frame) : (c.modifySession i ({ · with queue })).desk =
        { c.desk with lines := c.lines.set i queue.blocked } := by
      rw [desk, lines_modifySession at_]
      rfl
    have declined {queue : SendQueue Frame} {e : ConnectionError}
        (left : queue.blocked = s.queue.others b.ticket ∨
          queue.blocked = SendQueue.grant (s.queue.others b.ticket))
        (reason : Declined c i b e) :
        Service c (.lookSend i b.ticket) ((c.modifySession i ({ · with queue })).settlePush i
          b.ticket b.item (some (.error e))).desk := by
      rw [desk_settlePush_error, seated]
      exact .declines line mem left reason
    unfold SendQueue.resume at looked
    simp only [found] at looked
    cases cut : (c.isCut s || s.queue.receiverGone) with
    | true =>
      simp only [cut, if_true] at looked
      cases looked
      refine declined ?_ (.closed ?_)
      · dsimp only
        split
        · exact .inr rfl
        · exact .inl rfl
      · rintro ⟨s', at', going⟩
        cases at_.symm.trans at'
        rw [reachable.receiving at_ going, isCut, going, Bool.or_false, Bool.or_false] at cut
        exact cut
    | false =>
      simp only [cut, Bool.false_eq_true, if_false] at looked
      simp only [isCut, Bool.or_eq_false_iff] at cut
      obtain ⟨⟨up, going⟩, -⟩ := cut
      cases granted : b.granted with
      | true =>
        simp only [granted, if_true] at looked
        cases looked
        rw [desk_settlePush_ok, seated]
        exact .admits line mem
      | false =>
        simp only [granted, Bool.false_eq_true, if_false] at looked
        by_cases due : b.deadline ≤ c.now
        · simp only [due, if_true] at looked
          cases looked
          exact declined (.inl rfl) (.late ⟨s, at_, going⟩ up granted due)
        · simp only [due, if_false] at looked
          cases looked

/-- Every step is a service to those who send. All that is proved of sends goes by these cases. -/
theorem service_of_step (reachable : Reachable settings c) (stepped : c.step a = some c') :
    Service c a c'.desk := by
  have h := reachable.sound
  have beside (aside : a.isSend = false) : Service c a c'.desk := by
    obtain ⟨outs, answered, others⟩ := outcomes_of_step h aside stepped
    have called : sendings c'.history = sendings c.history := by
      refine sendings_of_step h ?_ stepped
      rintro frame rfl
      cases aside
    rw [desk, called, answered, acceptances_of_step aside stepped]
    exact .aside aside (shift_of_step h aside stepped) others
  cases a with
  | send frame =>
    cases stepped
    exact service_of_send reachable frame
  | lookSend i call =>
    obtain ⟨s, at_, looked⟩ := Option.bind_eq_some_iff.mp stepped
    exact service_of_lookSend reachable at_ looked
  | _ => exact beside rfl

end StationPool.Connection
