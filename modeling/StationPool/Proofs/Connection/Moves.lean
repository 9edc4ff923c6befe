import Mathlib.Data.List.Nodup
import StationPool.Proofs.Connection.Vocabulary

/-!
# Moves

What a step may do to a connection, said once. `Sound` is the invariant of the sessions, the dials
and the calls; `Move` lists what an action comes to on a sound connection, with the guards under
which it does; and `move_of_step` reads the move off a step. Proofs about all runs go through the
moves and never open `step`.

Most looks of the tasks and of the sends change nothing but the inside of one session: these are
`Quiet`, one move for all of them. The other moves are a dial that begins, goes on or ends; a
message that arrives or is passed on; a task that ends its session; and the two halves of a
disconnect.
-/

namespace StationPool

/-- A change that leaves the end of a session and its unread messages as they are. -/
structure Session.Near (s s' : Session) : Prop where
  ended : s'.ended = s.ended
  unread : s'.unread = s.unread

/-- A change that leaves the pushes that wait in the queue as they are too. -/
structure Session.Close (s s' : Session) : Prop extends Session.Near s s' where
  blocked : s'.queue.blocked = s.queue.blocked

/-- The reader of a session that goes on has not stopped. -/
def Session.Awake (s : Session) : Prop := s.ended = false → s.reader ≠ .stopped

/-- Every push that waits in the queue is the send of a caller. -/
def Session.Ticketed (asked : List (Nat × Connection.Request)) (s : Session) : Prop :=
  ∀ b ∈ s.queue.blocked, ∃ frame, (b.ticket, .send frame) ∈ asked

/-- The sends that wait in a queue are still sends after such a change. -/
theorem Session.Close.ticketed {asked : List (Nat × Connection.Request)} {s s' : Session}
    (close : s.Close s') (ticketed : s.Ticketed asked) : s'.Ticketed asked := by
  unfold Session.Ticketed
  rw [close.blocked]
  exact ticketed

namespace Connection

/-! ## The invariant -/

/-- What holds of the sessions, the dials and the calls of every reachable connection. -/
structure Sound (c : Connection) : Prop where
  /-- The installed session lives. -/
  slot_live : ∀ i, c.slot = some i → c.Live i
  /-- Nothing is installed once the connection is going down. -/
  slot_up : ∀ i, c.slot = some i → c.cancelled = false
  /-- Only the newest session lives. -/
  newest : ∀ i, c.Live i → i + 1 = c.sessions.length
  /-- Until the connection goes down, a session that lives is installed. -/
  installed : c.cancelled = false → ∀ i, c.Live i → c.slot = some i
  closed : c.state = .closed → c.cancelled = true
  awake : ∀ s ∈ c.sessions, s.Awake
  numbers : (c.dialers.map (·.number)).Nodup
  issued : ∀ d ∈ c.dialers, d.number < c.fresh
  /-- Only redials wait in a backoff. -/
  sleeping : ∀ d ∈ c.dialers, ∀ due, d.stage = .sleeping due → d.byCaller = false
  /-- Where the settings ask for nothing that can be dialed, a caller's dial comes no further than
  the TLS material. -/
  dialable : ∀ d ∈ c.dialers, d.byCaller = true ∧ d.stage = .loading ∨ Dialable c.settings
  /-- And no session is installed. -/
  reached : c.sessions ≠ [] → Dialable c.settings
  calls : ((requests c.history).map (·.1)).Nodup
  called : ∀ q ∈ requests c.history, q.1 < c.fresh
  callers : ∀ d ∈ c.dialers, d.byCaller = true → (d.number, .connect) ∈ requests c.history
  tickets : ∀ s ∈ c.sessions, s.Ticketed (requests c.history)
  teardown : ∀ t, c.teardown = some t →
    c.cancelled = true ∧ (t.call, .disconnect) ∈ requests c.history

/-- A connection that is up is not closed. -/
theorem Sound.unclosed (h : Sound c) (up : c.cancelled = false) : c.state ≠ .closed := by
  intro closed
  rw [h.closed closed] at up
  cases up

/-- A connection that is going down has no session installed. -/
theorem Sound.empty (h : Sound c) (gone : c.cancelled = true) : c.slot = none := by
  cases installed : c.slot with
  | none => rfl
  | some i =>
    have up := h.slot_up i installed
    rw [gone] at up
    cases up

/-- Two sessions that live are one. -/
theorem Sound.live_unique {i j : Nat} (h : Sound c) (first : c.Live i) (second : c.Live j) :
    i = j := by
  have := h.newest i first
  have := h.newest j second
  omega

/-- A dial is found by its number. -/
theorem Sound.dialer?_mem (h : Sound c) {d : Dialer} (mem : d ∈ c.dialers) :
    c.dialer? d.number = some d := by
  cases found : c.dialer? d.number with
  | none =>
    have := List.find?_eq_none.mp found d mem
    simp at this
  | some d' =>
    have number : d'.number = d.number := by
      have := List.find?_some found
      simpa using this
    have same := List.inj_on_of_nodup_map h.numbers (List.mem_of_find?_eq_some found) mem number
    rw [same]

/-! ## Quiet steps -/

/-- What an entry of a quiet step may say: what a queue or a socket did, or how a send ended. -/
def Minor (asked : List (Nat × Request)) : Happening → Prop
  | .accepted .. | .handed .. | .wrote .. => True
  | .returned call _ => ∃ frame, (call, .send frame) ∈ asked
  | _ => False

/-- Nothing has changed but the inside of sessions, what is counted of writes, and the clock. -/
structure Quiet (c c' : Connection) : Prop where
  settings : c'.settings = c.settings
  state : c'.state = c.state
  lastError : c'.lastError = c.lastError
  attempts : c'.attempts = c.attempts
  slot : c'.slot = c.slot
  cancelled : c'.cancelled = c.cancelled
  dialers : c'.dialers = c.dialers
  teardown : c'.teardown = c.teardown
  fresh : c'.fresh = c.fresh
  length : c'.sessions.length = c.sessions.length
  sessions : ∀ (i : Nat) (s' : Session), c'.sessions[i]? = some s' →
    ∃ s, c.sessions[i]? = some s ∧ s.Near s' ∧ (s.Awake → s'.Awake)
  tickets : ∀ s ∈ c'.sessions, s.Ticketed (requests c.history)
  history : ∃ new, c'.history = new ++ c.history ∧ ∀ e ∈ new, Minor (requests c.history) e.what
  active : c'.metrics.active = c.metrics.active
  counters : ∃ new, dataWritten c'.history = new ++ dataWritten c.history ∧
    c'.counters = { c.counters with
      messagesSent := c.counters.messagesSent + new.length
      bytesSent := c.counters.bytesSent + bulk new }

namespace Quiet

/-- A connection is quiet when nothing happens, if its pushes are sends. -/
theorem refl {c : Connection} (tickets : ∀ s ∈ c.sessions, s.Ticketed (requests c.history)) :
    Quiet c c :=
  ⟨rfl, rfl, rfl, rfl, rfl, rfl, rfl, rfl, rfl, rfl, fun _ s at_ => ⟨s, at_, ⟨rfl, rfl⟩, id⟩,
    tickets, ⟨[], rfl, nofun⟩, rfl, [], rfl, rfl⟩

/-- What is written down beside the data that sockets took. -/
theorem note {c c' : Connection} (q : Quiet c c') {w : Happening}
    (minor : Minor (requests c.history) w) (other : w.data? = none) : Quiet c (c'.note w) := by
  obtain ⟨new, grown, all⟩ := q.history
  obtain ⟨data, written, counted⟩ := q.counters
  refine { q with
    history := ⟨⟨c'.now, w⟩ :: new, ?_, ?_⟩
    counters := ⟨data, ?_, counted⟩ }
  · rw [List.cons_append, ← grown]
    rfl
  · intro e mem
    rcases List.mem_cons.mp mem with rfl | old
    · exact minor
    · exact all e old
  · rw [← written]
    exact List.filterMap_cons_none other

/-- A change inside a session that leaves its end, its reader and its unread messages is quiet. -/
theorem modifySession {c c' : Connection} (q : Quiet c c') {i : Nat} {f : Session → Session}
    (change : ∀ s, c'.sessions[i]? = some s →
      s.Near (f s) ∧ (s.Awake → (f s).Awake) ∧ (f s).Ticketed (requests c.history)) :
    Quiet c (c'.modifySession i f) := by
  refine { q with
    length := (List.length_modify f c'.sessions i).trans q.length
    sessions := ?_
    tickets := ?_ }
  · intro j s' at_
    rw [Connection.modifySession, List.getElem?_modify] at at_
    obtain ⟨s, before, rfl⟩ := Option.map_eq_some_iff.mp at_
    obtain ⟨s₀, first, near, awake⟩ := q.sessions j s before
    refine ⟨s₀, first, ?_⟩
    by_cases own : i = j
    · subst own
      rw [if_pos rfl]
      obtain ⟨near', awake', _⟩ := change s before
      exact ⟨⟨near'.ended.trans near.ended, near'.unread.trans near.unread⟩, awake' ∘ awake⟩
    · rw [if_neg own]
      exact ⟨near, awake⟩
  · intro s' mem
    obtain ⟨j, at_⟩ := List.mem_iff_getElem?.mp mem
    rw [Connection.modifySession, List.getElem?_modify] at at_
    obtain ⟨s, before, rfl⟩ := Option.map_eq_some_iff.mp at_
    by_cases own : i = j
    · subst own
      rw [if_pos rfl]
      exact (change s before).2.2
    · rw [if_neg own]
      exact q.tickets s (List.mem_of_getElem? before)

/-- A frame that the socket took changes what is counted of writes and nothing else. -/
theorem wrote {c c' : Connection} (q : Quiet c c') (i : Nat) (origin : Origin) (frame : Frame) :
    Quiet c (c'.wrote i origin frame) := by
  cases frame with
  | data payload =>
    obtain ⟨new, grown, all⟩ := q.history
    obtain ⟨data, written, counted⟩ := q.counters
    refine { q with
      history := ⟨⟨c'.now, .wrote i origin (.data payload)⟩ :: new, ?_, ?_⟩
      counters := ⟨payload :: data, ?_, ?_⟩ }
    · rw [List.cons_append, ← grown]
      rfl
    · intro e mem
      rcases List.mem_cons.mp mem with rfl | old
      · trivial
      · exact all e old
    · rw [List.cons_append, ← written]
      rfl
    · have more : (c'.wrote i origin (.data payload)).counters = c'.counters.sent payload.length :=
        rfl
      rw [more, counted, Counters.sent, List.length_cons, bulk, Nat.add_comm payload.length,
        Nat.add_assoc, Nat.add_assoc]
  | ping payload => exact q.note trivial rfl
  | pong payload => exact q.note trivial rfl
  | close => exact q.note trivial rfl

end Quiet

/-! ## What may happen -/

/-- The dial that an action is about. -/
def Action.dial? : Action → Option Nat
  | .load number _ | .dial number _ | .lookDialer number => some number
  | _ => none

/-- The session whose task acts in an action. -/
def Action.task? : Action → Option Nat
  | .lookReader i | .lookWriter i | .socket i _ | .lookKeeper i => some i
  | _ => none

/-- The call that an action makes. -/
def Action.request? : Action → Option Request
  | .connect => some .connect
  | .disconnect => some .disconnect
  | .send frame => some (.send frame)
  | _ => none

/-- What a dial does is no call. -/
theorem Action.no_call_of_dial {a : Action} {number : Nat} (own : a.dial? = some number) :
    a.request? = none := by
  cases a <;> first | rfl | cases own

/-- What a task of a session does is no call. -/
theorem Action.no_call_of_task {a : Action} {i : Nat} (own : a.task? = some i) : a.request? = none := by
  cases a <;> first | rfl | cases own

/-- A change that the tasks may make to a session that has ended. -/
def Tame (c : Connection) (i : Nat) (g : Session → Session) : Prop :=
  ∀ s, c.sessions[i]? = some s →
    s.finish.Near (g s.finish) ∧ (g s.finish).Ticketed (requests c.history)

/-- What an action comes to. -/
inductive Move (c : Connection) : Action → Connection → Prop where
  /-- A caller connects to a connection that is going down. -/
  | refused (gone : c.cancelled = true) :
      Move c .connect ((c.begin .connect).answer c.fresh (.error .closed))
  /-- A caller connects where the settings ask for nothing that can be dialed. -/
  | unfit (e : ConnectionError) (up : c.cancelled = false) (bad : ¬ Dialable c.settings) :
      Move c .connect ((c.begin .connect).giveWay.dialError c.fresh e)
  /-- A caller connects, and the TLS material is read first. -/
  | loads (up : c.cancelled = false) :
      Move c .connect ((c.begin .connect).giveWay.addDialer c.fresh true .loading)
  /-- A caller connects, and the handshake begins. -/
  | dials (deadline : Nat) (up : c.cancelled = false) (fit : Dialable c.settings) :
      Move c .connect
        (((c.begin .connect).giveWay.addDialer c.fresh true (.handshaking deadline)).note
          (.dialing c.fresh))
  /-- A backoff is over, and the TLS material is read first. -/
  | redialLoads {d : Dialer} (mem : d ∈ c.dialers) (redial : d.byCaller = false)
      (up : c.cancelled = false) :
      Move c (.lookDialer d.number)
        ((c.dropDialer d.number).giveWay.addDialer d.number false .loading)
  /-- A backoff is over, and the handshake begins. -/
  | redialDials {d : Dialer} (deadline : Nat) (mem : d ∈ c.dialers) (redial : d.byCaller = false)
      (up : c.cancelled = false) :
      Move c (.lookDialer d.number)
        (((c.dropDialer d.number).giveWay.addDialer d.number false (.handshaking deadline)).note
          (.dialing d.number))
  /-- The TLS material was read, and the handshake begins. -/
  | loaded {d : Dialer} (deadline : Nat) (mem : d ∈ c.dialers) (up : c.cancelled = false)
      (fit : Dialable c.settings) :
      Move c (.load d.number (.ok ()))
        (((c.dropDialer d.number).addDialer d.number d.byCaller (.handshaking deadline)).note
          (.dialing d.number))
  /-- A dial ends because the connection is going down. -/
  | dialClosed {d : Dialer} {a : Action} (own : a.dial? = some d.number) (mem : d ∈ c.dialers)
      (gone : c.cancelled = true) :
      Move c a ((c.dropDialer d.number).dialClosed d.number d.byCaller)
  /-- The dial of a caller fails. -/
  | callerFails {d : Dialer} {a : Action} (e : ConnectionError) (own : a.dial? = some d.number)
      (mem : d ∈ c.dialers) (caller : d.byCaller = true) (up : c.cancelled = false) :
      Move c a ((c.dropDialer d.number).dialError d.number e)
  /-- A redial fails. -/
  | redialFails {d : Dialer} {a : Action} (e : ConnectionError) (own : a.dial? = some d.number)
      (mem : d ∈ c.dialers) (redial : d.byCaller = false) (up : c.cancelled = false) :
      Move c a ((c.dropDialer d.number).fail none e).scheduleReconnect
  /-- The dial of a caller succeeds. -/
  | callerInstalls {d : Dialer} (mem : d ∈ c.dialers) (caller : d.byCaller = true)
      (up : c.cancelled = false) (fit : Dialable c.settings) :
      Move c (.dial d.number (.ok ()))
        ((c.dropDialer d.number).install.answer d.number (.ok ()))
  /-- A redial succeeds. -/
  | redialInstalls {d : Dialer} (mem : d ∈ c.dialers) (redial : d.byCaller = false)
      (up : c.cancelled = false) (fit : Dialable c.settings) :
      Move c (.dial d.number (.ok ())) (c.dropDialer d.number).install
  /-- Something arrives on the socket of a session. -/
  | arrives {i : Nat} (item : Inbound) (there : i < c.sessions.length) :
      Move c (.arrive i item)
        ((c.modifySession i fun s => { s with inbox := s.inbox ++ [item] }).note
          (.arrived i item))
  /-- The reader passes a message on. -/
  | delivers {i : Nat} {s : Session} {payload : Bytes} {rest : List Inbound}
      (at_ : c.sessions[i]? = some s) (going : s.ended = false) (up : c.cancelled = false)
      (head : s.inbox = .data payload :: rest) :
      Move c (.lookReader i)
        (((c.modifySession i ({ · with inbox := rest })).renewRead i).receive i payload)
  /-- A task ends its session. -/
  | ends {i : Nat} {a : Action} {g : Session → Session} (e : Option ConnectionError)
      (own : a.task? = some i) (live : c.Live i) (tame : Tame c i g) :
      Move c a ((c.endSession i e).modifySession i g)
  /-- A frame is sent. -/
  | sends {frame : Frame} {c' : Connection} (quiet : Quiet (c.begin (.send frame)) c') :
      Move c (.send frame) c'
  /-- Another look of a task or a send, or the clock. -/
  | quiet {a : Action} {c' : Connection} (look : a.request? = none) (quiet : Quiet c c') :
      Move c a c'
  /-- A disconnect after the first. -/
  | disconnectsAgain (gone : c.cancelled = true) :
      Move c .disconnect ((c.begin .disconnect).answer c.fresh (.ok ()))
  /-- The first disconnect, where no session is installed. -/
  | disconnectsIdle (up : c.cancelled = false) (idle : c.slot = none) :
      Move c .disconnect
        ({ c.begin .disconnect with cancelled := true, slot := none }.closeDown c.fresh)
  /-- The first disconnect takes the installed session out and waits for its tasks, or goes no
  further. -/
  | disconnects {i : Nat} (teardown : Option Teardown) (up : c.cancelled = false)
      (installed : c.slot = some i) (own : ∀ t ∈ teardown, t.call = c.fresh) :
      Move c .disconnect { c.begin .disconnect with cancelled := true, slot := none, teardown }
  /-- The first disconnect goes on after its wait. -/
  | tornDown {t : Teardown} {g : Session → Session} (waiting : c.teardown = some t)
      (close : ∀ s : Session, s.Close (g s)) :
      Move c .lookTeardown ((c.finishTeardown t).modifySession t.session g)

end Connection

end StationPool
