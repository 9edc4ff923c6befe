import StationPool.Proofs.Connection.Closing
import StationPool.Proofs.Connection.Turns

/-!
# The statistics and what happened

What a connection counts is kept in many places: where a session is installed, gives way or ends,
where a dial fails, where the attempts run out, where a message comes in or a frame goes out, and
where the first disconnect closes. A `Reckoning` is what is counted beside what the history tells of
it, and `Reckoning.Right` says that the two agree.

Whatever a step does between the beginning and the end of calls is a course of postings, each of
which is counted and told at once (`Reckoning.Posts`). The calls come in only with the first
disconnect, which leaves its moment where no session was lost (`Audited`).
-/

namespace StationPool.Connection

variable {c c' : Connection} {i : Nat}

/-! ## What a history tells of the counts -/

/-- The message that an entry passes on. -/
def Happening.given? : Happening → Option Bytes
  | .observed _ (.message payload) => some payload
  | _ => none

/-- The messages that the observer was given. -/
def given (history : List Entry) : List Bytes := history.filterMap (·.what.given?)

/-- The error that an entry tells of. -/
def Happening.failure? : Happening → Option ConnectionError
  | .observed _ (.failed e) => some e
  | _ => none

/-- The errors that the observer was told of. -/
def failed (history : List Entry) : List ConnectionError := history.filterMap (·.what.failure?)

/-- Whether a turn is the start of a session. -/
def Turn.isUp : Turn → Bool
  | .up _ => true
  | .down _ => false

/-- How many times a session was told as connected. -/
def ups (turns : List Turn) : Nat := turns.countP Turn.isUp

/-- How many times a session was told as disconnected. -/
def downs (turns : List Turn) : Nat := turns.countP (!·.isUp)

section

variable (s : Option Nat) (rest : List Turn)

/-- A start counts as a start, -/
@[simp] theorem ups_up : ups (.up s :: rest) = ups rest + 1 := List.countP_cons_of_pos rfl

/-- an end does not; -/
@[simp] theorem ups_down : ups (.down s :: rest) = ups rest := List.countP_cons_of_neg nofun

/-- and a start does not count as an end, -/
@[simp] theorem downs_up : downs (.up s :: rest) = downs rest := List.countP_cons_of_neg nofun

/-- but an end does. -/
@[simp] theorem downs_down : downs (.down s :: rest) = downs rest + 1 :=
  List.countP_cons_of_pos rfl

end

/-- The calls that disconnect. -/
def disconnects (history : List Entry) : List Nat :=
  ((requests history).filter (·.2 = .disconnect)).map (·.1)

/-- The first call that disconnects. -/
def firstDisconnect? (history : List Entry) : Option Nat := (disconnects history).getLast?

/-- The first call that disconnects has returned. -/
def Finished (history : List Entry) : Prop :=
  ∃ first outcome, firstDisconnect? history = some first ∧ (first, outcome) ∈ outcomes history

/-- Between turns that alternate, a session is up or none is. -/
theorem Alternating.balance {turns : List Turn} (alternating : Alternating turns) :
    ups turns = downs turns ∧ (∀ s, turns.head? ≠ some (.up s)) ∨
      ups turns = downs turns + 1 ∧ ∃ s, turns.head? = some (.up s) := by
  induction turns with
  | nil => exact .inl ⟨rfl, nofun⟩
  | cons turn rest ih =>
    cases turn with
    | up s =>
      obtain ⟨before, alternating⟩ := alternating
      rcases ih alternating with ⟨even, -⟩ | ⟨-, s', up⟩
      · exact .inr ⟨by rw [ups_up, downs_up, even], s, rfl⟩
      · obtain ⟨s'', down⟩ := before _ up
        cases down
    | down s =>
      obtain ⟨before, alternating⟩ := alternating
      rcases ih alternating with ⟨-, not_up⟩ | ⟨odd, -⟩
      · exact absurd before (not_up s)
      · exact .inl ⟨by rw [ups_down, downs_down, odd], nofun⟩

/-! ## Reckonings -/

/-- What a connection counts, and what its history tells of it. -/
structure Reckoning where
  counters : Counters
  lastError : Option ConnectionError
  active : Option Int
  given : List Bytes
  written : List Bytes
  failed : List ConnectionError
  turns : List Turn

/-- The reckoning of a connection. -/
def reckoning (c : Connection) : Reckoning :=
  { counters := c.counters
    lastError := c.lastError
    active := c.metrics.active
    given := Connection.given c.history
    written := dataWritten c.history
    failed := Connection.failed c.history
    turns := Connection.turns c.history }

namespace Reckoning

variable {a b : Reckoning} {finished : Prop}

/-- The counts are those that the history tells. -/
structure Right (a : Reckoning) (finished : Prop) : Prop where
  messagesReceived : a.counters.messagesReceived = a.given.length
  bytesReceived : a.counters.bytesReceived = bulk a.given
  messagesSent : a.counters.messagesSent = a.written.length
  bytesSent : a.counters.bytesSent = bulk a.written
  lastError : a.lastError = a.failed.head?
  connectedAt : a.counters.connectedAt = true ↔ 0 < ups a.turns
  disconnectedAt : a.counters.disconnectedAt = true ↔ 0 < downs a.turns ∨ finished
  active : a.active.getD 0 = (ups a.turns : Int) - downs a.turns

/-- A message came in. -/
def receive (a : Reckoning) (payload : Bytes) : Reckoning :=
  { a with counters := a.counters.received payload.length, given := payload :: a.given }

/-- An error is kept. -/
def fail (a : Reckoning) (e : ConnectionError) : Reckoning :=
  { a with lastError := some e, failed := e :: a.failed }

/-- A session was installed. -/
def up (a : Reckoning) (session : Option Nat) : Reckoning :=
  { a with
    counters := { a.counters with connectedAt := true }
    active := Metrics.bump 1 a.active
    turns := .up session :: a.turns }

/-- A session is over. -/
def down (a : Reckoning) (session : Option Nat) : Reckoning :=
  { a with
    counters := { a.counters with disconnectedAt := true }
    active := Metrics.bump (-1) a.active
    turns := .down session :: a.turns }

/-- One reckoning comes out of another by postings. -/
inductive Posts (a : Reckoning) : Reckoning → Prop where
  | refl : Posts a a
  | receive {b : Reckoning} (payload : Bytes) : Posts a b → Posts a (b.receive payload)
  | fail {b : Reckoning} (e : ConnectionError) : Posts a b → Posts a (b.fail e)
  | up {b : Reckoning} (session : Option Nat) : Posts a b → Posts a (b.up session)
  | down {b : Reckoning} (session : Option Nat) : Posts a b → Posts a (b.down session)

/-- Postings after postings are postings. -/
theorem Posts.trans {d : Reckoning} (first : Posts a b) (second : Posts b d) : Posts a d := by
  induction second with
  | refl => exact first
  | receive payload _ ih => exact ih.receive payload
  | fail e _ ih => exact ih.fail e
  | up session _ ih => exact ih.up session
  | down session _ ih => exact ih.down session

/-- A count that was never touched counts from nothing. -/
theorem bump_getD (amount : Int) (n : Option Int) :
    (Metrics.bump amount n).getD 0 = n.getD 0 + amount := by
  cases n with
  | none => exact (Int.zero_add amount).symm
  | some n => rfl

/-- A posting is counted as it is told. -/
theorem Right.posts (right : Right a finished) (posts : Posts a b) : Right b finished := by
  induction posts with
  | refl => exact right
  | receive payload _ ih =>
    refine { ih with messagesReceived := ?_, bytesReceived := ?_ }
    · exact congrArg (· + 1) ih.messagesReceived
    · rw [Reckoning.receive, Counters.received, bulk, ih.bytesReceived]
      exact Nat.add_comm _ _
  | fail e _ ih => exact { ih with lastError := rfl }
  | @up b session _ ih =>
    refine { ih with connectedAt := ?_, disconnectedAt := ?_, active := ?_ }
    · refine iff_of_true rfl ?_
      rw [Reckoning.up, ups_up]
      exact Nat.succ_pos _
    · rw [Reckoning.up, downs_up]
      exact ih.disconnectedAt
    · rw [Reckoning.up, bump_getD, ups_up, downs_up, ih.active]
      omega
  | @down b session _ ih =>
    refine { ih with connectedAt := ?_, disconnectedAt := ?_, active := ?_ }
    · rw [Reckoning.down, ups_down]
      exact ih.connectedAt
    · refine iff_of_true rfl (.inl ?_)
      rw [Reckoning.down, downs_down]
      exact Nat.succ_pos _
    · rw [Reckoning.down, bump_getD, ups_down, downs_down, ih.active]
      omega

/-- Sockets took data. -/
def send (a : Reckoning) (data : List Bytes) : Reckoning :=
  { a with
    counters := { a.counters with
      messagesSent := a.counters.messagesSent + data.length
      bytesSent := a.counters.bytesSent + bulk data }
    written := data ++ a.written }

/-- Whatever sockets take is counted by messages and by bytes. -/
theorem Right.send (right : Right a finished) (data : List Bytes) :
    Right (a.send data) finished := by
  refine { right with messagesSent := ?_, bytesSent := ?_ }
  · rw [Reckoning.send, List.length_append, right.messagesSent, Nat.add_comm]
  · rw [Reckoning.send, bulk_append, right.bytesSent]
    exact Nat.add_comm _ _

/-- The first disconnect leaves its moment. -/
theorem Right.close (right : Right a finished) {finished' : Prop} (now : finished') :
    Right { a with counters := { a.counters with disconnectedAt := true } } finished' :=
  { right with disconnectedAt := iff_of_true rfl (.inr now) }

/-- What is right depends on the end of the first disconnect only by whether it has come. -/
theorem Right.congr (right : Right a finished) {finished' : Prop} (same : finished ↔ finished') :
    Right a finished' :=
  { right with disconnectedAt := right.disconnectedAt.trans (or_congr_right same) }

end Reckoning

/-! ## What is posted -/

/-- Postings, and no call is made or ends. -/
structure Posted (c c' : Connection) : Prop where
  posts : c.reckoning.Posts c'.reckoning
  requests : requests c'.history = requests c.history
  outcomes : outcomes c'.history = outcomes c.history
  cancelled : c'.cancelled = c.cancelled
  teardown : c'.teardown = c.teardown

namespace Posted

/-- Where nothing happens nothing is posted. -/
theorem refl : Posted c c := ⟨.refl, rfl, rfl, rfl, rfl⟩

/-- What is posted in two parts of a step is posted in the step. -/
theorem trans {d : Connection} (first : Posted c c') (second : Posted c' d) : Posted c d where
  posts := first.posts.trans second.posts
  requests := second.requests.trans first.requests
  outcomes := second.outcomes.trans first.outcomes
  cancelled := second.cancelled.trans first.cancelled
  teardown := second.teardown.trans first.teardown

/-- To enter a state posts nothing. -/
theorem enter (next : Lifecycle) : Posted c (c.enter next) := ⟨.refl, rfl, rfl, rfl, rfl⟩

/-- An error that is kept is posted once, as the last one and as one that was told. -/
theorem fail (session : Option Nat) (e : ConnectionError) : Posted c (c.fail session e) :=
  ⟨.fail e .refl, rfl, rfl, rfl, rfl⟩

/-- A session that gives way is posted as over, unless it was over before. -/
theorem retire (i : Nat) : Posted c (c.retire i) := by
  by_cases live : c.Live i
  · rw [retire_of_live live]
    exact ⟨.down (some i) .refl, rfl, rfl, rfl, rfl⟩
  · rw [retire_of_over live]
    exact refl

/-- So is the installed one. -/
theorem retireCurrent : Posted c c.retireCurrent := by
  unfold Connection.retireCurrent
  split
  · exact refl
  · have vacated (i : Nat) : Posted { c with slot := none } ({ c with slot := none }.retire i) :=
      retire i
    exact { vacated _ with }

theorem giveWay : Posted c c.giveWay := (enter .connecting).trans retireCurrent

/-- Where the attempts are spent the error is posted; a redial that is scheduled posts nothing. -/
theorem scheduleReconnect : Posted c c.scheduleReconnect := by
  unfold Connection.scheduleReconnect
  split
  · exact ⟨.fail _ .refl, rfl, rfl, rfl, rfl⟩
  · dsimp only
    split <;> exact ⟨.refl, rfl, rfl, rfl, rfl⟩

/-- What follows the end of a session posts at most that the attempts are spent. -/
theorem settleEnd : Posted c c.settleEnd := by
  unfold Connection.settleEnd
  split
  · exact enter .closed
  · exact scheduleReconnect

/-- A session ends: that it is over is told with what follows. -/
theorem vacate_afterEnd (i : Nat) (e : Option ConnectionError) :
    Posted c ((c.vacate i).afterEnd i e) := by
  cases e with
  | none =>
    rw [afterEnd_none]
    refine trans ?_ settleEnd
    exact ⟨.down (some i) .refl, rfl, rfl, rfl, rfl⟩
  | some e =>
    rw [afterEnd_some]
    refine trans ?_ settleEnd
    exact ⟨.down (some i) (.fail e .refl), rfl, rfl, rfl, rfl⟩

/-- A session that is installed is posted as connected, after the one before it is posted as over.
-/
theorem install (h : Sound c) (up : c.cancelled = false) : Posted c c.install := by
  rw [h.install_eq up, install_of_empty retireCurrent_slot (h.retireCurrent_unclosed up)]
  refine retireCurrent.trans ?_
  exact ⟨.up (some c.retireCurrent.sessions.length) .refl, rfl, rfl, rfl, rfl⟩

end Posted

/-! ## The audit of a run -/

/-- The first disconnect is a call that was made. -/
theorem firstDisconnect?_asked {history : List Entry} {call : Nat}
    (first : firstDisconnect? history = some call) : (call, .disconnect) ∈ requests history := by
  obtain ⟨⟨n, request⟩, mem, rfl⟩ := List.mem_map.mp (List.mem_of_getLast? first)
  obtain ⟨asked, is⟩ := List.mem_filter.mp mem
  obtain rfl : request = .disconnect := of_decide_eq_true is
  exact asked

/-- Which calls disconnect can be read off the calls. -/
theorem disconnects_congr {history history' : List Entry}
    (same : requests history' = requests history) : disconnects history' = disconnects history := by
  rw [disconnects, disconnects, same]

/-- So can the first of them. -/
theorem firstDisconnect?_congr {history history' : List Entry}
    (same : requests history' = requests history) :
    firstDisconnect? history' = firstDisconnect? history := by
  rw [firstDisconnect?, firstDisconnect?, disconnects_congr same]

/-- A call that disconnects is one more of them. -/
theorem disconnects_begin (request : Request) : disconnects (c.begin request).history =
    if request = .disconnect then c.fresh :: disconnects c.history
    else disconnects c.history := by
  have asked : requests (c.begin request).history = (c.fresh, request) :: requests c.history := rfl
  rw [disconnects, asked]
  by_cases disconnect : request = .disconnect
  · rw [List.filter_cons_of_pos (by simpa using disconnect), if_pos disconnect]
    rfl
  · rw [List.filter_cons_of_neg (by simpa using disconnect), if_neg disconnect]
    rfl

/-- The statistics agree with the history, and the history knows the first disconnect. -/
structure Audited (c : Connection) : Prop where
  right : c.reckoning.Right (Finished c.history)
  idle : c.cancelled = false → disconnects c.history = []
  gone : c.cancelled = true → disconnects c.history ≠ []
  waiting : ∀ t, c.teardown = some t → firstDisconnect? c.history = some t.call
  ended : ∀ x ∈ outcomes c.history, ∃ request, (x.1, request) ∈ requests c.history

namespace Audited

/-- Postings keep the statistics in agreement with the history. -/
theorem posted (a : Audited c) (p : Posted c c') : Audited c' := by
  have disconnects := disconnects_congr p.requests
  have first := firstDisconnect?_congr p.requests
  have finished : Finished c.history ↔ Finished c'.history := by
    rw [Finished, Finished, first, p.outcomes]
  refine ⟨(a.right.posts p.posts).congr finished, ?_, ?_, ?_, ?_⟩
  · rw [p.cancelled, disconnects]
    exact a.idle
  · rw [p.cancelled, disconnects]
    exact a.gone
  · rw [p.teardown, first]
    exact a.waiting
  · rw [p.outcomes, p.requests]
    exact a.ended

/-- A later disconnect does not become the first. -/
theorem firstDisconnect?_begin (a : Audited c) {request : Request}
    (later : request = .disconnect → c.cancelled = true) :
    firstDisconnect? (c.begin request).history = firstDisconnect? c.history := by
  rw [firstDisconnect?, disconnects_begin]
  by_cases disconnect : request = .disconnect
  · rw [if_pos disconnect]
    exact List.getLast?_cons_of_ne_nil (a.gone (later disconnect))
  · rw [if_neg disconnect]
    rfl

/-- A call is made that is not the first disconnect. -/
theorem begin (a : Audited c) {request : Request}
    (later : request = .disconnect → c.cancelled = true) : Audited (c.begin request) := by
  have made := disconnects_begin (c := c) request
  have first := a.firstDisconnect?_begin later
  have finished : Finished c.history ↔ Finished (c.begin request).history := by
    rw [Finished, Finished, first]
    rfl
  refine ⟨a.right.congr finished, fun up => ?_, fun gone => ?_, ?_, ?_⟩
  · have other : request ≠ .disconnect := by
      intro disconnect
      rw [show c.cancelled = false from up] at later
      cases later disconnect
    rw [made, if_neg other]
    exact a.idle up
  · rw [made]
    split
    · exact List.cons_ne_nil _ _
    · exact a.gone gone
  · rw [first]
    exact a.waiting
  · intro x mem
    obtain ⟨request', asked⟩ := a.ended x mem
    exact ⟨request', List.mem_cons_of_mem _ asked⟩

/-- A call ends that is not the first disconnect. -/
theorem answer (a : Audited c) {call : Nat} {request : Request} {outcome : Outcome}
    (asked : (call, request) ∈ requests c.history)
    (other : firstDisconnect? c.history ≠ some call) : Audited (c.answer call outcome) := by
  have finished : Finished c.history ↔ Finished (c.answer call outcome).history := by
    constructor
    · rintro ⟨first, outcome', is, mem⟩
      exact ⟨first, outcome', is, List.mem_cons_of_mem _ mem⟩
    · rintro ⟨first, outcome', is, mem⟩
      rcases List.mem_cons.mp mem with same | mem
      · obtain ⟨rfl, rfl⟩ := Prod.mk.inj same
        exact absurd is other
      · exact ⟨first, outcome', is, mem⟩
  refine ⟨a.right.congr finished, a.idle, a.gone, a.waiting, fun x mem => ?_⟩
  rcases List.mem_cons.mp mem with rfl | mem
  · exact ⟨request, asked⟩
  · exact a.ended x mem

/-- A call ends that asked for something else than to disconnect. -/
theorem answered (a : Audited c) (h : Sound c) (p : Posted c c') {call : Nat} {request : Request}
    {outcome : Outcome} (asked : (call, request) ∈ requests c.history)
    (plain : request ≠ .disconnect) : Audited (c'.answer call outcome) := by
  refine (a.posted p).answer (p.requests.symm ▸ asked) ?_
  rw [firstDisconnect?_congr p.requests]
  exact fun first => plain (h.request_unique asked (firstDisconnect?_asked first))

/-- A quiet step counts the data that sockets took, and may end sends. -/
theorem quiet (a : Audited c) (h : Sound c) (q : Quiet c c') : Audited c' := by
  obtain ⟨new, grown, minor⟩ := q.history
  obtain ⟨data, written, counters⟩ := q.counters
  have silent {α : Type} (view : Happening → Option α)
      (none_ : ∀ w, Minor (requests c.history) w → view w = none) :
      c'.history.filterMap (view ·.what) = c.history.filterMap (view ·.what) := by
    rw [grown, List.filterMap_append, List.filterMap_eq_nil_iff.mpr, List.nil_append]
    exact fun e mem => none_ e.what (minor e mem)
  have given : given c'.history = given c.history := by
    refine silent Happening.given? fun w minor => ?_
    cases w <;> first | rfl | exact minor.elim
  have failed : failed c'.history = failed c.history := by
    refine silent Happening.failure? fun w minor => ?_
    cases w <;> first | rfl | exact minor.elim
  have turns : turns c'.history = turns c.history := by
    refine silent Happening.turn? fun w minor => ?_
    cases w <;> first | rfl | exact minor.elim
  have first := firstDisconnect?_congr q.requests
  have ends : outcomes c'.history = outcomes new ++ outcomes c.history := by
    rw [grown]
    exact List.filterMap_append
  have sends : ∀ x ∈ outcomes new, ∃ frame, (x.1, .send frame) ∈ requests c.history := by
    intro x mem
    obtain ⟨e, there, is⟩ := List.mem_filterMap.mp mem
    have minor := minor e there
    cases what : e.what with
    | returned call outcome =>
      rw [what] at is minor
      cases is
      exact minor
    | _ =>
      rw [what] at is
      cases is
  have finished : Finished c.history ↔ Finished c'.history := by
    rw [Finished, Finished, first, ends]
    constructor
    · rintro ⟨call, outcome, is, mem⟩
      exact ⟨call, outcome, is, List.mem_append_right _ mem⟩
    · rintro ⟨call, outcome, is, mem⟩
      rcases List.mem_append.mp mem with mem | mem
      · obtain ⟨frame, asked⟩ := sends _ mem
        cases h.request_unique asked (firstDisconnect?_asked is)
      · exact ⟨call, outcome, is, mem⟩
  have reckoning : c'.reckoning = c.reckoning.send data := by
    simp only [Connection.reckoning, Reckoning.send, counters, q.lastError, q.active, given, written,
      failed, turns]
  refine ⟨reckoning ▸ (a.right.send data).congr finished, ?_, ?_, ?_, ?_⟩
  · rw [q.cancelled, disconnects_congr q.requests]
    exact a.idle
  · rw [q.cancelled, disconnects_congr q.requests]
    exact a.gone
  · rw [q.teardown, first]
    exact a.waiting
  · rw [ends, q.requests]
    intro x mem
    rcases List.mem_append.mp mem with mem | mem
    · obtain ⟨frame, asked⟩ := sends x mem
      exact ⟨.send frame, asked⟩
    · exact a.ended x mem

/-- The first disconnect is called. -/
theorem firstDisconnect?_first (a : Audited c) (up : c.cancelled = false) :
    firstDisconnect? (c.begin .disconnect).history = some c.fresh := by
  rw [firstDisconnect?, disconnects_begin, if_pos rfl, a.idle up]
  rfl

/-- The first disconnect finds nothing installed, and has returned. -/
theorem disconnectIdle (a : Audited c) (h : Sound c) (up : c.cancelled = false) :
    Audited ({ c.begin .disconnect with cancelled := true, slot := none }.closeDown c.fresh) := by
  have first := a.firstDisconnect?_first up
  have made := disconnects_begin (c := c) .disconnect
  rw [if_pos rfl] at made
  refine ⟨a.right.close ⟨c.fresh, .ok (), first, List.mem_cons_self⟩, nofun, fun _ => ?_, ?_, ?_⟩
  · exact made ▸ List.cons_ne_nil _ _
  · intro t waiting
    obtain ⟨gone, -⟩ := h.teardown t waiting
    rw [up] at gone
    cases gone
  · intro x mem
    rcases List.mem_cons.mp mem with rfl | mem
    · exact ⟨.disconnect, List.mem_cons_self⟩
    · obtain ⟨request, asked⟩ := a.ended x mem
      exact ⟨request, List.mem_cons_of_mem _ asked⟩

/-- The first disconnect takes the installed session out, and has not returned. -/
theorem disconnect (a : Audited c) (h : Sound c) (up : c.cancelled = false)
    {teardown : Option Teardown} (own : ∀ t ∈ teardown, t.call = c.fresh) :
    Audited { c.begin .disconnect with cancelled := true, slot := none, teardown } := by
  have first := a.firstDisconnect?_first up
  have made := disconnects_begin (c := c) .disconnect
  rw [if_pos rfl] at made
  have finished : Finished c.history ↔ Finished (c.begin .disconnect).history := by
    constructor
    · rintro ⟨call, outcome, is, -⟩
      rw [firstDisconnect?, a.idle up] at is
      cases is
    · rintro ⟨call, outcome, is, mem⟩
      obtain rfl : c.fresh = call := Option.some.inj (first.symm.trans is)
      obtain ⟨request, asked⟩ := a.ended (c.fresh, outcome) mem
      exact absurd asked h.not_asked_fresh
  refine ⟨a.right.congr finished, nofun, fun _ => ?_, ?_, ?_⟩
  · exact made ▸ List.cons_ne_nil _ _
  · intro t waiting
    rw [own t waiting]
    exact first
  · intro x mem
    obtain ⟨request, asked⟩ := a.ended x mem
    exact ⟨request, List.mem_cons_of_mem _ asked⟩

/-- The first disconnect goes on after its wait, and has returned. -/
theorem finishTeardown (a : Audited c) (h : Sound c) {t : Teardown}
    (waiting : c.teardown = some t) : Audited (c.finishTeardown t) := by
  obtain ⟨gone, asked⟩ := h.teardown t waiting
  have p := Posted.retire (c := { c with teardown := none }) t.session
  have requests : requests (c.finishTeardown t).history = requests c.history := p.requests
  have first := (firstDisconnect?_congr requests).trans (a.waiting t waiting)
  have posts : c.reckoning.Posts ({ c with teardown := none }.retire t.session).reckoning := p.posts
  refine ⟨(a.right.posts posts).close ⟨t.call, .ok (), first, List.mem_cons_self⟩, fun up => ?_,
    fun _ => ?_, fun t' waiting' => ?_, fun x mem => ?_⟩
  · have gone' : (c.finishTeardown t).cancelled = true := p.cancelled.trans gone
    rw [gone'] at up
    cases up
  · rw [disconnects_congr requests]
    exact a.gone gone
  · have none_ : (c.finishTeardown t).teardown = none := p.teardown
    rw [none_] at waiting'
    cases waiting'
  · rw [requests]
    rcases List.mem_cons.mp mem with rfl | mem
    · exact ⟨.disconnect, asked⟩
    · have before : x ∈ outcomes c.history := p.outcomes ▸ mem
      exact a.ended x before

/-- Every step keeps the audit. -/
theorem move (a : Audited c) (h : Sound c) {act : Action} (m : Move c act c') : Audited c' := by
  have connects : Audited (c.begin .connect) := a.begin nofun
  have asks : (c.fresh, .connect) ∈ requests (c.begin .connect).history := List.mem_cons_self
  have dropped (number : Nat) : Posted c (c.dropDialer number) := ⟨.refl, rfl, rfl, rfl, rfl⟩
  have begins (d : Dialer) : Posted c (c.dropDialer d.number).giveWay :=
    (dropped d.number).trans .giveWay
  cases m with
  | refused gone => exact connects.answered (h.begin .connect) .refl asks nofun
  | unfit e up bad =>
    have failed := (Posted.giveWay (c := c.begin .connect)).trans
      ((Posted.fail none e).trans (.enter .error))
    exact connects.answered (h.begin .connect) failed asks nofun
  | loads up =>
    refine connects.posted (Posted.giveWay.trans ?_)
    exact ⟨.refl, rfl, rfl, rfl, rfl⟩
  | dials deadline up fit =>
    refine connects.posted (Posted.giveWay.trans ?_)
    exact ⟨.refl, rfl, rfl, rfl, rfl⟩
  | @redialLoads d mem redial up =>
    refine a.posted ((begins d).trans ?_)
    exact ⟨.refl, rfl, rfl, rfl, rfl⟩
  | @redialDials d deadline mem redial up =>
    refine a.posted ((begins d).trans ?_)
    exact ⟨.refl, rfl, rfl, rfl, rfl⟩
  | loaded deadline mem up fit => exact a.posted ⟨.refl, rfl, rfl, rfl, rfl⟩
  | @dialClosed d _ own mem gone =>
    unfold Connection.dialClosed
    split
    · rename_i caller
      exact a.answered h (dropped d.number) (h.callers d mem caller) nofun
    · exact a.posted (dropped d.number)
  | @callerFails d _ e own mem caller up =>
    have failed := (dropped d.number).trans ((Posted.fail none e).trans (.enter .error))
    exact a.answered h failed (h.callers d mem caller) nofun
  | @redialFails d _ e own mem redial up =>
    exact a.posted ((dropped d.number).trans ((Posted.fail none e).trans .scheduleReconnect))
  | @callerInstalls d mem caller up fit =>
    have installed := (dropped d.number).trans (.install (h.dropDialer d.number) up)
    exact a.answered h installed (h.callers d mem caller) nofun
  | @redialInstalls d mem redial up fit =>
    exact a.posted ((dropped d.number).trans (.install (h.dropDialer d.number) up))
  | arrives item there => exact a.posted ⟨.refl, rfl, rfl, rfl, rfl⟩
  | @delivers i s payload rest at_ going up head =>
    exact a.posted ⟨.receive payload .refl, rfl, rfl, rfl, rfl⟩
  | @ends i _ g e own live tame =>
    rw [h.endSession_eq live]
    refine a.posted ((Posted.vacate_afterEnd i e).trans ?_)
    exact ⟨.refl, rfl, rfl, rfl, rfl⟩
  | @sends frame _ quiet =>
    have asked : Audited (c.begin (.send frame)) := a.begin nofun
    exact asked.quiet (h.begin _) quiet
  | quiet look quiet => exact a.quiet h quiet
  | disconnectsAgain gone =>
    refine (a.begin fun _ => gone).answer List.mem_cons_self ?_
    rw [a.firstDisconnect?_begin fun _ => gone]
    exact fun first => h.not_asked_fresh (firstDisconnect?_asked first)
  | disconnectsIdle up idle => exact a.disconnectIdle h up
  | @disconnects i teardown up installed own => exact a.disconnect h up own
  | @tornDown t g waiting close =>
    exact (a.finishTeardown h waiting).posted ⟨.refl, rfl, rfl, rfl, rfl⟩

end Audited

/-- The statistics of every reachable connection agree with its history. -/
theorem Reachable.audited {settings : ConnectionSettings} (reachable : Reachable settings c) :
    Audited c := by
  induction reachable with
  | new =>
    refine ⟨⟨rfl, rfl, rfl, rfl, rfl, ⟨nofun, nofun⟩, ⟨nofun, ?_⟩, rfl⟩, fun _ => rfl, nofun,
      nofun, nofun⟩
    rintro (none_ | ⟨first, outcome, is, -⟩)
    · exact absurd none_ (Nat.lt_irrefl 0)
    · cases is
  | step a before stepped ih => exact ih.move before.sound (move_of_step before.sound stepped)

/-- **The statistics agree with what happened.** The counts of messages and bytes are those of what
the observer was given and of the data that the sockets took, over all sessions; the last error is
the one the observer was told of last. Whether a session was ever installed, and ever ended, is what
the observer was told, but that the first disconnect leaves its moment too once it has returned. The
process counts the connection as active while a session is up. -/
theorem statistics_agree {settings : ConnectionSettings} (reachable : Reachable settings c) :
    c.stats.counters.messagesReceived = (given c.history).length ∧
    c.stats.counters.bytesReceived = bulk (given c.history) ∧
    c.stats.counters.messagesSent = (dataWritten c.history).length ∧
    c.stats.counters.bytesSent = bulk (dataWritten c.history) ∧
    c.stats.lastError = (failed c.history).head?.map ConnectionError.message ∧
    (c.stats.counters.connectedAt = true ↔ 0 < ups (turns c.history)) ∧
    (c.stats.counters.disconnectedAt = true ↔
      0 < downs (turns c.history) ∨ Finished c.history) ∧
    c.metrics.active.getD 0 = (ups (turns c.history) : Int) - downs (turns c.history) ∧
    (c.metrics.active.getD 0 = 0 ∨ c.metrics.active.getD 0 = 1) := by
  have right := reachable.audited.right
  have active : c.metrics.active.getD 0 = (ups (turns c.history) : Int) - downs (turns c.history) :=
    right.active
  refine ⟨right.messagesReceived, right.bytesReceived, right.messagesSent, right.bytesSent,
    congrArg (Option.map ConnectionError.message) right.lastError, right.connectedAt,
    right.disconnectedAt, active, ?_⟩
  rcases reachable.kept.1.alternating.balance with ⟨even, -⟩ | ⟨odd, -⟩
  · have even : ups (turns c.history) = downs (turns c.history) := even
    exact .inl (by omega)
  · have odd : ups (turns c.history) = downs (turns c.history) + 1 := odd
    exact .inr (by omega)

/-- A session that is given a message, sends one and is lost. -/
def busySession : List Action :=
  [.connect, .dial 0 (.ok ()), .arrive 0 (.data [1, 2]), .lookReader 0, .send (.data [3]),
    .lookWriter 0, .socket 0 (.ok ()), .arrive 0 (.failed .connectionClosed), .lookReader 0]

/-- A session that was given two bytes, has sent one and is lost: the counts say so, the end has a
time, and the gauge is back at nothing. -/
theorem busy_session_counted : ∃ c, (new plain).after busySession = some c ∧
    c.stats.counters.bytesReceived = 2 ∧ c.stats.counters.bytesSent = 1 ∧
    c.stats.counters.disconnectedAt = true ∧ c.metrics.active.getD 0 = 0 := by
  obtain ⟨c, run, reachable, outcome⟩ := @reachable_of_run plain busySession
    (fun c => given c.history = [[1, 2]] ∧ dataWritten c.history = [[3]] ∧
      turns c.history = [.down (some 0), .up (some 0)]) (by decide +kernel)
  obtain ⟨received, sent, turned⟩ := of_decide_eq_true outcome
  obtain ⟨-, bytesReceived, -, bytesSent, -, -, disconnectedAt, active, -⟩ :=
    statistics_agree reachable
  rw [received] at bytesReceived
  rw [sent] at bytesSent
  rw [turned] at disconnectedAt active
  exact ⟨c, run, bytesReceived, bytesSent, disconnectedAt.mpr (.inl Nat.one_pos), active⟩

end StationPool.Connection
