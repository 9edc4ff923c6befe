import StationPool.Proofs.Connection.Keepalive
import StationPool.Proofs.Connection.Schedule
import StationPool.Wire

/-!
# The read deadline

How long a session that hears nothing goes on. The deadline of its reader rolls over complete
messages: data, pings and pongs put it off, and the fragments of a message that is not complete
leave it as it is. So a session ends by a read timeout only if no message has come in for the whole
read timeout, in whatever order everything else happens; and where the clock passes no timer by, it
ends exactly that long after its last message (`read_deadline_follows_messages`).

A session whose frames come in without a pause can time out all the same, if they are the fragments
of one long message (`fragments_leave_read_deadline`).
-/

namespace StationPool

/-! ## Fragments -/

/-- Whether something from a socket is a frame. -/
def Inbound.isFrame : Inbound → Bool
  | .piece | .data _ | .ping | .pong => true
  | _ => false

namespace Wire

/-- A frame that is accepted completes its message exactly if it is the last of it. -/
theorem Assembly.extend_piece {a : Assembly} {final : Bool} {payload : Bytes}
    (sound : ∀ e, (a.extend final payload).1 ≠ .failed e) :
    (a.extend final payload).1 = .piece ↔ final = false := by
  fun_cases Assembly.extend a final payload with
  | case1 bytes long =>
    rw [extend, if_pos long] at sound
    exact absurd rfl (sound _)
  | case2 bytes short ill =>
    rw [extend, if_neg short, if_pos ill] at sound
    exact absurd rfl (sound _)
  | case3 bytes short well last => simp [last]
  | case4 bytes short well more => simpa using more

/-- A data frame that breaks no rule is a piece exactly if more fragments of its message follow. -/
theorem judge_piece {assembly : Option Assembly} {f : Read} (data : f.kind < 8)
    (sound : ∀ e, (judge assembly f).1 ≠ .failed e) :
    (judge assembly f).1 = .piece ↔ f.final = false := by
  have low : ¬ 8 ≤ f.kind := Nat.not_le.mpr data
  fun_cases judge assembly f with
  | case8 unreserved unmasked _ a next =>
    simp only [judge, if_neg unreserved, if_neg unmasked, if_neg low, if_pos next] at sound
    exact Assembly.extend_piece sound
  | case9 unreserved unmasked _ a other =>
    simp only [judge, if_neg unreserved, if_neg unmasked, if_neg low, if_neg other] at sound
    exact absurd rfl (sound _)
  | case10 unreserved unmasked _ next =>
    simp only [judge, if_neg unreserved, if_neg unmasked, if_neg low, if_pos next] at sound
    exact absurd rfl (sound _)
  | case11 unreserved unmasked _ new_ =>
    simp only [judge, if_neg unreserved, if_neg unmasked, if_neg low, if_neg new_] at sound
    exact Assembly.extend_piece sound
  | _ => simp_all [judge]

end Wire

namespace Connection

variable {settings : ConnectionSettings} {c c' : Connection} {i now : Nat} {s : Session}
  {a : Action} {history : List (Nat × Signal)} {asks : List (Nat × Nat)}

/-! ## Views -/

/-- When an entry says that a session began or that a frame came in for it, if it does. -/
def Entry.framed? (i : Nat) (e : Entry) : Option Nat :=
  match e.what with
  | .observed (some j) .connected => if j = i then some e.moment else none
  | .arrived j item => if j = i ∧ item.isFrame = true then some e.moment else none
  | _ => none

/-- When the frames of a session came in, the last first; its start is the first of them. -/
def framesOf (i : Nat) (history : List Entry) : List Nat := history.filterMap (Entry.framed? i)

/-- The end of a session by a read timeout, as the observer is told. -/
def timeout (i moment : Nat) (limit : Duration) : Entry :=
  ⟨moment, .observed (some i) (.disconnected (some (.readTimeout limit)))⟩

/-- A read timeout that the observer was told of is a loss among the signals, behind the same
signals as the entry behind its entries. -/
theorem signals_timeout {moment : Nat} {limit : Duration} {before all : List Entry}
    (suffix : timeout i moment limit :: before <:+ all) :
    (moment, .lost i (.readTimeout limit)) :: signals before <:+ signals all :=
  suffix.filterMap fun e : Entry => e.what.signal?.map (e.moment, ·)

/-- A message that arrived is one that the session heard of. -/
theorem mem_heardOf {m : Nat} {before : List Entry} {item : Inbound}
    (mem : ⟨m, .arrived i item⟩ ∈ before) (message : item.isMessage = true) :
    m ∈ heardOf i (signals before) := by
  have signalled : (m, Signal.heard i) ∈ signals before := by
    refine List.mem_filterMap.mpr ⟨_, mem, ?_⟩
    rw [Happening.signal?, if_pos message]
    rfl
  exact List.mem_map.mpr ⟨_, List.mem_filter.mpr ⟨signalled, beq_self_eq_true i⟩, rfl⟩

/-! ## In whatever order -/

/-- The signals of a reachable connection concern the sessions it has. -/
theorem Reachable.placed (reachable : Reachable settings c) :
    ∀ x ∈ c.chart.signals, x.2.session < c.chart.bodies.length := by
  induction reachable with
  | new => nofun
  | step a before stepped ih => exact ((pulse_of_step before.sound stepped).placed ih).2

/-- The reader of a session that goes on, in any order of steps: it waits as long as it may from the
last message that it took, and once it has nothing left to take, that is the last that came. -/
structure Hears (settings : ConnectionSettings) (now : Nat) (history : List (Nat × Signal))
    (i : Nat) (s : Session) : Prop where
  reads : s.reader = .waiting (s.lastInbound + settings.readTimeout.nanos)
  started : heardOf i history ≠ []
  past : ∀ m ∈ heardOf i history, m ≤ now
  caughtUp : (∀ item ∈ s.inbox, item.isMessage = false) →
    ∀ m ∈ heardOf i history, m ≤ s.lastInbound

/-- Signals that are neither the start of a session nor a message for it. -/
theorem Hears.beside (l : Hears settings now history i s) {more : List (Nat × Signal)}
    (other : ∀ x ∈ more, x.2.reaches i = false) : Hears settings now (more ++ history) i s where
  reads := l.reads
  started := by rw [heardOf_append other]; exact l.started
  past := by rw [heardOf_append other]; exact l.past
  caughtUp := by rw [heardOf_append other]; exact l.caughtUp

/-- A change of the session that its reader has no part in. -/
theorem Hears.kept (l : Hears settings now history i s) {s' : Session}
    (reader : s'.reader = s.reader) (last : s'.lastInbound = s.lastInbound)
    (inbox : (∀ item ∈ s'.inbox, item.isMessage = false) → ∀ item ∈ s.inbox, item.isMessage = false) :
    Hears settings now history i s' where
  reads := by rw [reader, last]; exact l.reads
  started := l.started
  past := l.past
  caughtUp taken := by
    rw [last]
    exact l.caughtUp (inbox taken)

/-- The start of a session. -/
theorem hears_of_new (same : c.settings = settings) (placed : ∀ x ∈ history, x.2.session < i) :
    Hears settings c.now ((c.now, .began i) :: history) i c.newSession.finish := by
  -- Nothing was heard of a session that is only beginning.
  have unheard : history.filter (·.2.reaches i) = [] := by
    apply List.filter_eq_nil_iff.mpr
    intro x mem reached
    have older := placed x mem
    obtain ⟨m, signal⟩ := x
    cases signal with
    | began j | heard j =>
      obtain rfl : j = i := eq_of_beq reached
      exact Nat.lt_irrefl _ older
    | lost => cases reached
  have first : heardOf i ((c.now, .began i) :: history) = [c.now] := by
    have reached : (Signal.began i).reaches i = true := beq_self_eq_true i
    simp only [heardOf, List.filter_cons, reached, if_true, unheard, List.map_cons, List.map_nil]
  refine ⟨?_, ?_, ?_, fun _ => ?_⟩
  · simp [newSession, Session.finish, same]
  · rw [first]
    exact List.cons_ne_nil _ _
  · rw [first]
    simp
  · rw [first]
    simp [newSession, Session.finish]

/-- Something arrives for it. -/
theorem Hears.arrive (l : Hears settings now history i s) (item : Inbound) :
    Hears settings now ((if item.isMessage then [(now, .heard i)] else []) ++ history) i
      { s with inbox := s.inbox ++ [item] } := by
  cases message : item.isMessage with
  | false =>
    refine l.kept rfl rfl fun taken other mem => ?_
    exact taken other (List.mem_append_left _ mem)
  | true =>
    have heard : heardOf i ([(now, .heard i)] ++ history) = now :: heardOf i history := by
      simp [heardOf, Signal.reaches]
    refine ⟨l.reads, ?_, ?_, fun taken => ?_⟩
    · rw [if_pos rfl, heard]
      exact List.cons_ne_nil _ _
    · rw [if_pos rfl, heard]
      intro m mem
      rcases List.mem_cons.mp mem with rfl | old
      · exact Nat.le_refl _
      · exact l.past m old
    · -- The reader has this message still to take.
      have untaken := taken item (List.mem_append_right _ (List.mem_singleton_self _))
      exact absurd (untaken.symm.trans message) Bool.false_ne_true

/-- A change of the session. -/
theorem Hears.change (l : Hears settings c.now history i s.finish) (same : c.settings = settings)
    {s' : Session} (change : Change c i s asks s') : Hears settings c.now history i s'.finish := by
  cases change with
  | @skips rest head =>
    refine l.kept rfl rfl fun taken item mem => ?_
    rcases List.mem_cons.mp (head ▸ mem) with rfl | old
    · rfl
    · exact taken item old
  | hears up head complete =>
    refine ⟨?_, l.started, l.past, fun _ => l.past⟩
    rw [← same]
    rfl
  | _ => exact l.kept rfl rfl id

/-- Time passes. -/
theorem Hears.later (l : Hears settings now history i s) (nanos : Nat) :
    Hears settings (now + nanos) history i s where
  reads := l.reads
  started := l.started
  past m mem := Nat.le_add_right_of_le (l.past m mem)
  caughtUp := l.caughtUp

/-- In every reachable state the reader of a session that goes on waits from the last message that
it took. Nothing is said here of when it looks. -/
theorem Reachable.hears (reachable : Reachable settings c) :
    ∀ i s, c.Live i → c.chart.bodies[i]? = some s →
      Hears settings c.now c.chart.signals i s := by
  induction reachable with
  | new =>
    intro i s live
    obtain ⟨s', at_, -⟩ := live
    cases at_
  | @step c c' a before stepped ih =>
    intro i s live at_
    have clock := now_of_step stepped
    have older {s : Session} (there : i < c.sessions.length)
        (found : c.chart.bodies[i]? = some s) : Hears settings c.now c.chart.signals i s :=
      ih i s (live_of_step before.sound stepped there live) found
    obtain ⟨asks, pulse⟩ : ∃ asks, Pulse c c' asks := ⟨_, pulse_of_step before.sound stepped⟩
    rw [clock]
    apply Hears.later
    cases pulse.outlives live at_ with
    | beside more there found signalled other unasked =>
      rw [signalled]
      exact (older there found).beside other
    | begun new_ signalled =>
      rw [signalled]
      exact hears_of_new before.settings_eq (new_ ▸ before.placed)
    | arrived item found signalled =>
      have there := (List.getElem?_eq_some_iff.mp found).1
      rw [signalled]
      exact (older there (body_at found)).arrive item
    | changed found signalled change =>
      have there := (List.getElem?_eq_some_iff.mp found).1
      rw [signalled]
      exact (older there (body_at found)).change before.settings_eq change

/-- What is known of a session that its reader gave up: no message has come in for the whole read
timeout, and what frames have are fragments. -/
structure TimedOut (settings : ConnectionSettings) (before : List Entry) (i moment : Nat)
    (limit : Duration) : Prop where
  limit : limit = settings.readTimeout
  started : heardOf i (signals before) ≠ []
  silent : ∀ m ∈ heardOf i (signals before), m + settings.readTimeout.nanos ≤ moment
  fragments : ∀ m item, ⟨m, .arrived i item⟩ ∈ before → item.isFrame = true →
    moment < m + settings.readTimeout.nanos → item = .piece

/-- The silence before a read timeout. -/
theorem Reachable.silent (reachable : Reachable settings c) {moment : Nat} {limit : Duration}
    {before : List (Nat × Signal)}
    (suffix : (moment, .lost i (.readTimeout limit)) :: before <:+ c.chart.signals) :
    limit = settings.readTimeout ∧ heardOf i before ≠ [] ∧
      ∀ m ∈ heardOf i before, m + settings.readTimeout.nanos ≤ moment := by
  induction reachable with
  | new => cases List.suffix_nil.mp suffix
  | @step c c' a earlier stepped ih =>
    rcases (pulse_of_step earlier.sound stepped).lost suffix with
      old | ⟨-, rfl, rfl, -, -, cause⟩
    · exact ih old
    · cases cause with
      | failed _ _ _ read => exact absurd rfl (read limit)
      | @overdue s deadline at_ going point late empty =>
        have hears : Hears settings c.now c.chart.signals i s.finish :=
          earlier.hears i _ ⟨s, at_, going⟩ (body_at at_)
        have reads : s.reader = .waiting (s.lastInbound + settings.readTimeout.nanos) := hears.reads
        cases point.symm.trans reads
        have taken : ∀ item ∈ s.finish.inbox, item.isMessage = false := by
          intro item mem
          rw [show s.finish.inbox = [] from empty] at mem
          cases mem
        refine ⟨congrArg _ earlier.settings_eq, hears.started, fun m mem => ?_⟩
        exact Nat.le_trans (Nat.add_le_add_right (hears.caughtUp taken m mem) _) late

/-- A session that its reader gave up had heard no message for the whole read timeout, whatever the
order of steps was. -/
theorem Reachable.timedOut (reachable : Reachable settings c) {moment : Nat} {limit : Duration}
    {before : List Entry} (suffix : timeout i moment limit :: before <:+ c.history) :
    TimedOut settings before i moment limit := by
  obtain ⟨same, started, silent⟩ := reachable.silent (signals_timeout suffix)
  refine ⟨same, started, silent, ?_⟩
  intro m item mem frame recent
  cases item with
  | piece => rfl
  | data | ping | pong =>
    have := silent m (mem_heardOf mem rfl)
    omega
  | close | failed | ended => cases frame

/-! ## With timers in time order -/

/-- What holds of every session along a run whose actions all come in time: one that goes on is
listened to, and one that was given up had heard its last message just as long ago. -/
structure Heeded (settings : ConnectionSettings) (c : Connection) : Prop where
  listens : ∀ i s, c.Live i → c.chart.bodies[i]? = some s →
    ∃ start, Listens settings c.now c.chart.signals i s start
  given_up : ∀ i moment limit before,
    (moment, .lost i (.readTimeout limit)) :: before <:+ c.chart.signals →
    ∃ last earlier, heardOf i before = last :: earlier ∧
      moment = last + settings.readTimeout.nanos

/-- A new connection has no session to be heeded. -/
theorem heeded_new (settings : ConnectionSettings) : Heeded settings (new settings) where
  listens _ _ live := by obtain ⟨_, at_, _⟩ := live; cases at_
  given_up _ _ _ _ suffix := by cases List.suffix_nil.mp suffix

/-- The reader finds its deadline reached and nothing left to take. -/
theorem Listens.giveUp {start : Nat} (l : Listens settings c.now history i s.finish start)
    {deadline : Nat} (point : s.reader = .waiting deadline) (late : deadline ≤ c.now)
    (empty : s.inbox = []) : ∃ last earlier, heardOf i history = last :: earlier ∧
      c.now = last + settings.readTimeout.nanos := by
  have reads : s.reader = .waiting (s.lastInbound + settings.readTimeout.nanos) := l.reads
  cases point.symm.trans reads
  obtain ⟨before, heard⟩ := l.heard
  refine ⟨s.lastInbound, before, ?_, Nat.le_antisymm l.patient late⟩
  simpa [Session.finish, empty] using heard

/-- A step at which the clock stands. -/
theorem Heeded.pulse (heeded : Heeded settings c) (reachable : Reachable settings c)
    (stepped : c.step a = some c') (clock : c'.now = c.now) : Heeded settings c' := by
  have h := reachable.sound
  obtain ⟨asks, pulse⟩ : ∃ asks, Pulse c c' asks := ⟨_, pulse_of_step h stepped⟩
  refine ⟨fun i s live found => ?_, fun i moment limit before suffix => ?_⟩
  · have older {s : Session} (there : i < c.sessions.length)
        (found : c.chart.bodies[i]? = some s) :
        ∃ start, Listens settings c.now c.chart.signals i s start :=
      heeded.listens i s (live_of_step h stepped there live) found
    cases pulse.outlives live found with
    | beside more there found signalled other unasked =>
      obtain ⟨start, listens⟩ := older there found
      refine ⟨start, ?_⟩
      rw [clock, signalled]
      exact listens.beside other
    | begun new_ signalled =>
      exact ⟨c.now, listens_of_new reachable.settings_eq clock signalled (new_ ▸ reachable.placed)⟩
    | arrived item at_ signalled =>
      obtain ⟨start, listens⟩ := older (List.getElem?_eq_some_iff.mp at_).1 (body_at at_)
      exact ⟨start, listens.arrive clock item signalled⟩
    | changed at_ signalled change =>
      obtain ⟨start, listens⟩ := older (List.getElem?_eq_some_iff.mp at_).1 (body_at at_)
      exact ⟨start, listens.change reachable.settings_eq clock signalled change⟩
  · rcases pulse.lost suffix with old | ⟨-, rfl, rfl, -, -, cause⟩
    · exact heeded.given_up i moment limit before old
    · cases cause with
      | failed _ _ _ read => exact absurd rfl (read limit)
      | @overdue s deadline at_ going point late empty =>
        obtain ⟨start, listens⟩ := heeded.listens i _ ⟨s, at_, going⟩ (body_at at_)
        exact listens.giveUp point late empty

/-- A step in time keeps that sessions are listened to, and given up no earlier and no later than
the read timeout. -/
theorem Heeded.step (heeded : Heeded settings c) (reachable : Reachable settings c)
    (in_time : c.inTime a = true) (stepped : c.step a = some c') : Heeded settings c' := by
  cases a with
  | advance nanos =>
    cases stepped
    refine ⟨fun i s live found => ?_, heeded.given_up⟩
    obtain ⟨s', at_, going⟩ := live
    cases found.symm.trans (body_at at_)
    obtain ⟨start, listens⟩ := heeded.listens i _ ⟨s', at_, going⟩ (body_at at_)
    exact ⟨start, listens.advance at_ going in_time⟩
  | _ =>
    exact heeded.pulse reachable stepped (now_of_step stepped)

/-- A run in time keeps the same. -/
theorem Heeded.after (heeded : Heeded settings c) (reachable : Reachable settings c)
    {as : List Action} (run : c.after as = some c') (in_time : timely c as = true) :
    Heeded settings c' := by
  induction as generalizing c with
  | nil =>
    cases run
    exact heeded
  | cons a as ih =>
    rw [after_cons] at run
    obtain ⟨next, stepped, rest⟩ := Option.bind_eq_some_iff.mp run
    rw [timely, stepped, Bool.and_eq_true] at in_time
    exact ih (heeded.step reachable in_time.1 stepped) (reachable.step a stepped) rest in_time.2

/-- A reader that finds its deadline reached ends the session, whatever fragments it takes before.
-/
theorem reader_gives_up (h : Sound c) (up : c.cancelled = false) (at_ : c.sessions[i]? = some s)
    (going : s.ended = false) {deadline : Nat} (point : s.reader = .waiting deadline)
    (late : deadline ≤ c.now) (pieces : ∀ item ∈ s.inbox, item = .piece) :
    ∃ c', c.after (List.replicate (s.inbox.length + 1) (.lookReader i)) = some c' ∧
      signals c'.history =
        (c.now, .lost i (.readTimeout c.settings.readTimeout)) :: signals c.history := by
  have uncut : c.isCut s = false := by rw [isCut, up, going]; rfl
  have looked : c.step (.lookReader i) = c.lookReader i s := by rw [step, at_, Option.bind_some]
  induction inbox : s.inbox generalizing c s with
  | nil =>
    have ends : c.lookReader i s =
        some (c.stopReading i (some (.readTimeout c.settings.readTimeout))) := by
      simp [lookReader, point, uncut, inbox, late]
    refine ⟨c.stopReading i (some (.readTimeout c.settings.readTimeout)), ?_, ?_⟩
    · show c.after [.lookReader i] = _
      rw [after_cons, looked, ends]
      rfl
    · rw [stopReading, endSession_modifySession (f := fun s : Session => { s with reader := .stopped })
        (fun _ => rfl) (fun _ => rfl)]
      exact congrArg Chart.signals (chart_endSession h ⟨s, at_, going⟩ _)
  | cons item rest ih =>
    obtain rfl : item = .piece := pieces item (inbox ▸ List.mem_cons_self)
    let next := c.modifySession i ({ · with inbox := rest })
    have skips : c.step (.lookReader i) = some next := by
      rw [looked]
      simp [lookReader, point, uncut, inbox, takeInbound, next]
    have there : next.sessions[i]? = some { s with inbox := rest } := sessions_modifySession at_ _
    obtain ⟨c', run, signalled⟩ := ih (h.step skips) up there going point late
      (fun item mem => pieces item (inbox ▸ List.mem_cons_of_mem _ mem)) uncut
      (by rw [step, there, Option.bind_some]) rfl
    refine ⟨c', ?_, signalled⟩
    rw [List.replicate_succ, after_cons, skips]
    exact run

/-! ## The read deadline -/

/-- What is known of a session that goes on: it has heard something no longer ago than it may be
silent. Once that time is up, and only fragments are left to take, its reader ends it. -/
def Awaited (settings : ConnectionSettings) (c : Connection) (i : Nat) (s : Session) : Prop :=
  ∃ last earlier, heardOf i (signals c.history) = last :: earlier ∧
    c.now ≤ last + settings.readTimeout.nanos ∧
    (c.now = last + settings.readTimeout.nanos → c.cancelled = false →
      (∀ item ∈ s.inbox, item = .piece) →
      ∃ c', c.after (List.replicate (s.inbox.length + 1) (.lookReader i)) = some c' ∧
        signals c'.history =
          (c.now, .lost i (.readTimeout settings.readTimeout)) :: signals c.history)

/-- A reader that listens ends its session when its time is up: its looks take the fragments one by
one, none of which puts the deadline off, and the last look finds it passed. -/
theorem Listens.awaited {start : Nat} (reachable : Reachable settings c)
    (at_ : c.sessions[i]? = some s) (going : s.ended = false)
    (l : Listens settings c.now c.chart.signals i s.finish start) : Awaited settings c i s := by
  have reads : s.reader = .waiting (s.lastInbound + settings.readTimeout.nanos) := l.reads
  have patient : c.now ≤ s.lastInbound + settings.readTimeout.nanos := l.patient
  obtain ⟨before, heard⟩ := l.heard
  have heard : heardOf i (signals c.history) =
      List.replicate (s.inbox.countP Inbound.isMessage) c.now ++ s.lastInbound :: before := heard
  cases unread : s.inbox.countP Inbound.isMessage with
  | zero =>
    rw [unread] at heard
    refine ⟨s.lastInbound, before, heard, patient, fun due up pieces => ?_⟩
    have late : s.lastInbound + settings.readTimeout.nanos ≤ c.now := Nat.le_of_eq due.symm
    have ends := reader_gives_up reachable.sound up at_ going reads late pieces
    rwa [reachable.settings_eq] at ends
  | succ n =>
    rw [unread, List.replicate_succ, List.cons_append] at heard
    refine ⟨c.now, _, heard, Nat.le_add_right _ _, fun _ _ pieces => ?_⟩
    -- A message is left to take.
    have silent : s.inbox.countP Inbound.isMessage = 0 := by
      apply List.countP_eq_zero.mpr
      intro item mem
      rw [pieces item mem]
      exact Bool.false_ne_true
    omega

/-- The read deadline rolls over complete messages, not over frames:

* in whatever order things happen, a session is ended by a read timeout only with its limit, and
  only if no message has come in for as long as that; of the frames that have, all are fragments;
* where the clock passes no timer by, it is ended exactly that long after its last message, or its
  start;
* and no session goes on for longer: once its time is up, with only fragments left to take, its
  reader ends it with a read timeout, unless a disconnect has begun. -/
theorem read_deadline_follows_messages {as : List Action}
    (run : (new settings).after as = some c) :
    (∀ i moment limit before, timeout i moment limit :: before <:+ c.history →
      TimedOut settings before i moment limit ∧
      (timely (new settings) as = true → ∃ last earlier,
        heardOf i (signals before) = last :: earlier ∧
          moment = last + settings.readTimeout.nanos)) ∧
    (timely (new settings) as = true → ∀ i s, c.sessions[i]? = some s → s.ended = false →
      Awaited settings c i s) := by
  have reachable : Reachable settings c := Reachable.new.after run
  have heeded (in_time : timely (new settings) as = true) : Heeded settings c :=
    (heeded_new settings).after .new run in_time
  refine ⟨fun i moment limit before suffix => ⟨reachable.timedOut suffix, fun in_time => ?_⟩, ?_⟩
  · exact (heeded in_time).given_up i moment limit _ (signals_timeout suffix)
  · intro in_time i s at_ going
    obtain ⟨start, listens⟩ := (heeded in_time).listens i _ ⟨s, at_, going⟩ (body_at at_)
    exact listens.awaited reachable at_ going

/-- Settings with a read timeout of one second. -/
def hasty : ConnectionSettings :=
  { plain with readTimeout := .ofSecs 1, keepaliveInterval := .zero }

/-- The first fragment of a message comes in, and the deadline passes before the next. -/
def fragmentHeard : List Action :=
  [.connect, .dial 0 (.ok ()), .advance 600000000, .arrive 0 .piece, .lookReader 0,
    .advance 400000000, .lookReader 0]

/-- A fragment at 0.6 s does not put the deadline off: the session is given up at 1 s, the read
timeout after it began. -/
theorem read_deadline_follows_messages_of_fragment : ∃ c before,
    (new hasty).after fragmentHeard = some c ∧ timely (new hasty) fragmentHeard = true ∧
    timeout 0 1000000000 (.ofSecs 1) :: before <:+ c.history ∧
    TimedOut hasty before 0 1000000000 (.ofSecs 1) ∧
    ∃ last earlier, heardOf 0 (signals before) = last :: earlier ∧
      1000000000 = last + hasty.readTimeout.nanos := by
  obtain ⟨c, run, -, outcome⟩ := @reachable_of_run hasty fragmentHeard
    (fun c => timely (new hasty) fragmentHeard = true ∧
      c.history.head? = some (timeout 0 1000000000 (.ofSecs 1))) (by decide +kernel)
  obtain ⟨in_time, last⟩ := of_decide_eq_true outcome
  obtain ⟨before, told⟩ := List.head?_eq_some_iff.mp last
  have suffix : timeout 0 1000000000 (.ofSecs 1) :: before <:+ c.history := told ▸ List.suffix_rfl
  have known := (read_deadline_follows_messages run).1 0 1000000000 (.ofSecs 1) before suffix
  exact ⟨c, before, run, in_time, suffix, known.1, known.2 in_time⟩

/-- A session whose frames come in at intervals shorter than the read timeout may time out. -/
theorem fragments_leave_read_deadline : ¬ ∀ (settings : ConnectionSettings) (as : List Action)
    (c : Connection) (i moment : Nat) (limit : Duration) (before : List Entry),
    0 < settings.readTimeout.nanos → (new settings).after as = some c →
    timely (new settings) as = true →
    (moment :: framesOf i before).IsChain
      (fun later earlier => later < earlier + settings.readTimeout.nanos) →
    ¬ timeout i moment limit :: before <:+ c.history := by
  intro never
  obtain ⟨c, run, -, outcome⟩ := @reachable_of_run hasty fragmentHeard
    (fun c => timely (new hasty) fragmentHeard = true ∧
      c.history.head? = some (timeout 0 1000000000 (.ofSecs 1)) ∧
      framesOf 0 c.history.tail = [600000000, 0]) (by decide +kernel)
  obtain ⟨in_time, last, frames⟩ := of_decide_eq_true outcome
  obtain ⟨before, told⟩ := List.head?_eq_some_iff.mp last
  rw [told, List.tail_cons] at frames
  refine never hasty fragmentHeard c 0 1000000000 (.ofSecs 1) before (by decide) run in_time ?_
    (told ▸ List.suffix_rfl)
  rw [frames]
  decide

end Connection

end StationPool
