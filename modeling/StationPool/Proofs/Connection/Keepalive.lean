import StationPool.Proofs.Connection.Closing
import StationPool.Proofs.Connection.Vitals

/-!
# Keepalive

What the keeper of a session does while the clock passes no timer by. A session that goes on is in
two rhythms at once. Its reader has heard something last, and will wait for the next until its
deadline (`Listens`); and its keeper has ticked once a period since the start, asked for a ping at
every tick, and found the silence bearable at the last one (`Paced`). A tick that finds it
unbearable ends the session, so no session goes on that has been silent for longer than two periods
and the timeout (`keepalive_follows_rhythm`).

The keeper measures the silence against the period and the timeout together. Where that sum is no
duration there is no keeper, and the reader alone watches the session; no ping is ever asked for
(`pings_stop_at_overflow`).

The clocks of these runs have no end (`Horizon.endless`). A clock that has one, and cannot name the
first tick of a session, leaves it without a keeper too. Such a clock stops before that tick, so
that no rhythm is missed; which sessions those are is said with the sums of their settings.
-/

namespace StationPool

/-- What the timers of the reader and the keeper of a session are set to. -/
def Session.dues (s : Session) : List Nat :=
  (match s.reader with
    | .waiting deadline => [deadline]
    | .stopped => []) ++
  (match s.keeper with
    | .ticking next => [next]
    | .off | .stopped => [])

/-- Whether the limit of silence is a duration. -/
def ConnectionSettings.Limited (s : ConnectionSettings) : Prop :=
  s.keepaliveInterval.nanos + s.keepaliveTimeout.nanos < Duration.limit

namespace Connection

variable {settings : ConnectionSettings} {c c' : Connection} {i now start : Nat}
  {s : Session} {a : Action} {history : List (Nat × Signal)} {asks asks' : List (Nat × Nat)}

/-! ## Runs with timers in time order -/

/-- Whether an action comes in time. The clock passes no timer of a session that goes on, and waits
for its reader to take what has arrived. -/
def inTime (c : Connection) : Action → Bool
  | .advance nanos => c.sessions.zipIdx.all fun (s, i) =>
    s.ended || (c.lookReader i s).isNone && s.dues.all (c.now + nanos ≤ ·)
  | _ => true

/-- Whether all actions of a run come in time. -/
def timely : Connection → List Action → Bool
  | _, [] => true
  | c, a :: as => c.inTime a && (c.step a).all (timely · as)

/-- The pings that are asked for along a run, the last first. -/
def pings : Connection → List Action → List (Nat × Nat)
  | _, [] => []
  | c, a :: as => (c.step a).elim [] fun c' => pings c' as ++ asked c a c'

/-! ## What is known of one session -/

/-- When a session heard something, the last first; the first it hears is its start. -/
def heardOf (i : Nat) (history : List (Nat × Signal)) : List Nat :=
  (history.filter (·.2.reaches i)).map (·.1)

/-- When pings for a session were asked for, the last first. -/
def asksOf (i : Nat) (asks : List (Nat × Nat)) : List Nat :=
  (asks.filter (·.2 == i)).map (·.1)

/-- Signals that do not reach a session leave what it heard as it was. -/
theorem heardOf_append {more : List (Nat × Signal)} (other : ∀ x ∈ more, x.2.reaches i = false) :
    heardOf i (more ++ history) = heardOf i history := by
  have none_ : more.filter (·.2.reaches i) = [] :=
    List.filter_eq_nil_iff.mpr fun x mem => by rw [other x mem]; exact Bool.false_ne_true
  rw [heardOf, List.filter_append, none_, List.nil_append, heardOf]

/-- Signals that have to do with other sessions change nothing about the start of one. -/
theorem began_append {more : List (Nat × Signal)} (other : ∀ x ∈ more, x.2.reaches i = false)
    (m : Nat) : (m, .began i) ∈ more ++ history ↔ (m, .began i) ∈ history := by
  refine List.mem_append.trans (or_iff_right fun mem => ?_)
  simpa [Signal.reaches] using other _ mem

/-- The start of a session that no signal was of before. -/
theorem began_cons (placed : ∀ x ∈ history, x.2.session < i) (m : Nat) :
    (m, .began i) ∈ (now, Signal.began i) :: history ↔ m = now := by
  refine List.mem_cons.trans ⟨fun mem => ?_, fun own => .inl (own ▸ rfl)⟩
  rcases mem with own | mem
  · exact (Prod.mk.inj own).1
  · exact absurd (placed _ mem) (Nat.lt_irrefl i)

/-- Whatever arrives for a session, it does not start again. -/
theorem began_message (item : Inbound) (m : Nat) :
    (m, .began i) ∈ (if item.isMessage then [(now, .heard i)] else []) ++ history ↔
      (m, .began i) ∈ history := by
  cases item.isMessage <;> simp

/-- A message is heard when it arrives, and a frame that completes none is not. -/
theorem heardOf_message (item : Inbound) :
    heardOf i ((if item.isMessage then [(now, .heard i)] else []) ++ history) =
      (if item.isMessage then [now] else []) ++ heardOf i history := by
  cases item.isMessage <;> simp [heardOf, Signal.reaches]

/-- A ping counts for the session that it is asked for. -/
theorem asksOf_cons (x : Nat × Nat) :
    asksOf i (x :: asks) = (if x.2 == i then [x.1] else []) ++ asksOf i asks := by
  rw [asksOf, List.filter_cons]
  split <;> rfl

/-- Pings for other sessions leave those of a session as they were. -/
theorem asksOf_append (other : ∀ x ∈ asks', x.2 ≠ i) :
    asksOf i (asks' ++ asks) = asksOf i asks := by
  have none_ : asks'.filter (·.2 == i) = [] :=
    List.filter_eq_nil_iff.mpr fun x mem => by simpa using other x mem
  rw [asksOf, List.filter_append, none_, List.nil_append, asksOf]

/-- The first ticks of a keeper, the last first. -/
def ticks (start period : Nat) : Nat → List Nat
  | 0 => []
  | k + 1 => (start + (k + 1) * period) :: ticks start period k

/-- The start of a session and its reader. What it heard last is what its reader took last; what
arrives now it may still have to take. -/
structure Listens (settings : ConnectionSettings) (now : Nat) (history : List (Nat × Signal))
    (i : Nat) (s : Session) (start : Nat) : Prop where
  began : ∀ m, (m, .began i) ∈ history ↔ m = start
  heard : ∃ before, heardOf i history =
    List.replicate (s.inbox.countP Inbound.isMessage) now ++ s.lastInbound :: before
  past : s.lastInbound ≤ now
  reads : s.reader = .waiting (s.lastInbound + settings.readTimeout.nanos)
  patient : now ≤ s.lastInbound + settings.readTimeout.nanos

/-- The keeper of a session. -/
inductive Paced (settings : ConnectionSettings) (gone : Bool) (now : Nat)
    (asks : List (Nat × Nat)) (i : Nat) (s : Session) (start : Nat) : Prop where
  | steady {k : Nat} (limited : settings.Limited)
      (asked : asksOf i asks = ticks start settings.keepaliveInterval.nanos k)
      (passed : start + k * settings.keepaliveInterval.nanos ≤ now)
      (next : now ≤ start + (k + 1) * settings.keepaliveInterval.nanos)
      (heard : start + k * settings.keepaliveInterval.nanos ≤
        s.lastInbound + (settings.keepaliveInterval.nanos + settings.keepaliveTimeout.nanos))
      (keeper : s.keeper = .ticking (start + (k + 1) * settings.keepaliveInterval.nanos) ∨
        gone = true ∧ s.keeper = .stopped)
  /-- There is none. -/
  | mute (unlimited : ¬ settings.Limited) (asked : asksOf i asks = [])
      (keeper : s.keeper = .stopped)

/-- What is known of a session that goes on. -/
def Tended (settings : ConnectionSettings) (c : Connection) (asks : List (Nat × Nat)) (i : Nat)
    (s : Session) : Prop :=
  ∃ start, Listens settings c.now c.chart.signals i s start ∧
    Paced settings c.cancelled c.now asks i s start

/-- What was known of a session when its keeper gave it up: the tick, the silence at that tick, and
the pings asked for at the ticks before. -/
structure GivenUp (settings : ConnectionSettings) (asks : List (Nat × Nat))
    (before : List (Nat × Signal)) (i moment : Nat) (silence : Duration) (start k : Nat) :
    Prop where
  began : ∀ m, (m, .began i) ∈ before ↔ m = start
  tick : moment = start + (k + 1) * settings.keepaliveInterval.nanos
  long : settings.keepaliveInterval.nanos + settings.keepaliveTimeout.nanos < silence.nanos
  silent : silence.nanos ≤ moment ∧ ∃ unread earlier, heardOf i before =
    List.replicate unread moment ++ (moment - silence.nanos) :: earlier
  asked : asksOf i asks = ticks start settings.keepaliveInterval.nanos k

/-! ### What leaves it alone -/

/-- Signals that are neither the start of a session nor a message for it. -/
theorem Listens.beside (l : Listens settings now history i s start) {more : List (Nat × Signal)}
    (other : ∀ x ∈ more, x.2.reaches i = false) :
    Listens settings now (more ++ history) i s start where
  began m := (began_append other m).trans (l.began m)
  heard := by
    rw [heardOf_append other]
    exact l.heard
  past := l.past
  reads := l.reads
  patient := l.patient

/-- A change of the session that its reader has no part in. -/
theorem Listens.kept (l : Listens settings now history i s start) {s' : Session}
    (reader : s'.reader = s.reader) (last : s'.lastInbound = s.lastInbound)
    (inbox : s'.inbox.countP Inbound.isMessage = s.inbox.countP Inbound.isMessage) :
    Listens settings now history i s' start where
  began := l.began
  heard := by rw [inbox, last]; exact l.heard
  past := by rw [last]; exact l.past
  reads := by rw [reader, last]; exact l.reads
  patient := by rw [last]; exact l.patient

/-- A change of the session that its keeper has no part in. -/
theorem Paced.kept {gone gone' : Bool} (p : Paced settings gone now asks i s start) {s' : Session}
    (keeper : s'.keeper = s.keeper) (last : s.lastInbound ≤ s'.lastInbound)
    (going : gone = true → gone' = true) (same : asksOf i asks' = asksOf i asks) :
    Paced settings gone' now asks' i s' start := by
  cases p with
  | steady limited asked passed next heard point =>
    refine .steady limited (same.trans asked) passed next (by omega) ?_
    rw [keeper]
    exact point.imp_right (.imp_left going)
  | mute unlimited asked stopped => exact .mute unlimited (same.trans asked) (keeper.trans stopped)

/-- A step that has to do with other sessions. -/
theorem Tended.beside (t : Tended settings c asks i s) (clock : c'.now = c.now)
    (going : c.cancelled = true → c'.cancelled = true) {more : List (Nat × Signal)}
    (signalled : c'.chart.signals = more ++ c.chart.signals)
    (other : ∀ x ∈ more, x.2.reaches i = false) (same : asksOf i asks' = asksOf i asks) :
    Tended settings c' asks' i s := by
  obtain ⟨start, listens, paced⟩ := t
  refine ⟨start, ?_, ?_⟩
  · rw [clock, signalled]
    exact listens.beside other
  · rw [clock]
    exact paced.kept rfl (Nat.le_refl _) going same

/-! ### What changes it -/

/-- The reader at the start of a session. -/
theorem listens_of_new (same : c.settings = settings) (clock : c'.now = c.now)
    (signalled : c'.chart.signals = (c.now, .began i) :: c.chart.signals)
    (placed : ∀ x ∈ c.chart.signals, x.2.session < i) :
    Listens settings c'.now c'.chart.signals i c.newSession.finish c.now where
  began m := signalled ▸ began_cons placed m
  heard := by
    refine ⟨heardOf i c.chart.signals, ?_⟩
    rw [signalled]
    simp [heardOf, Signal.reaches, newSession, Session.finish]
  past := Nat.le_of_eq clock.symm
  reads := by simp [newSession, Session.finish, same]
  patient := clock ▸ Nat.le_add_right _ _

/-- The start of a session. -/
theorem tended_of_new (on : 0 < settings.keepaliveInterval.nanos) (same : c.settings = settings)
    (endless : c.horizon = .endless) (clock : c'.now = c.now)
    (signalled : c'.chart.signals = (c.now, .began i) :: c.chart.signals)
    (placed : ∀ x ∈ c.chart.signals, x.2.session < i) (asking : ∀ x ∈ asks, x.2 < i) :
    Tended settings c' asks i c.newSession.finish := by
  have unasked : asksOf i asks = [] := by
    refine List.map_eq_nil_iff.mpr (List.filter_eq_nil_iff.mpr fun x mem own => ?_)
    have := asking x mem
    simp only [beq_iff_eq] at own
    omega
  have off : settings.keepaliveInterval.nanos ≠ 0 := Nat.ne_of_gt on
  refine ⟨c.now, listens_of_new same clock signalled placed, ?_⟩
  by_cases limited : settings.Limited
  · refine .steady (k := 0) limited unasked (by omega) (by omega) ?_ (.inl ?_)
    · simp [newSession, Session.finish]
    · simp [newSession, Session.finish, firstKeeper, same, endless, off, Duration.add?,
        Duration.ofNanos?_eq_some limited]
  · refine .mute limited unasked ?_
    simp [newSession, Session.finish, firstKeeper, same, off, Duration.add?, Duration.ofNanos?,
      show ¬ _ < Duration.limit from limited]

/-- Something arrives for the reader. -/
theorem Listens.arrive (l : Listens settings c.now c.chart.signals i s start)
    (clock : c'.now = c.now) (item : Inbound)
    (signalled : c'.chart.signals =
      (if item.isMessage then [(c.now, .heard i)] else []) ++ c.chart.signals) :
    Listens settings c'.now c'.chart.signals i { s with inbox := s.inbox ++ [item] } start where
  began m := signalled ▸ (began_message item m).trans (l.began m)
  heard := by
    obtain ⟨before, heard⟩ := l.heard
    refine ⟨before, ?_⟩
    rw [signalled, clock, heardOf_message, heard]
    cases message : item.isMessage with
    | false => simp [message]
    | true => simp [message, List.replicate_succ]
  past := clock ▸ l.past
  reads := l.reads
  patient := clock ▸ l.patient

/-- Something arrives for it. -/
theorem Tended.arrive (t : Tended settings c asks i s) (clock : c'.now = c.now)
    (going : c.cancelled = true → c'.cancelled = true) (item : Inbound)
    (signalled : c'.chart.signals =
      (if item.isMessage then [(c.now, .heard i)] else []) ++ c.chart.signals) :
    Tended settings c' asks i { s with inbox := s.inbox ++ [item] } := by
  obtain ⟨start, listens, paced⟩ := t
  refine ⟨start, listens.arrive clock item signalled, ?_⟩
  rw [clock]
  exact paced.kept rfl (Nat.le_refl _) going rfl

/-- A change of the session, for its reader. -/
theorem Listens.change (l : Listens settings c.now c.chart.signals i s.finish start)
    (same : c.settings = settings) (clock : c'.now = c.now)
    (signalled : c'.chart.signals = c.chart.signals) {s' : Session}
    (change : Change c i s asks' s') :
    Listens settings c'.now c'.chart.signals i s'.finish start := by
  rw [clock, signalled]
  cases change with
  | requeues queue => exact l.kept rfl rfl rfl
  | @skips rest head =>
    refine l.kept rfl rfl ?_
    simp [Session.finish, head, Inbound.isMessage]
  | @hears item rest up head complete =>
    obtain ⟨before, heard⟩ := l.heard
    refine ⟨l.began, ⟨s.lastInbound :: before, ?_⟩, Nat.le_refl _, ?_, Nat.le_add_right _ _⟩
    · rw [heard]
      simp [Session.finish, Session.hear, head, complete, List.replicate_succ']
    · rw [← same]
      rfl
  | writes writer pingWaiting queue going => exact l.kept rfl rfl rfl
  | asks point late heard => exact l.kept rfl rfl rfl
  | dismissed gone => exact l.kept rfl rfl rfl

/-- A tick that finds the silence bearable. -/
theorem Paced.tick {gone gone' : Bool} {due : Nat} (p : Paced settings gone now asks i s start)
    (past : s.lastInbound ≤ now) (point : s.keeper = .ticking due) (late : due ≤ now)
    (bearable : now - s.lastInbound ≤
      settings.keepaliveInterval.nanos + settings.keepaliveTimeout.nanos) {s' : Session}
    (last : s'.lastInbound = s.lastInbound)
    (keeper : s'.keeper =
      .ticking (Session.nextTick due now settings.keepaliveInterval.nanos)) :
    Paced settings gone' now ((now, i) :: asks) i s' start := by
  cases p with
  | mute _ _ stopped => cases point.symm.trans stopped
  | @steady k limited asked passed next heard tick =>
    rcases tick with tick | ⟨-, stopped⟩
    · cases point.symm.trans tick
      -- The clock does not pass the tick by, so the keeper has its look at that very moment.
      have own : now = start + (k + 1) * settings.keepaliveInterval.nanos :=
        Nat.le_antisymm next late
      have longer : (k + 1 + 1) * settings.keepaliveInterval.nanos =
          (k + 1) * settings.keepaliveInterval.nanos + settings.keepaliveInterval.nanos :=
        Nat.succ_mul _ _
      refine .steady (k := k + 1) limited ?_ (by omega) (by omega) (by omega) (.inl ?_)
      · rw [asksOf_cons, asked, ticks, ← own]
        simp
      · rw [keeper, Session.nextTick, if_neg (by omega), longer, Nat.add_assoc]
    · cases point.symm.trans stopped

/-- A change of the session. -/
theorem Tended.change (t : Tended settings c asks i s.finish) (same : c.settings = settings)
    (clock : c'.now = c.now) (going : c.cancelled = true → c'.cancelled = true)
    (signalled : c'.chart.signals = c.chart.signals) {s' : Session}
    (change : Change c i s asks' s') : Tended settings c' (asks' ++ asks) i s'.finish := by
  obtain ⟨start, listens, paced⟩ := t
  refine ⟨start, listens.change same clock signalled change, ?_⟩
  rw [clock]
  cases change with
  | requeues queue => exact paced.kept rfl (Nat.le_refl _) going rfl
  | skips head => exact paced.kept rfl (Nat.le_refl _) going rfl
  | hears up head complete => exact paced.kept rfl listens.past going rfl
  | writes writer pingWaiting queue _ => exact paced.kept rfl (Nat.le_refl _) going rfl
  | asks point late heard =>
    rw [same] at heard ⊢
    exact paced.tick listens.past point late heard rfl rfl
  | dismissed gone =>
    cases paced with
    | steady limited asked passed next heard _ =>
      exact .steady limited asked passed next heard (.inr ⟨going gone, rfl⟩)
    | mute unlimited asked _ => exact .mute unlimited asked rfl

/-! ## What is known of all sessions -/

/-- What holds along a run whose actions all come in time. -/
structure Timed (settings : ConnectionSettings) (c : Connection) (asks : List (Nat × Nat)) :
    Prop where
  same : c.settings = settings
  endless : c.horizon = .endless
  placed : ∀ x ∈ c.chart.signals, x.2.session < c.chart.bodies.length
  asking : ∀ x ∈ asks, x.2 < c.chart.bodies.length
  tended : ∀ i s, c.Live i → c.chart.bodies[i]? = some s → Tended settings c asks i s
  givenUp : ∀ i moment silence before,
    (moment, .lost i (.keepaliveTimeout silence)) :: before <:+ c.chart.signals →
    i < c.chart.bodies.length ∧ ¬ c.Live i ∧
      ∃ start k, GivenUp settings asks before i moment silence start k

/-- Nothing has to be known of a connection that was never used: it has no session. -/
theorem timed_new (settings : ConnectionSettings) : Timed settings (new settings) [] where
  same := rfl
  endless := rfl
  placed := nofun
  asking := nofun
  tended _ _ live := by obtain ⟨_, at_, _⟩ := live; cases at_
  givenUp _ _ _ _ suffix := by cases List.suffix_nil.mp suffix

/-- The keeper finds the silence unbearable. -/
theorem Tended.giveUp (t : Tended settings c asks i s.finish) {due : Nat}
    (point : s.keeper = .ticking due) (late : due ≤ c.now)
    (long : settings.keepaliveInterval.nanos + settings.keepaliveTimeout.nanos <
      c.now - s.lastInbound) :
    ∃ start k, GivenUp settings asks c.chart.signals i c.now (.clamp (c.now - s.lastInbound))
      start k := by
  obtain ⟨start, listens, paced⟩ := t
  have past : s.lastInbound ≤ c.now := listens.past
  -- The reader would have ended a session that is silent for longer than a duration lasts.
  have whole : (Duration.clamp (c.now - s.lastInbound)).nanos = c.now - s.lastInbound := by
    have patient : c.now ≤ s.lastInbound + settings.readTimeout.nanos := listens.patient
    have := settings.readTimeout.inRange
    exact Nat.min_eq_left (by omega)
  cases paced with
  | mute _ _ stopped => cases point.symm.trans stopped
  | @steady k limited asked passed next _ tick =>
    rcases tick with tick | ⟨-, stopped⟩
    · cases point.symm.trans tick
      obtain ⟨before, heard⟩ := listens.heard
      refine ⟨start, k, listens.began, Nat.le_antisymm next late, ?_, ?_, asked⟩
      · rw [whole]
        exact long
      · rw [whole, Nat.sub_sub_self past]
        exact ⟨Nat.sub_le _ _, _, before, heard⟩
    · cases point.symm.trans stopped

/-- Where the clock moves on in time, the connection is up, the reader has taken what has arrived,
and no timer is passed by. -/
theorem Listens.clear (l : Listens settings c.now history i s.finish start)
    (at_ : c.sessions[i]? = some s) (going : s.ended = false) {nanos : Nat}
    (in_time : c.inTime (.advance nanos) = true) :
    c.cancelled = false ∧ s.inbox = [] ∧ ∀ due ∈ s.dues, c.now + nanos ≤ due := by
  have clear := List.all_eq_true.mp in_time _ ((List.mem_zipIdx_iff_getElem? (x := (s, i))).mpr at_)
  simp only [going, Bool.false_or, Bool.and_eq_true, Option.isNone_iff_eq_none,
    List.all_eq_true, decide_eq_true_eq] at clear
  obtain ⟨taken, undue⟩ := clear
  have reads : s.reader = .waiting (s.lastInbound + settings.readTimeout.nanos) := l.reads
  -- The reader has nothing to do, so it is not told to stop either.
  rw [lookReader, reads] at taken
  cases up : c.cancelled with
  | true => simp [isCut, up] at taken
  | false =>
    cases inbox : s.inbox with
    | nil => exact ⟨rfl, rfl, undue⟩
    | cons item rest => simp [isCut, up, going, inbox] at taken

/-- The clock moves on in time, for the reader. -/
theorem Listens.advance (l : Listens settings c.now history i s.finish start)
    (at_ : c.sessions[i]? = some s) (going : s.ended = false) {nanos : Nat}
    (in_time : c.inTime (.advance nanos) = true) :
    Listens settings (c.now + nanos) history i s.finish start := by
  obtain ⟨-, empty, undue⟩ := l.clear at_ going in_time
  have reads : s.reader = .waiting (s.lastInbound + settings.readTimeout.nanos) := l.reads
  have awaited : c.now + nanos ≤ s.lastInbound + settings.readTimeout.nanos :=
    undue _ (by simp [Session.dues, reads])
  refine ⟨l.began, ?_, Nat.le_add_right_of_le l.past, l.reads, awaited⟩
  obtain ⟨before, heard⟩ := l.heard
  refine ⟨before, heard.trans ?_⟩
  simp [Session.finish, empty]

/-- The clock moves on in time. -/
theorem Tended.advance (t : Tended settings c asks i s.finish) (at_ : c.sessions[i]? = some s)
    (going : s.ended = false) {nanos : Nat} (in_time : c.inTime (.advance nanos) = true) :
    Tended settings { c with now := c.now + nanos } asks i s.finish := by
  obtain ⟨start, listens, paced⟩ := t
  obtain ⟨up, -, undue⟩ := listens.clear at_ going in_time
  refine ⟨start, listens.advance at_ going in_time, ?_⟩
  cases paced with
  | mute unlimited asked stopped => exact .mute unlimited asked stopped
  | steady limited asked passed next heard tick =>
    rcases tick with tick | ⟨gone, -⟩
    · refine .steady limited asked (Nat.le_add_right_of_le passed) (undue _ ?_) heard (.inl tick)
      simp [Session.dues, show s.keeper = _ from tick]
    · rw [up] at gone
      cases gone

/-! ### Steps -/

/-- A step asks for pings only of sessions that go on. -/
theorem Pulse.asking (pulse : Pulse c c' asks') : ∀ x ∈ asks', c.Live x.2 := by
  cases pulse with
  | @changes i s _ _ at_ going change _ =>
    intro x mem
    rw [change.own x mem]
    exact ⟨s, at_, going⟩
  | _ => nofun

/-- No session is forgotten, and signals are of sessions. -/
theorem Pulse.placed (pulse : Pulse c c' asks')
    (placed : ∀ x ∈ c.chart.signals, x.2.session < c.chart.bodies.length) :
    c.chart.bodies.length ≤ c'.chart.bodies.length ∧
      ∀ x ∈ c'.chart.signals, x.2.session < c'.chart.bodies.length := by
  cases pulse with
  | calm same => rw [same]; exact ⟨Nat.le_refl _, placed⟩
  | begins up opened =>
    rw [opened, Chart.enrol]
    simp only [List.length_append, List.length_singleton, List.forall_mem_cons]
    exact ⟨Nat.le_succ _, Nat.lt_succ_self _, fun x mem => Nat.lt_succ_of_lt (placed x mem)⟩
  | @arrives i s item at_ arrived =>
    have there := (List.getElem?_eq_some_iff.mp at_).1
    rw [arrived]
    simp only [List.length_set, List.forall_mem_append]
    refine ⟨Nat.le_refl _, fun x mem => ?_, placed⟩
    split at mem
    · rw [List.mem_singleton.mp mem, length_bodies]
      exact there
    · cases mem
  | changes at_ going change changed =>
    rw [changed]
    simp only [List.length_set]
    exact ⟨Nat.le_refl _, placed⟩
  | @ends i body e there dead cause ended =>
    rw [ended]
    cases e with
    | none => simp only [Chart.lose, List.length_set]; exact ⟨Nat.le_refl _, placed⟩
    | some e =>
      simp only [Chart.lose, List.length_set, List.forall_mem_cons]
      exact ⟨Nat.le_refl _, length_bodies ▸ there, placed⟩

/-- A session that goes on after a step. -/
theorem Timed.tended_of_pulse (timed : Timed settings c asks)
    (on : 0 < settings.keepaliveInterval.nanos) (clock : c'.now = c.now)
    (going : c.cancelled = true → c'.cancelled = true)
    (older : ∀ i, i < c.sessions.length → c'.Live i → c.Live i) (pulse : Pulse c c' asks')
    (live : c'.Live i) (at_ : c'.chart.bodies[i]? = some s) :
    Tended settings c' (asks' ++ asks) i s := by
  have before {s : Session} (there : i < c.sessions.length)
      (at_ : c.chart.bodies[i]? = some s) : Tended settings c asks i s :=
    timed.tended i s (older i there live) at_
  cases pulse.outlives live at_ with
  | beside more there found signalled other unasked =>
    exact (before there found).beside clock going signalled other (asksOf_append unasked)
  | begun new_ signalled =>
    exact tended_of_new on timed.same timed.endless clock signalled (new_ ▸ timed.placed)
      (new_ ▸ timed.asking)
  | arrived item found signalled =>
    have there := (List.getElem?_eq_some_iff.mp found).1
    exact (before there (body_at found)).arrive clock going item signalled
  | changed found signalled change =>
    have there := (List.getElem?_eq_some_iff.mp found).1
    exact (before there (body_at found)).change timed.same clock going signalled change

/-- The sessions that their keepers gave up. -/
theorem Timed.givenUp_of_pulse (timed : Timed settings c asks)
    (older : ∀ i, i < c.sessions.length → c'.Live i → c.Live i) (pulse : Pulse c c' asks')
    {moment : Nat} {silence : Duration} {before : List (Nat × Signal)}
    (suffix : (moment, .lost i (.keepaliveTimeout silence)) :: before <:+ c'.chart.signals) :
    i < c'.chart.bodies.length ∧ ¬ c'.Live i ∧
      ∃ start k, GivenUp settings (asks' ++ asks) before i moment silence start k := by
  have grown := (pulse.placed timed.placed).1
  rcases pulse.lost suffix with old | ⟨rfl, rfl, rfl, there, dead, cause⟩
  · obtain ⟨there, dead, start, k, up⟩ := timed.givenUp i moment silence before old
    refine ⟨Nat.lt_of_lt_of_le there grown, fun live => dead (older i (length_bodies ▸ there) live),
      start, k, { up with asked := (asksOf_append fun x mem same => ?_).trans up.asked }⟩
    exact dead (same ▸ pulse.asking x mem)
  · refine ⟨Nat.lt_of_lt_of_le (length_bodies ▸ there) grown, dead, ?_⟩
    cases cause with
    | failed _ _ other _ => exact absurd rfl (other silence)
    | unheard at_ going up point late long =>
      rw [timed.same] at long
      exact (timed.tended _ _ ⟨_, at_, going⟩ (body_at at_)).giveUp point late long

/-- A step that takes no time keeps what is known of all sessions. Those that go on are carried over
one by one (`tended_of_pulse`), and of those that their keepers gave up nothing is taken back. -/
theorem Timed.pulse (timed : Timed settings c asks) (on : 0 < settings.keepaliveInterval.nanos)
    (same : c'.settings = c.settings) (reach : c'.horizon = c.horizon) (clock : c'.now = c.now)
    (going : c.cancelled = true → c'.cancelled = true)
    (older : ∀ i, i < c.sessions.length → c'.Live i → c.Live i) (pulse : Pulse c c' asks') :
    Timed settings c' (asks' ++ asks) where
  same := same.trans timed.same
  endless := reach.trans timed.endless
  placed := (pulse.placed timed.placed).2
  asking x mem := by
    refine Nat.lt_of_lt_of_le ?_ (pulse.placed timed.placed).1
    rcases List.mem_append.mp mem with new_ | old
    · obtain ⟨s, at_, _⟩ := pulse.asking x new_
      exact length_bodies ▸ (List.getElem?_eq_some_iff.mp at_).1
    · exact timed.asking x old
  tended _ _ live at_ := timed.tended_of_pulse on clock going older pulse live at_
  givenUp _ _ _ _ suffix := timed.givenUp_of_pulse older pulse suffix

/-- The clock moves on in time: no timer is passed by, so every session is where it was in its
rhythms. -/
theorem Timed.advance (timed : Timed settings c asks) {nanos : Nat}
    (in_time : c.inTime (.advance nanos) = true) :
    Timed settings { c with now := c.now + nanos } asks where
  same := timed.same
  endless := timed.endless
  placed := timed.placed
  asking := timed.asking
  tended i s live shown := by
    obtain ⟨s', at_, going⟩ := live
    have shown' := body_at at_
    cases shown.symm.trans shown'
    exact (timed.tended i _ ⟨s', at_, going⟩ shown').advance at_ going in_time
  givenUp := timed.givenUp

/-- Every step of a run in time keeps what is known, with the ping that it may ask for. -/
theorem Timed.step (timed : Timed settings c asks) (on : 0 < settings.keepaliveInterval.nanos)
    (h : Sound c) (in_time : c.inTime a = true) (stepped : c.step a = some c') :
    Timed settings c' (asked c a c' ++ asks) := by
  have same := settings_of_step stepped
  have clock := now_of_step stepped
  cases a with
  | advance nanos =>
    cases stepped
    exact timed.advance in_time
  | _ =>
    exact timed.pulse on same (horizon_of_step stepped) clock
      (fun gone => ((move_of_step h stepped).winds h gone).cancelled)
      (fun _ there live => live_of_step h stepped there live) (pulse_of_step h stepped)

/-- What is known holds along a whole run in time, with the pings of the run. -/
theorem Timed.after (timed : Timed settings c asks) (on : 0 < settings.keepaliveInterval.nanos)
    (h : Sound c) {as : List Action} (run : c.after as = some c') (in_time : timely c as = true) :
    Timed settings c' (pings c as ++ asks) := by
  induction as generalizing c asks with
  | nil =>
    cases run
    exact timed
  | cons a as ih =>
    rw [after_cons] at run
    obtain ⟨next, stepped, rest⟩ := Option.bind_eq_some_iff.mp run
    rw [timely, stepped, Bool.and_eq_true] at in_time
    rw [pings, stepped, Option.elim_some, List.append_assoc]
    exact ih (timed.step on h in_time.1 stepped) (h.step stepped) rest in_time.2

/-! ## The writer at the keeper's side -/

/-- The writer of a session that goes on takes pings, so no keeper finds it gone. -/
structure Attended (c : Connection) : Prop where
  going : ∀ i s, c.Live i → c.chart.bodies[i]? = some s → s.writer.Going
  open_ : ∀ moment i, (moment, .lost i .closed) ∉ c.chart.signals

/-- A step keeps the writers of sessions that go on at work, so no keeper can find its writer gone.
-/
theorem Attended.step (attended : Attended c) (h : Sound c) (stepped : c.step a = some c') :
    Attended c' := by
  obtain ⟨asks, pulse⟩ : ∃ asks, Pulse c c' asks := ⟨_, pulse_of_step h stepped⟩
  refine ⟨fun i s live at_ => ?_, fun moment i mem => ?_⟩
  · have before {s : Session} (at_ : c.chart.bodies[i]? = some s) (there : i < c.sessions.length) :
        s.writer.Going := attended.going i s (live_of_step h stepped there live) at_
    cases pulse.outlives live at_ with
    | beside _ there found _ _ _ => exact before found there
    | begun => exact ⟨nofun, nofun⟩
    | arrived item found _ =>
      have going := before (body_at found) (List.getElem?_eq_some_iff.mp found).1
      exact going
    | changed found _ change =>
      have going := before (body_at found) (List.getElem?_eq_some_iff.mp found).1
      cases change with
      | writes _ _ _ keeps => exact keeps going
      | _ => exact going
  · obtain ⟨later, before, split⟩ := List.append_of_mem mem
    rcases pulse.lost ⟨later, split.symm⟩ with old | ⟨-, -, -, -, -, cause⟩
    · exact attended.open_ moment i (old.subset List.mem_cons_self)
    · cases cause with
      | failed _ other _ _ => exact other rfl
      | unattended at_ going stopped =>
        exact (attended.going i _ ⟨_, at_, going⟩ (body_at at_)).1 stopped

/-- A connection that was never used has no session to attend to. -/
theorem attended_new (settings : ConnectionSettings) {horizon : Horizon} :
    Attended (new settings horizon) where
  going _ _ live := by obtain ⟨_, at_, _⟩ := live; cases at_
  open_ := nofun

/-- Along every run, in time or not, no session is lost because its keeper found the writer gone. -/
theorem Reachable.attended (reachable : Reachable settings c) : Attended c := by
  induction reachable with
  | new => exact attended_new settings
  | step a before stepped ih => exact ih.step before.sound stepped

/-! ## Keepalive -/

/-- A session that goes on: its start, how long it has been silent at most, and its pings: one at
each tick that the clock has passed, where there is a keeper. -/
structure Watched (settings : ConnectionSettings) (c : Connection) (asks : List (Nat × Nat))
    (i start : Nat) : Prop where
  began : ∀ m, (m, .began i) ∈ signals c.history ↔ m = start
  heard : ∃ unread last earlier, heardOf i (signals c.history) =
      List.replicate unread c.now ++ last :: earlier ∧
    c.now ≤ last + (2 * settings.keepaliveInterval.nanos + settings.keepaliveTimeout.nanos)
  pinged : settings.Limited → ∃ k, asksOf i asks = ticks start settings.keepaliveInterval.nanos k ∧
    start + k * settings.keepaliveInterval.nanos ≤ c.now ∧
    c.now ≤ start + (k + 1) * settings.keepaliveInterval.nanos
  unpinged : ¬ settings.Limited → asksOf i asks = []

/-- What is known of a session that goes on says how long it may have been silent and which pings
were asked for. With a keeper the silence is bounded by its ticks; without one by the reader alone,
whose timeout is shorter than a sum that does not exist. -/
theorem Tended.watched (t : Tended settings c asks i s) :
    ∃ start, Watched settings c asks i start := by
  obtain ⟨start, listens, paced⟩ := t
  have patient : c.now ≤ s.lastInbound + settings.readTimeout.nanos := listens.patient
  have short := settings.readTimeout.inRange
  have silent : c.now ≤ s.lastInbound +
      (2 * settings.keepaliveInterval.nanos + settings.keepaliveTimeout.nanos) := by
    cases paced with
    | steady limited asked passed next heard keeper =>
      rw [Nat.succ_mul] at next
      omega
    | mute unlimited asked keeper =>
      -- Without a keeper the reader's own timer is the shorter one.
      unfold ConnectionSettings.Limited at unlimited
      omega
  refine ⟨start, listens.began, ?_, fun limited => ?_, fun unlimited => ?_⟩
  · obtain ⟨before, heard⟩ := listens.heard
    exact ⟨_, _, before, heard, silent⟩
  · cases paced with
    | steady _ asked passed next _ _ => exact ⟨_, asked, passed, next⟩
    | mute unlimited _ _ => exact absurd limited unlimited
  · cases paced with
    | steady limited _ _ _ _ _ => exact absurd limited unlimited
    | mute _ asked _ => exact asked

/-- Along a run with timers in time order, on a clock without an end, with keepalive on:

* a session is lost by a keepalive timeout only at one of its keeper's ticks, and only if its last
  message, or its start, is exactly the reported silence ago, which is longer than the period and
  the timeout; at each earlier tick a ping was asked for;
* no session goes on that has been silent for longer than two periods and the timeout, and at each
  tick that has passed by a ping was asked for, unless the period and the timeout have no sum, when
  none ever is;
* no session is lost because it was closed. -/
theorem keepalive_follows_rhythm (on : 0 < settings.keepaliveInterval.nanos) {as : List Action}
    (run : (new settings).after as = some c) (in_time : timely (new settings) as = true) :
    (∀ i moment silence before,
      (moment, .lost i (.keepaliveTimeout silence)) :: before <:+ signals c.history →
      ∃ start k, GivenUp settings (pings (new settings) as) before i moment silence start k) ∧
    (∀ i, c.Live i → ∃ start, Watched settings c (pings (new settings) as) i start) ∧
    ∀ moment i, (moment, .lost i .closed) ∉ signals c.history := by
  have timed : Timed settings c (pings (new settings) as) := by
    have timed := (timed_new settings).after on (sound_new settings) run in_time
    rwa [List.append_nil] at timed
  refine ⟨fun i moment silence before suffix => ?_, fun i live => ?_, ?_⟩
  · exact (timed.givenUp i moment silence before suffix).2.2
  · obtain ⟨s, at_, going⟩ := live
    exact (timed.tended i _ ⟨s, at_, going⟩ (body_at at_)).watched
  · exact (Reachable.new.after run).attended.open_

/-- Settings with a period and a timeout of one second. -/
def brisk : ConnectionSettings :=
  { plain with keepaliveInterval := .ofSecs 1, keepaliveTimeout := .ofSecs 1 }

/-- A message comes in halfway to the first tick, and none after it. -/
def onceHeard : List Action :=
  [.connect, .dial 0 (.ok ()), .advance 500000000, .arrive 0 .pong, .lookReader 0,
    .advance 500000000, .lookKeeper 0, .lookWriter 0, .socket 0 (.ok ()),
    .advance 1000000000, .lookKeeper 0, .advance 1000000000, .lookKeeper 0]

/-- A run on which a session is given up: the last message came half a second after the start, and
the third tick finds a silence of two and a half seconds. -/
theorem keepalive_follows_rhythm_of_once_heard : ∃ c start k,
    (new brisk).after onceHeard = some c ∧ timely (new brisk) onceHeard = true ∧
    signals c.history = [(3000000000, .lost 0 (.keepaliveTimeout (.ofMillis 2500))),
      (500000000, .heard 0), (0, .began 0)] ∧
    GivenUp brisk (pings (new brisk) onceHeard) [(500000000, .heard 0), (0, .began 0)] 0 3000000000
      (.ofMillis 2500) start k := by
  obtain ⟨c, run, -, outcome⟩ := @reachable_of_run brisk onceHeard
    (fun c => timely (new brisk) onceHeard = true ∧
      signals c.history = [(3000000000, .lost 0 (.keepaliveTimeout (.ofMillis 2500))),
        (500000000, .heard 0), (0, .began 0)]) (by decide +kernel)
  obtain ⟨in_time, told⟩ := of_decide_eq_true outcome
  obtain ⟨start, k, up⟩ := (keepalive_follows_rhythm (by decide) run in_time).1 0 3000000000
    (.ofMillis 2500) [(500000000, .heard 0), (0, .began 0)] ⟨[], told.symm⟩
  exact ⟨c, start, k, run, in_time, told, up⟩

/-- Settings whose period and timeout have no sum. -/
def boundless : ConnectionSettings :=
  { plain with keepaliveInterval := .ofSecs 1, keepaliveTimeout := .ofSecs 18446744073709551615 }

/-- A session goes on past its first tick. -/
def pastTick : List Action := [.connect, .dial 0 (.ok ()), .advance 1000000001]

/-- A ping at every tick is too much to promise: where the period and the timeout have no sum, a
session goes on past its first tick, and no ping was asked for. -/
theorem pings_stop_at_overflow : ¬ ∀ (settings : ConnectionSettings) (as : List Action)
    (c : Connection), 0 < settings.keepaliveInterval.nanos → (new settings).after as = some c →
    timely (new settings) as = true → ∀ i start, c.Live i →
    (start, .began i) ∈ signals c.history → ∀ m, 0 < m →
    start + m * settings.keepaliveInterval.nanos < c.now →
    (start + m * settings.keepaliveInterval.nanos, i) ∈ pings (new settings) as := by
  intro pinged
  obtain ⟨c, run, -, outcome⟩ := @reachable_of_run boundless pastTick
    (fun c => timely (new boundless) pastTick = true ∧ c.sessions[0]?.map (·.ended) = some false ∧
      signals c.history = [(0, .began 0)] ∧ c.now = 1000000001 ∧
      pings (new boundless) pastTick = []) (by decide +kernel)
  obtain ⟨in_time, going, told, now, none_⟩ := of_decide_eq_true outcome
  have live : c.Live 0 := Option.map_eq_some_iff.mp going
  have mem := pinged boundless pastTick c (by decide) run in_time 0 0 live
    (by rw [told]; exact List.mem_singleton_self _) 1 (by decide) (by rw [now]; decide)
  rw [none_] at mem
  cases mem

end Connection

end StationPool
