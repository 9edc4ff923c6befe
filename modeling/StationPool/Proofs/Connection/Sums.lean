import StationPool.Proofs.Connection.Keepalive
import StationPool.Proofs.Connection.Schedule
import StationPool.Proofs.Connection.Sinking

/-!
# The sums of a connection

Three sums are formed of the settings before anybody waits for them: the keepalive period and its
timeout, at the start of every session; the moment of the first tick, a period after that start; and
the time of a write and a fixed slack, at the first disconnect. A sum of two durations may be no
duration, and a moment may be one that the clock cannot name. Whoever needs a sum that does not
exist goes no further: such a session has no keeper (`Keeping`), such a disconnect never returns.

Where the sums exist, all moments that a keeper or a disconnect waits for are within a period, or
within the time of a write and the slack, of the clock. Only the first tick is asked of the clock: a
clock that has come to one tick is taken to have the next.
-/

namespace StationPool

/-- For how long the first disconnect waits for the tasks of a session. -/
def ConnectionSettings.grace (s : ConnectionSettings) : Nat :=
  s.writeTimeout.nanos + Connection.teardownSlack.nanos

/-- When the keeper of a session that begins at a moment ticks for the first time. -/
def ConnectionSettings.firstTick (s : ConnectionSettings) (start : Nat) : Nat :=
  start + s.keepaliveInterval.nanos

namespace Connection

variable {settings : ConnectionSettings} {horizon : Horizon} {c c' : Connection} {i start now : Nat}
  {s : Session} {a : Action}

/-! ## Keepers -/

/-- Where the keeper of a session is that began at a moment and goes on. -/
inductive Keeping (settings : ConnectionSettings) (horizon : Horizon) (gone : Bool)
    (start now : Nat) : Keeper → Prop where
  | off (none_ : settings.keepaliveInterval.nanos = 0) :
      Keeping settings horizon gone start now .off
  | ticking {due : Nat} (on : 0 < settings.keepaliveInterval.nanos) (limited : settings.Limited)
      (reached : horizon.reaches (settings.firstTick start) = true)
      (soon : due ≤ now + settings.keepaliveInterval.nanos) :
      Keeping settings horizon gone start now (.ticking due)
  /-- It needs a limit of silence, and there is none. -/
  | unlimited (unlimited : ¬ settings.Limited) : Keeping settings horizon gone start now .stopped
  /-- It is to wait for a moment that the clock cannot name. -/
  | beyond (on : 0 < settings.keepaliveInterval.nanos)
      (beyond : horizon.reaches (settings.firstTick start) = false) :
      Keeping settings horizon gone start now .stopped
  /-- The connection is going down. -/
  | dismissed (down : gone = true) : Keeping settings horizon gone start now .stopped

namespace Keeping

variable {gone gone' : Bool} {now' : Nat} {keeper : Keeper}

/-- The keeper of a session that begins. -/
theorem first : Keeping settings horizon gone now now (firstKeeper settings horizon now) := by
  unfold firstKeeper
  split
  · next none_ => exact .off none_
  next on =>
  have on : 0 < settings.keepaliveInterval.nanos := Nat.pos_of_ne_zero on
  by_cases limited : settings.Limited
  · rw [Duration.add?_eq_some limited]
    dsimp only
    split
    · next reached => exact .ticking on limited reached (Nat.le_refl _)
    · next beyond => exact .beyond on (Bool.eq_false_iff.mpr beyond)
  · rw [Duration.add?_eq_none_iff.mpr (Nat.le_of_not_lt limited)]
    exact .unlimited limited

/-- Time goes by, or the connection begins to go down. -/
theorem later (kept : Keeping settings horizon gone start now keeper)
    (going : gone = true → gone' = true) (past : now ≤ now') :
    Keeping settings horizon gone' start now' keeper := by
  cases kept with
  | off none_ => exact .off none_
  | ticking on limited reached soon => exact .ticking on limited reached (by omega)
  | unlimited unlimited => exact .unlimited unlimited
  | beyond on beyond => exact .beyond on beyond
  | dismissed down => exact .dismissed (going down)

/-- A tick that was due is taken, and the next is at most a period away. -/
theorem next {due : Nat} (kept : Keeping settings horizon gone start now (.ticking due))
    (late : due ≤ now) :
    Keeping settings horizon gone start now
      (.ticking (Session.nextTick due now settings.keepaliveInterval.nanos)) := by
  cases kept with
  | ticking on limited reached soon =>
    refine .ticking on limited reached ?_
    unfold Session.nextTick
    split <;> omega

/-- What the tasks do to a session that goes on. -/
theorem change {asks : List (Nat × Nat)} {s' : Session}
    (kept : Keeping c.settings horizon c.cancelled start c.now s.keeper)
    (change : Change c i s asks s') :
    Keeping c.settings horizon c.cancelled start c.now s'.keeper := by
  cases change with
  | asks point late heard =>
    rw [point] at kept
    exact kept.next late
  | dismissed gone => exact .dismissed gone
  | _ => exact kept

/-- While the connection is up, a keeper has stopped exactly where one of its two sums does not
exist: the limit of silence is no duration, or it is on and the clock cannot name its first tick. -/
theorem stopped_iff (kept : Keeping settings horizon false start now keeper) :
    keeper = .stopped ↔ ¬ settings.Limited ∨
      0 < settings.keepaliveInterval.nanos ∧
        horizon.reaches (settings.firstTick start) = false := by
  cases kept with
  | off none_ =>
    -- Without a period the limit is the timeout alone, and that is a duration.
    have short := settings.keepaliveTimeout.inRange
    have limited : settings.Limited := by
      rwa [ConnectionSettings.Limited, none_, Nat.zero_add]
    simp [limited, none_]
  | ticking on limited reached soon => simp [limited, reached]
  | unlimited unlimited => exact iff_of_true rfl (.inl unlimited)
  | beyond on beyond => exact iff_of_true rfl (.inr ⟨on, beyond⟩)
  | dismissed down => cases down

/-- No tick is further away than a period. -/
theorem due_le {due : Nat} (kept : Keeping settings horizon gone start now (.ticking due)) :
    due ≤ now + settings.keepaliveInterval.nanos := by
  cases kept with
  | ticking on limited reached soon => exact soon

end Keeping

/-- A session has one start, and a keeper that is off, ticks, or has stopped with reason. -/
def WellKept (c : Connection) (i : Nat) (keeper : Keeper) : Prop :=
  ∃ start, (∀ m, (m, .began i) ∈ c.chart.signals ↔ m = start) ∧
    Keeping c.settings c.horizon c.cancelled start c.now keeper

/-- No signal is of a session to come, and every session that goes on is kept. -/
structure Manned (c : Connection) : Prop where
  placed : ∀ x ∈ c.chart.signals, x.2.session < c.chart.bodies.length
  kept : ∀ i s, c.Live i → c.chart.bodies[i]? = some s → WellKept c i s.keeper

/-- Every step keeps the sessions manned. The start of a session is in the signals once and for all;
a keeper is carried over by `Keeping.later`, whatever became of it in the step by `Keeping.change`.
-/
theorem Manned.step (manned : Manned c) (h : Sound c) (stepped : c.step a = some c') :
    Manned c' := by
  have clock := now_of_step stepped
  have going (gone : c.cancelled = true) : c'.cancelled = true :=
    ((move_of_step h stepped).winds h gone).cancelled
  have later {start : Nat} {keeper : Keeper}
      (kept : Keeping c.settings c.horizon c.cancelled start c.now keeper) :
      Keeping c'.settings c'.horizon c'.cancelled start c'.now keeper := by
    rw [settings_of_step stepped, horizon_of_step stepped]
    exact kept.later going (by omega)
  obtain ⟨asks, pulse⟩ : ∃ asks, Pulse c c' asks := ⟨_, pulse_of_step h stepped⟩
  refine ⟨(pulse.placed manned.placed).2, fun i s live at_ => ?_⟩
  have before {s : Session} (there : i < c.sessions.length)
      (at_ : c.chart.bodies[i]? = some s) : WellKept c i s.keeper :=
    manned.kept i s (live_of_step h stepped there live) at_
  cases pulse.outlives live at_ with
  | beside more there found signalled other unasked =>
    obtain ⟨start, began, kept⟩ := before there found
    exact ⟨start, fun m => signalled ▸ (began_append other m).trans (began m), later kept⟩
  | begun new_ signalled =>
    exact ⟨c.now, fun m => signalled ▸ began_cons (new_ ▸ manned.placed) m, later .first⟩
  | arrived item found signalled =>
    obtain ⟨start, began, kept⟩ := before (List.getElem?_eq_some_iff.mp found).1 (body_at found)
    exact ⟨start, fun m => signalled ▸ (began_message item m).trans (began m), later kept⟩
  | @changed s s' asks found signalled change =>
    obtain ⟨start, began, kept⟩ := before (List.getElem?_eq_some_iff.mp found).1 (body_at found)
    have changed : Keeping c.settings c.horizon c.cancelled start c.now s'.keeper :=
      .change (s := s) kept change
    exact ⟨start, fun m => signalled ▸ began m, later changed⟩

/-- The sessions of every reachable connection are manned. -/
theorem Reachable.manned (reachable : Reachable settings c) : Manned c := by
  induction reachable with
  | new => exact ⟨nofun, fun i s live => by obtain ⟨_, at_, _⟩ := live; cases at_⟩
  | step a before stepped ih => exact ih.step before.sound stepped

/-- The start and the keeper of a session whose tasks are not told to stop. -/
theorem Reachable.keeping_of_uncut (reachable : Reachable settings c)
    (at_ : c.sessions[i]? = some s) (uncut : c.isCut s = false) :
    ∃ start, (∀ m, (m, .began i) ∈ signals c.history ↔ m = start) ∧
      Keeping settings c.horizon false start c.now s.keeper := by
  obtain ⟨up, going⟩ := Bool.or_eq_false_iff.mp uncut
  obtain ⟨start, began, keeping⟩ := reachable.manned.kept i s.finish ⟨s, at_, going⟩ (body_at at_)
  rw [reachable.settings_eq, up] at keeping
  exact ⟨start, began, keeping⟩

/-! ## Disconnects -/

/-- A disconnect has returned, or waits no longer than so many nanoseconds from now. -/
def Returns (c : Connection) (grace call : Nat) : Prop :=
  (call, .ok ()) ∈ outcomes c.history ∨
    ∃ t, c.teardown = some t ∧ t.call = call ∧ t.deadline ≤ c.now + grace

/-- A call that is made now and disconnects. -/
theorem returns_of_disconnect (graced : c.settings.grace < Duration.limit) :
    Returns c.disconnect c.settings.grace c.fresh := by
  unfold disconnect
  dsimp only
  split
  · exact .inl List.mem_cons_self
  · split
    · exact .inl List.mem_cons_self
    · show Returns (awaitTasks _ _ _ (c.settings.writeTimeout.add? teardownSlack)) _ _
      rw [Duration.add?_eq_some graced]
      exact .inr ⟨_, rfl, rfl, Nat.le_refl _⟩

/-- The disconnect that waits goes on waiting, or returns. -/
theorem teardown_of_step (h : Sound c) (stepped : c.step a = some c') {t : Teardown}
    (waiting : c.teardown = some t) :
    c'.teardown = some t ∨ (t.call, .ok ()) ∈ outcomes c'.history := by
  obtain ⟨gone, -⟩ := h.teardown t waiting
  have up {p : Prop} (up : c.cancelled = false) : p :=
    absurd (up.symm.trans gone) Bool.false_ne_true
  -- Most moves are none of a connection that is going down, or leave the disconnect alone.
  cases move_of_step h stepped with
  | dialClosed own mem =>
    unfold Connection.dialClosed
    split <;> exact .inl waiting
  | ends e own live tame =>
    rw [h.endSession_eq live]
    exact .inl ((afterEnd_teardown e).trans waiting)
  | sends quiet => exact .inl (quiet.teardown.trans waiting)
  | quiet look quiet => exact .inl (quiet.teardown.trans waiting)
  | tornDown waiting' close =>
    cases waiting.symm.trans waiting'
    exact .inr List.mem_cons_self
  | _ => first | exact up ‹c.cancelled = false› | exact .inl waiting

/-- Every disconnect has returned, or waits no longer than the tasks of its session are given. -/
def Prompt (c : Connection) : Prop :=
  ∀ call, (call, .disconnect) ∈ requests c.history → c.Returns c.settings.grace call

/-- Every step keeps disconnects prompt: the one that waits goes on waiting or returns, and a new
one returns at once or waits for the tasks no longer than it may. -/
theorem Prompt.step (prompt : Prompt c) (graced : c.settings.grace < Duration.limit) (h : Sound c)
    (stepped : c.step a = some c') : Prompt c' := by
  have same := settings_of_step stepped
  have clock := now_of_step stepped
  intro call asked
  rw [same]
  rw [(move_of_step h stepped).requests h] at asked
  rcases List.mem_append.mp asked with new_ | old
  · cases a with
    | disconnect =>
      cases stepped
      cases List.mem_singleton.mp new_
      exact returns_of_disconnect graced
    | _ => simp [Action.request?] at new_
  · obtain ⟨outs, grown, -⟩ := answers_of_step stepped
    rcases prompt call old with returned | ⟨t, waiting, rfl, soon⟩
    · exact .inl (grown ▸ List.mem_append_right _ returned)
    · rcases teardown_of_step h stepped waiting with still | returned
      · exact .inr ⟨t, still, rfl, by omega⟩
      · exact .inl returned

/-- The disconnects of every reachable connection are prompt, if the time that they wait exists. -/
theorem Reachable.prompt (reachable : Reachable settings c)
    (graced : settings.grace < Duration.limit) : Prompt c := by
  induction reachable with
  | new => exact nofun
  | step a before stepped ih =>
    exact ih.step (before.settings_eq.symm ▸ graced) before.sound stepped

/-- Once its wait is over, the disconnect that waits can return. -/
theorem returns_of_overdue {t : Teardown} (waiting : c.teardown = some t)
    (late : t.deadline ≤ c.now) :
    ∃ c', c.step .lookTeardown = some c' ∧ (t.call, .ok ()) ∈ outcomes c'.history := by
  have looked : c.step .lookTeardown = c.lookTeardown t := by rw [step, waiting, Option.bind_some]
  rw [looked]
  unfold lookTeardown
  split
  · exact ⟨_, rfl, List.mem_cons_self⟩
  · split
    · exact ⟨_, rfl, List.mem_cons_self⟩
    · exact ⟨_, rfl, List.mem_cons_self⟩

end Connection

end StationPool
