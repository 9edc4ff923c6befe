import StationPool.Proofs.Shutdown.Calls

/-!
# Shutdowns

What every run of a coordinator keeps, put together (`Orderly`): where the trigger comes from and
that nothing that waits for it comes before it, who has it as soon as it is there, whom it cancels,
and how each call goes.
-/

namespace StationPool

namespace Shutdown

variable {grace : Duration} {punctual : Prop} {as : List Action} {s s' : Shutdown} {a : Action}
  {e : Entry} {call : Nat}

/-- Whether something waits for the signal before it happens: a release, and all of a cleanup's
work. -/
def Happening.awaits : Happening → Bool
  | .started _ => true
  | .ended _ _ => true
  | _ => false

/-- All that waits for the signal is behind the trigger. -/
def Heralded (s : Shutdown) : Prop :=
  ∀ e earlier, e :: earlier <:+ s.history → e.what.awaits = true →
    ∃ t, ⟨t, .triggered⟩ ∈ earlier

namespace Heralded

/-- A new entry keeps all that waits behind the trigger, if the entry itself waits for nothing or
comes behind a trigger. -/
theorem cons (heralded : Heralded s) (history : s'.history = e :: s.history)
    (why : e.what.awaits = true → ∃ t, s.TriggeredAt t) : Heralded s' := by
  intro e' earlier suffix awaits
  rw [history] at suffix
  rcases List.suffix_cons_iff.mp suffix with eq | before
  · cases eq
    exact why awaits
  · exact heralded e' earlier before awaits

/-- Every step keeps what waits behind the trigger: a wait is released and a cleanup begun only by a
look that finds the signal triggered, and what ends has begun. -/
theorem step (heralded : Heralded s) (stories : ∀ call, Story punctual s call) (noted : Noted s)
    (stepped : s.step a = some s') : Heralded s' := by
  cases step_moved stepped with
  | still _ _ history =>
    unfold Heralded
    rw [history]
    exact heralded
  | triggered _ _ _ history => exact heralded.cons history nofun
  | advanced nanos _ moved =>
    subst moved
    exact heralded
  | called request moved =>
    subst moved
    exact heralded.cons (s.begin_history request) nofun
  | wait call looked =>
    obtain ⟨triggered, -, rfl⟩ := lookWait_eq looked
    exact heralded.cons rfl fun _ => noted.told.mp triggered
  | cleanup call looked =>
    obtain ⟨c, found, ⟨-, triggered, -, rfl⟩ | ⟨-, triggered, inTime, -, rfl⟩ |
      ⟨since, inTime, stage, -, rfl⟩⟩ := lookCleanup_cases looked
    · exact heralded.cons rfl fun _ => noted.told.mp triggered
    · have at_ := noted.told.mp triggered
      have started : Heralded (s.note (.started c.call)) := heralded.cons rfl fun _ => at_
      exact started.cons rfl fun _ => at_.imp fun _ => List.mem_cons_of_mem _
    · refine heralded.cons rfl fun _ => ?_
      obtain ⟨-, -, -, ⟨stage', -⟩ | ⟨_, _, -, -, ⟨t, at_, -⟩, -⟩⟩ :=
        (stories call).of_cleanup found
      · rw [stage] at stage'
        cases stage'
      · exact ⟨t, at_⟩

end Heralded

/-- The grace period is set once and for all. -/
theorem step_grace (stepped : s.step a = some s') : s'.grace = s.grace := by
  cases step_moved stepped with
  | still same => exact same.grace
  | triggered same => exact same.grace
  | advanced nanos _ moved => rw [moved]
  | called request moved =>
    rw [moved]
    cases request <;> rfl
  | wait call looked =>
    obtain ⟨-, -, rfl⟩ := lookWait_eq looked
    rfl
  | cleanup call looked =>
    obtain ⟨c, -, ⟨-, -, -, rfl⟩ | ⟨-, -, inTime, -, rfl⟩ | ⟨since, inTime, -, -, rfl⟩⟩ :=
      lookCleanup_cases looked
    · rfl
    · rfl
    · rfl

/-- A course has the grace period it began with. -/
theorem Course.period (course : Course grace punctual as s) : s.grace = grace := by
  induction course with
  | new => rfl
  | step a _ _ stepped ih => exact (step_grace stepped).trans ih

/-- The trigger is written down once, each call has its story, and what waits comes after. -/
theorem Course.stories (course : Course grace punctual as s) :
    Noted s ∧ (∀ call, Story punctual s call) ∧ Heralded s := by
  induction course with
  | new =>
    exact ⟨⟨by simp [TriggeredAt], nofun, nofun⟩,
      fun call => .unmade (Nat.zero_le _) rfl rfl,
      fun e earlier suffix => nomatch List.suffix_nil.mp suffix⟩
  | step a _ inTime stepped ih =>
    obtain ⟨noted, stories, heralded⟩ := ih
    exact ⟨noted.step stepped, Story.step stories noted inTime stepped,
      heralded.step stories noted stepped⟩

/-- What every run keeps. -/
structure Orderly (grace : Duration) (punctual : Prop) (as : List Action) (s : Shutdown) : Prop where
  period : s.grace = grace
  /-- A trigger was called for, or comes from a listener: behind its start, a signal of the system
  was raised. -/
  prompted : s.triggered = true → .trigger ∈ as ∨
    ∃ signal handlers, [Action.raise signal, .listen handlers].Sublist as
  asked : .trigger ∈ as → s.triggered = true
  lasting : s.triggered = true → ∀ a s', s.step a = some s' → s'.triggered = true
  /-- The moment of the trigger is written down. -/
  moment : (s.triggered = false ∧ ∀ t, ¬ s.TriggeredAt t) ∨
    s.triggered = true ∧ ∃ t, ∀ t', s.TriggeredAt t' ↔ t' = t
  /-- No wait is released before the trigger, and no work of a cleanup begins. -/
  heralded : ∀ e earlier, e :: earlier <:+ s.history → e.what.awaits = true →
    ∃ t, ⟨t, .triggered⟩ ∈ earlier
  /-- Behind the trigger a wait can be released at once. -/
  released : s.triggered = true → ∀ call ∈ s.waiting, ∃ s', s.step (.lookWait call) = some s' ∧
    s'.history = ⟨s.now, .ended call .released⟩ :: s.history
  /-- And so can the work of a cleanup begin. -/
  begun : s.triggered = true → ∀ call c, s.cleanup? call = some c → c.stage = .waiting →
    ∃ s', s.step (.lookCleanup call) = some s' ∧ ⟨s.now, .started call⟩ ∈ s'.history
  /-- A cleanup ends as soon as its work is done or its grace period over. -/
  ended : ∀ call c since, s.cleanup? call = some c → c.stage = .working since →
    since + min c.needs s.grace.nanos ≤ s.now → ∃ s' inTime, s.step (.lookCleanup call) = some s' ∧
      s'.history = ⟨s.now, .ended call (.cleaned inTime)⟩ :: s.history
  children : ∀ child < s.children.length,
    (s.isCancelled child = true ↔ s.triggered = true ∨ .cancelChild child ∈ as)
  /-- To cancel a child triggers nothing and cancels no other. -/
  apart : ∀ child s', s.step (.cancelChild child) = some s' → s'.triggered = s.triggered ∧
    ∀ other, other ≠ child → s'.isCancelled other = s.isCancelled other
  story : ∀ call, Story punctual s call

/-- A cleanup whose time is over can be ended, as done or as broken off. -/
theorem workEnding?_of_due {now limit since needs : Nat} (due : since + min needs limit ≤ now) :
    ∃ inTime, workEnding? now limit since needs = some inTime := by
  unfold workEnding?
  split
  · exact ⟨_, rfl⟩
  · rw [if_pos (by omega)]
    exact ⟨_, rfl⟩

/-- The beginning of a cleanup's work is written down at its moment. -/
theorem mem_startCleanup (s : Shutdown) (c : Cleanup) :
    ⟨s.now, .started c.call⟩ ∈ (s.startCleanup c).history := by
  simp only [startCleanup]
  split
  · exact .tail _ (.head _)
  · exact .head _

/-- Every run is orderly. -/
theorem course_orderly (course : Course grace punctual as s) : Orderly grace punctual as s := by
  obtain ⟨noted, stories, heralded⟩ := course.stories
  exact {
    period := course.period
    prompted := course.prompted.triggered
    asked := course.prompted.asked
    lasting := fun triggered _ _ stepped => step_triggered stepped triggered
    moment := by
      cases triggered : s.triggered with
      | false =>
        refine .inl ⟨rfl, fun t at_ => ?_⟩
        rw [noted.told.mpr ⟨t, at_⟩] at triggered
        cases triggered
      | true =>
        obtain ⟨t, at_⟩ := noted.told.mp triggered
        exact .inr ⟨rfl, t, fun t' => ⟨fun at_' => noted.once t' t at_' at_, fun eq => eq ▸ at_⟩⟩
    heralded := heralded
    released := fun triggered _ mem => ⟨_, step_lookWait triggered mem, rfl⟩
    begun := fun triggered call c found stage => by
      exact ⟨_, step_lookCleanup_ready triggered found stage,
        call_of_cleanup? found ▸ s.mem_startCleanup c⟩
    ended := fun call c since found stage due => by
      obtain ⟨inTime, ending⟩ := workEnding?_of_due due
      exact ⟨_, inTime, step_lookCleanup_working found stage ending, rfl⟩
    children := course.kin.cancelled
    apart := fun _ _ stepped => cancelChild_apart stepped
    story := stories }

instance (s : Shutdown) : (a : Action) → Decidable (s.InTime a)
  | .advance nanos => inferInstanceAs (Decidable
      ((∀ a ∈ s.looks, (s.step a).isNone = true) ∧ ∀ due ∈ s.dues, s.now + nanos ≤ due))
  | .trigger | .listen _ | .raise _ | .takeChild | .cancelChild _ | .call _ | .lookListener _
  | .lookWait _ | .lookCleanup _ => inferInstanceAs (Decidable True)

/-- The coordinator that a punctual run leads to, if it is one. -/
def replay (grace : Duration) : List Action → Option Shutdown
  | [] => some { grace := grace }
  | a :: as => (replay grace as).bind fun s => if s.InTime a then s.step a else none

/-- The coordinator that a replay gives was reached by a punctual course over these actions. -/
theorem course_of_replay (replayed : replay grace as = some s) : Course grace True as s := by
  induction as generalizing s with
  | nil =>
    cases replayed
    exact .new
  | cons a as ih =>
    obtain ⟨s', before, stepped⟩ := Option.bind_eq_some_iff.mp replayed
    split at stepped
    · exact .step a (ih before) (fun _ => ‹_›) stepped
    · cases stepped

/-- Two children, one of them cancelled by itself, a wait, and two cleanups, of which one needs all
of a grace period of a microsecond and the other more. An interruption triggers the signal, and a
third child is taken. -/
def closeCall : List Action :=
  [.lookCleanup 2, .lookCleanup 1, .advance 1000, .lookCleanup 2, .lookCleanup 1, .lookWait 0,
    .takeChild, .lookListener 0, .raise .interrupt, .advance 7, .lookListener 0, .listen .both,
    .call (.cleanUp 1001), .call (.cleanUp 1000), .call .wait, .cancelChild 1, .takeChild,
    .takeChild]

/-- All are released at the trigger; one cleanup is done at the very end of its grace period, and
the other is not. All children are cancelled. -/
theorem course_orderly_of_close_call :
    ∃ s, Course ⟨1000, by decide⟩ True closeCall s ∧
      Orderly ⟨1000, by decide⟩ True closeCall s ∧
      s.TriggeredAt 7 ∧ s.children = [true, true, true] ∧
      ⟨7, .ended 0 .released⟩ ∈ s.history ∧ ⟨1007, .ended 1 (.cleaned true)⟩ ∈ s.history ∧
      ⟨1007, .ended 2 (.cleaned false)⟩ ∈ s.history := by
  have punctual : (replay ⟨1000, by decide⟩ closeCall).isSome = true := by decide
  obtain ⟨s, replayed⟩ := Option.isSome_iff_exists.mp punctual
  have shown : ∀ s ∈ replay ⟨1000, by decide⟩ closeCall,
      ⟨7, .triggered⟩ ∈ s.history ∧ s.children = [true, true, true] ∧
        ⟨7, .ended 0 .released⟩ ∈ s.history ∧ ⟨1007, .ended 1 (.cleaned true)⟩ ∈ s.history ∧
        ⟨1007, .ended 2 (.cleaned false)⟩ ∈ s.history := by decide
  have course := course_of_replay replayed
  exact ⟨s, course, course_orderly course, shown s replayed⟩

end Shutdown

end StationPool
