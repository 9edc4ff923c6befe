import StationPool.Shutdown

/-!
# Steps of a shutdown

What each step does, said once. Some steps concern the signal, its listeners and its children, the
others the calls (`SameSignal`, `SameCalls`); for the calls and for what is written down, a step is
one of six moves (`Moved`).
-/

namespace StationPool

namespace Shutdown

variable {s s' : Shutdown} {a : Action} {call child listener : Nat}

/-- The signal and those who listen or belong to it are as before. -/
structure SameSignal (s s' : Shutdown) : Prop where
  triggered : s'.triggered = s.triggered
  listeners : s'.listeners = s.listeners
  children : s'.children = s.children

/-- A listener that is looked at changes its own place without hearing, or hears and triggers the
signal. -/
theorem lookListener_cases (looked : s.lookListener listener = some s') :
    (∃ l, l ≠ .heard ∧ s' = { s with listeners := s.listeners.set listener l }) ∨
    .heard ∈ s.listeners ∧ s' = { s with listeners := s.listeners.set listener .over }.trigger := by
  unfold lookListener at looked
  split at looked
  case h_1 =>
    cases looked
    exact .inl ⟨.over, nofun, rfl⟩
  case h_2 handlers _ _ =>
    cases looked
    exact .inl ⟨.listening handlers, nofun, rfl⟩
  case h_3 at_ =>
    cases looked
    exact .inr ⟨List.mem_of_getElem? at_, rfl⟩
  case h_4 => cases looked

/-- A wait that is released had the signal, was waiting, and does not wait any more. -/
theorem lookWait_eq (looked : s.lookWait call = some s') :
    s.triggered = true ∧ call ∈ s.waiting ∧
      s' = { s with waiting := s.waiting.filter (· != call) }.note (.ended call .released) := by
  unfold lookWait at looked
  split at looked
  case isTrue ready =>
    cases looked
    rw [Bool.and_eq_true, List.contains_iff_mem] at ready
    exact ⟨ready.1, ready.2, rfl⟩
  case isFalse => cases looked

/-- A look of a cleanup: it begins, it begins and ends at once, or it ends. -/
theorem lookCleanup_cases (looked : s.lookCleanup call = some s') :
    ∃ c, s.cleanup? call = some c ∧
      (c.stage = .waiting ∧ s.triggered = true ∧
          workEnding? s.now s.grace.nanos s.now c.needs = none ∧
          s' = (s.note (.started c.call)).setToWork c.call ∨
        c.stage = .waiting ∧ s.triggered = true ∧
          (∃ inTime, workEnding? s.now s.grace.nanos s.now c.needs = some inTime ∧
            s' = (s.note (.started c.call)).endCleanup c.call inTime) ∨
        ∃ since inTime, c.stage = .working since ∧
          workEnding? s.now s.grace.nanos since c.needs = some inTime ∧
          s' = s.endCleanup call inTime) := by
  obtain ⟨c, found, looked⟩ := Option.bind_eq_some_iff.mp looked
  refine ⟨c, found, ?_⟩
  cases stage : c.stage with
  | waiting =>
    simp only [stage] at looked
    split at looked
    case isFalse => cases looked
    case isTrue triggered =>
      cases looked
      cases ending : workEnding? s.now s.grace.nanos s.now c.needs with
      | none =>
        refine .inl ⟨rfl, triggered, rfl, ?_⟩
        simp only [startCleanup, note, ending]
      | some inTime =>
        refine .inr (.inl ⟨rfl, triggered, inTime, rfl, ?_⟩)
        simp only [startCleanup, note, ending]
  | working since =>
    simp only [stage] at looked
    obtain ⟨inTime, ending, same⟩ := Option.map_eq_some_iff.mp looked
    exact .inr (.inr ⟨since, inTime, rfl, ending, same.symm⟩)

/-- To make a call leaves the signal alone. -/
theorem begin_sameSignal (s : Shutdown) (request : Request) : SameSignal s (s.begin request) := by
  cases request <;> exact ⟨rfl, rfl, rfl⟩

/-- To release a wait leaves the signal alone. -/
theorem lookWait_sameSignal (looked : s.lookWait call = some s') : SameSignal s s' := by
  obtain ⟨-, -, rfl⟩ := lookWait_eq looked
  exact ⟨rfl, rfl, rfl⟩

/-- To look at a cleanup leaves the signal alone. -/
theorem lookCleanup_sameSignal (looked : s.lookCleanup call = some s') : SameSignal s s' := by
  obtain ⟨c, -, ⟨-, -, -, rfl⟩ | ⟨-, -, inTime, -, rfl⟩ | ⟨since, inTime, -, -, rfl⟩⟩ :=
    lookCleanup_cases looked
  · exact ⟨rfl, rfl, rfl⟩
  · exact ⟨rfl, rfl, rfl⟩
  · exact ⟨rfl, rfl, rfl⟩

/-- Only a child that was taken can be cancelled. -/
theorem cancelChild_eq (cancelled : s.cancelChild child = some s') :
    child < s.children.length ∧ s' = { s with children := s.children.set child true } := by
  unfold cancelChild at cancelled
  split at cancelled
  case isTrue there =>
    cases cancelled
    exact ⟨there, rfl⟩
  case isFalse => cases cancelled

/-- A trigger leaves the signal triggered, also where it was triggered before. -/
@[simp] theorem trigger_triggered (s : Shutdown) : s.trigger.triggered = true := by
  unfold trigger
  split
  · assumption
  · rfl

@[simp] theorem trigger_listeners (s : Shutdown) : s.trigger.listeners = s.listeners := by
  unfold trigger
  split <;> rfl

/-! ## Moves -/

/-- The clock and the calls are as before. -/
structure SameCalls (s s' : Shutdown) : Prop where
  grace : s'.grace = s.grace
  now : s'.now = s.now
  fresh : s'.fresh = s.fresh
  waiting : s'.waiting = s.waiting
  cleanups : s'.cleanups = s.cleanups

/-- What a step is to the calls. -/
inductive Moved (s s' : Shutdown) (a : Action) : Prop where
  | still (same : SameCalls s s') (triggered : s'.triggered = s.triggered)
    (history : s'.history = s.history)
  | triggered (same : SameCalls s s') (first : s.triggered = false) (now : s'.triggered = true)
    (history : s'.history = ⟨s.now, .triggered⟩ :: s.history)
  | advanced (nanos : Nat) (action : a = .advance nanos)
    (moved : s' = { s with now := s.now + nanos })
  | called (request : Request) (moved : s' = s.begin request)
  | wait (call : Nat) (looked : s.lookWait call = some s')
  | cleanup (call : Nat) (looked : s.lookCleanup call = some s')

/-- A trigger, whatever it leaves of the listeners. -/
theorem trigger_moved (s : Shutdown) (listeners : List Listener) (a : Action) :
    Moved s { s with listeners }.trigger a := by
  unfold trigger
  split
  case isTrue => exact .still ⟨rfl, rfl, rfl, rfl, rfl⟩ rfl rfl
  case isFalse off =>
    exact .triggered ⟨rfl, rfl, rfl, rfl, rfl⟩ (Bool.eq_false_iff.mpr off) rfl rfl

/-- Every step is one of six moves. All that holds of runs of a coordinator is proved by these cases
and never by those of `step`. -/
theorem step_moved (stepped : s.step a = some s') : Moved s s' a := by
  cases a with
  | trigger =>
    cases stepped
    exact s.trigger_moved s.listeners _
  | listen handlers =>
    cases stepped
    exact .still ⟨rfl, rfl, rfl, rfl, rfl⟩ rfl rfl
  | raise signal =>
    cases stepped
    exact .still ⟨rfl, rfl, rfl, rfl, rfl⟩ rfl rfl
  | takeChild =>
    cases stepped
    exact .still ⟨rfl, rfl, rfl, rfl, rfl⟩ rfl rfl
  | cancelChild child =>
    obtain ⟨-, rfl⟩ := cancelChild_eq stepped
    exact .still ⟨rfl, rfl, rfl, rfl, rfl⟩ rfl rfl
  | call request =>
    cases stepped
    exact .called request rfl
  | lookListener listener =>
    obtain ⟨l, -, rfl⟩ | ⟨-, rfl⟩ := lookListener_cases stepped
    · exact .still ⟨rfl, rfl, rfl, rfl, rfl⟩ rfl rfl
    · exact s.trigger_moved _ _
  | lookWait call => exact .wait call stepped
  | lookCleanup call => exact .cleanup call stepped
  | advance nanos =>
    cases stepped
    exact .advanced nanos rfl rfl

end Shutdown

end StationPool
