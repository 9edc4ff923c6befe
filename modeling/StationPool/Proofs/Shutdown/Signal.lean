import StationPool.Proofs.Shutdown.Steps

/-!
# The signal of a shutdown

Where a trigger comes from, and who shares it. Listeners are told of signals that were raised after
they began, so a signal that is triggered was triggered by a call or by such a listener
(`Prompted`). A child is cancelled with the signal or by itself (`Kin`). Whatever waits for the
signal happens behind the one entry that tells of the trigger (`Heralded`).
-/

namespace StationPool

namespace Shutdown

variable {grace : Duration} {punctual : Prop} {as : List Action} {s s' : Shutdown} {a : Action}
  {call child listener t : Nat}

/-! ## The trigger -/

/-- What is triggered stays triggered. -/
theorem step_triggered (stepped : s.step a = some s') (triggered : s.triggered = true) :
    s'.triggered = true := by
  cases a with
  | trigger =>
    cases stepped
    exact s.trigger_triggered
  | cancelChild child =>
    obtain ⟨-, rfl⟩ := cancelChild_eq stepped
    exact triggered
  | call request =>
    cases stepped
    exact (s.begin_sameSignal request).triggered.trans triggered
  | lookListener listener =>
    obtain ⟨l, -, rfl⟩ | ⟨-, rfl⟩ := lookListener_cases stepped
    · exact triggered
    · exact trigger_triggered _
  | lookWait call => exact (lookWait_sameSignal stepped).triggered.trans triggered
  | lookCleanup call => exact (lookCleanup_sameSignal stepped).triggered.trans triggered
  | listen handlers =>
    cases stepped
    exact triggered
  | raise signal =>
    cases stepped
    exact triggered
  | takeChild =>
    cases stepped
    exact triggered
  | advance nanos =>
    cases stepped
    exact triggered

/-! ## Where a trigger comes from -/

/-- A signal of the system was raised after a listener was started. -/
def Heard (as : List Action) : Prop :=
  ∃ signal handlers, [Action.raise signal, .listen handlers].Sublist as

/-- What a listener heard stays heard. -/
theorem Heard.cons (heard : Heard as) (a : Action) : Heard (a :: as) := by
  obtain ⟨signal, handlers, sub⟩ := heard
  exact ⟨signal, handlers, sub.cons a⟩

/-- A signal that is triggered was triggered by a call, or by a listener that heard. -/
structure Prompted (as : List Action) (s : Shutdown) : Prop where
  listeners : s.listeners ≠ [] → ∃ handlers, .listen handlers ∈ as
  heard : .heard ∈ s.listeners → Heard as
  triggered : s.triggered = true → .trigger ∈ as ∨ Heard as
  asked : .trigger ∈ as → s.triggered = true

namespace Prompted

/-- What leaves the signal and the listeners alone leaves this alone. -/
theorem of_same (prompted : Prompted as s) (listeners : s'.listeners = s.listeners)
    (triggered : s'.triggered = s.triggered) (other : a ≠ .trigger) : Prompted (a :: as) s' where
  listeners some_ := by
    obtain ⟨handlers, mem⟩ := prompted.listeners (listeners ▸ some_)
    exact ⟨handlers, .tail _ mem⟩
  heard mem := (prompted.heard (listeners ▸ mem)).cons a
  triggered is := (prompted.triggered (triggered ▸ is)).imp (.tail _) (·.cons a)
  asked mem := triggered.trans
    (prompted.asked ((List.mem_cons.mp mem).resolve_left (Ne.symm other)))

/-- A trigger by a call, or by a listener that heard. -/
theorem trigger (prompted : Prompted as s) (why : .trigger ∈ a :: as ∨ Heard as) :
    Prompted (a :: as) s.trigger where
  listeners some_ := by
    rw [trigger_listeners] at some_
    obtain ⟨handlers, mem⟩ := prompted.listeners some_
    exact ⟨handlers, .tail _ mem⟩
  heard mem := by
    rw [trigger_listeners] at mem
    exact (prompted.heard mem).cons a
  triggered _ := why.imp_right (·.cons a)
  asked _ := s.trigger_triggered

/-- A listener that looks without hearing anything keeps the origin of the trigger. -/
theorem set_listener (prompted : Prompted as s) {l : Listener} (unheard : l ≠ .heard) :
    Prompted as { s with listeners := s.listeners.set listener l } where
  listeners some_ := prompted.listeners fun none_ => some_ (by simp [none_])
  heard mem := (List.mem_or_eq_of_mem_set mem).elim prompted.heard fun eq => absurd eq.symm unheard
  triggered := prompted.triggered
  asked := prompted.asked

/-- A signal of the system that is raised is heard only by listeners that were started before it. -/
theorem raise (prompted : Prompted as s) (signal : SystemSignal) :
    Prompted (.raise signal :: as) (s.raise signal) where
  listeners some_ := by
    obtain ⟨handlers, mem⟩ := prompted.listeners fun none_ => some_ (List.map_eq_nil_iff.mpr none_)
    exact ⟨handlers, .tail _ mem⟩
  heard mem := by
    obtain ⟨l, there, -⟩ := List.mem_map.mp mem
    obtain ⟨handlers, listened⟩ := prompted.listeners (List.ne_nil_of_mem there)
    exact ⟨signal, handlers, (List.singleton_sublist.mpr listened).cons_cons _⟩
  triggered is := (prompted.triggered is).imp (.tail _) (·.cons _)
  asked mem := prompted.asked ((List.mem_cons.mp mem).resolve_left nofun)

/-- A listener that is started has heard nothing yet. -/
theorem listen (prompted : Prompted as s) (handlers : Handlers) :
    Prompted (.listen handlers :: as) (s.listen handlers) where
  listeners _ := ⟨handlers, .head _⟩
  heard mem := by
    obtain there | eq := List.mem_append.mp mem
    · exact (prompted.heard there).cons _
    · cases List.mem_singleton.mp eq
  triggered is := (prompted.triggered is).imp (.tail _) (·.cons _)
  asked mem := prompted.asked ((List.mem_cons.mp mem).resolve_left nofun)

/-- An action that does not trigger keeps the origin of the trigger, if the state stays. -/
theorem cons (prompted : Prompted as s) (other : a ≠ .trigger) : Prompted (a :: as) s :=
  prompted.of_same rfl rfl other

/-- Every step keeps the origin of the trigger. -/
theorem step (prompted : Prompted as s) (stepped : s.step a = some s') :
    Prompted (a :: as) s' := by
  cases a with
  | trigger =>
    cases stepped
    exact prompted.trigger (.inl (.head _))
  | listen handlers =>
    cases stepped
    exact prompted.listen handlers
  | raise signal =>
    cases stepped
    exact prompted.raise signal
  | lookListener listener =>
    obtain ⟨l, unheard, rfl⟩ | ⟨mem, rfl⟩ := lookListener_cases stepped
    · exact (prompted.set_listener unheard).cons nofun
    · exact (prompted.set_listener (l := .over) nofun).trigger (.inr (prompted.heard mem))
  | takeChild =>
    cases stepped
    exact prompted.of_same rfl rfl nofun
  | cancelChild child =>
    obtain ⟨-, rfl⟩ := cancelChild_eq stepped
    exact prompted.of_same rfl rfl nofun
  | call request =>
    cases stepped
    have same := s.begin_sameSignal request
    exact prompted.of_same same.listeners same.triggered nofun
  | lookWait call =>
    have same := lookWait_sameSignal stepped
    exact prompted.of_same same.listeners same.triggered nofun
  | lookCleanup call =>
    have same := lookCleanup_sameSignal stepped
    exact prompted.of_same same.listeners same.triggered nofun
  | advance nanos =>
    cases stepped
    exact prompted.of_same rfl rfl nofun

end Prompted

/-- In every course the trigger has an origin. -/
theorem Course.prompted (course : Course grace punctual as s) : Prompted as s := by
  induction course with
  | new => exact ⟨nofun, nofun, nofun, nofun⟩
  | step a _ _ stepped ih => exact ih.step stepped

/-! ## Children -/

/-- A child is cancelled with the signal, or by itself once it was taken. -/
structure Kin (as : List Action) (s : Shutdown) : Prop where
  known : ∀ child, .cancelChild child ∈ as → child < s.children.length
  cancelled : ∀ child < s.children.length,
    (s.isCancelled child = true ↔ s.triggered = true ∨ .cancelChild child ∈ as)

namespace Kin

/-- What leaves the signal and the children alone leaves this alone. -/
theorem of_same (kin : Kin as s) (children : s'.children = s.children)
    (triggered : s'.triggered = s.triggered) (other : ∀ child, a ≠ .cancelChild child) :
    Kin (a :: as) s' where
  known child mem := by
    rw [children]
    exact kin.known child ((List.mem_cons.mp mem).resolve_left (Ne.symm (other child)))
  cancelled child there := by
    have mem : .cancelChild child ∈ a :: as ↔ .cancelChild child ∈ as :=
      List.mem_cons.trans (or_iff_right (Ne.symm (other child)))
    rw [children] at there
    rw [isCancelled, children, triggered, mem]
    exact kin.cancelled child there

/-- A trigger cancels every child there is. -/
theorem trigger (kin : Kin as s) (other : ∀ child, a ≠ .cancelChild child) :
    Kin (a :: as) s.trigger := by
  cases triggered : s.triggered with
  | true =>
    have same : s.trigger = s := if_pos triggered
    rw [same]
    exact kin.of_same rfl rfl other
  | false =>
    have new : s.trigger.children = s.children.map fun _ => true := by
      simp [Shutdown.trigger, triggered, note]
    refine ⟨fun child mem => ?_, fun child there => ?_⟩
    · rw [new, List.length_map]
      exact kin.known child ((List.mem_cons.mp mem).resolve_left (Ne.symm (other child)))
    · rw [new, List.length_map] at there
      have cancelled : s.trigger.isCancelled child = true := by
        rw [isCancelled, new, List.getElem?_map, List.getElem?_eq_getElem there]
        rfl
      exact iff_of_true cancelled (.inl s.trigger_triggered)

/-- A child that is taken is cancelled exactly if the signal is triggered already. -/
theorem takeChild (kin : Kin as s) : Kin (.takeChild :: as) s.takeChild where
  known child mem := by
    have there := kin.known child ((List.mem_cons.mp mem).resolve_left nofun)
    rw [Shutdown.takeChild, List.length_append]
    omega
  cancelled child there := by
    rw [Shutdown.takeChild, List.length_append, List.length_singleton] at there
    have mem : .cancelChild child ∈ Action.takeChild :: as ↔ .cancelChild child ∈ as :=
      List.mem_cons.trans (or_iff_right nofun)
    rw [isCancelled, mem]
    by_cases old : child < s.children.length
    · rw [Shutdown.takeChild, List.getElem?_append_left old]
      exact kin.cancelled child old
    · have new : child = s.children.length := by omega
      have fresh : .cancelChild child ∉ as := fun mem => old (kin.known child mem)
      rw [Shutdown.takeChild, new, List.getElem?_concat_length, ← new, or_iff_left fresh]
      rfl

/-- A child that is cancelled by itself is cancelled, and no other with it. -/
theorem cancelChild (kin : Kin as s) (there : child < s.children.length) :
    Kin (.cancelChild child :: as) { s with children := s.children.set child true } where
  known other mem := by
    rw [List.length_set]
    rcases List.mem_cons.mp mem with eq | mem
    · cases eq
      exact there
    · exact kin.known other mem
  cancelled other in_ := by
    rw [List.length_set] at in_
    rw [isCancelled, List.mem_cons]
    by_cases own : other = child
    · subst own
      rw [List.getElem?_set_self there]
      exact iff_of_true rfl (.inr (.inl rfl))
    · rw [List.getElem?_set_ne (Ne.symm own), or_iff_right (mt Action.cancelChild.inj own)]
      exact kin.cancelled other in_

/-- Every step keeps the reasons for which a child is cancelled. -/
theorem step (kin : Kin as s) (stepped : s.step a = some s') : Kin (a :: as) s' := by
  cases a with
  | trigger =>
    cases stepped
    exact kin.trigger nofun
  | listen handlers =>
    cases stepped
    exact kin.of_same rfl rfl nofun
  | raise signal =>
    cases stepped
    exact kin.of_same rfl rfl nofun
  | lookListener listener =>
    obtain ⟨l, -, rfl⟩ | ⟨-, rfl⟩ := lookListener_cases stepped
    · exact kin.of_same rfl rfl nofun
    · exact Kin.trigger ⟨kin.known, kin.cancelled⟩ nofun
  | takeChild =>
    cases stepped
    exact kin.takeChild
  | cancelChild child =>
    obtain ⟨there, rfl⟩ := cancelChild_eq stepped
    exact kin.cancelChild there
  | call request =>
    cases stepped
    have same := s.begin_sameSignal request
    exact kin.of_same same.children same.triggered nofun
  | lookWait call =>
    have same := lookWait_sameSignal stepped
    exact kin.of_same same.children same.triggered nofun
  | lookCleanup call =>
    have same := lookCleanup_sameSignal stepped
    exact kin.of_same same.children same.triggered nofun
  | advance nanos =>
    cases stepped
    exact kin.of_same rfl rfl nofun

end Kin

/-- In every course a child is cancelled for one of its two reasons. -/
theorem Course.kin (course : Course grace punctual as s) : Kin as s := by
  induction course with
  | new => exact ⟨nofun, nofun⟩
  | step a _ _ stepped ih => exact ih.step stepped

/-- A child that is cancelled by itself takes nobody with it. -/
theorem cancelChild_apart (cancelled : s.step (.cancelChild child) = some s') :
    s'.triggered = s.triggered ∧
      ∀ other, other ≠ child → s'.isCancelled other = s.isCancelled other := by
  obtain ⟨-, rfl⟩ := cancelChild_eq cancelled
  refine ⟨rfl, fun other apart => ?_⟩
  rw [isCancelled, List.getElem?_set_ne (Ne.symm apart)]
  rfl

end Shutdown

end StationPool
