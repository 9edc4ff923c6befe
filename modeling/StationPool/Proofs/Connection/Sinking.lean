import StationPool.Proofs.Connection.Answers
import StationPool.Proofs.Connection.Clock
import StationPool.Proofs.Connection.Fledgling

/-!
# What calls leave of a connection

A call to a connection ends no call but itself (`outcomes_of_call`), and no step takes back
how a call ended. `Sunk` is what has become of a connection while it is going down, whether or not
its first disconnect was seen: a connect that had not ended ends as closed, if it ends
(`Sunk.outcome`).
-/

namespace StationPool.Connection

variable {before c c' : Connection} {call m : Nat}

/-! ## Outcomes -/

/-- How a call ended is what the last note of its end says. -/
theorem outcome?_eq (c : Connection) (call : Nat) :
    c.outcome? call = ((outcomes c.history).find? (·.1 == call)).map (·.2) := by
  unfold Connection.outcome? outcomes
  induction c.history with
  | nil => rfl
  | cons e rest ih =>
    cases what : e.what with
    | returned n outcome =>
      by_cases own : n = call
      · simp [what, own, Happening.outcome?]
      · simpa [what, own, Happening.outcome?] using ih
    | _ => simpa [what, Happening.outcome?] using ih

/-- An outcome that is found was told. -/
theorem outcome?_mem {outcome : Outcome} (ended : c.outcome? call = some outcome) :
    (call, outcome) ∈ outcomes c.history := by
  rw [outcome?_eq] at ended
  obtain ⟨⟨n, _⟩, found, rfl⟩ := Option.map_eq_some_iff.mp ended
  obtain rfl : n = call := by simpa using List.find?_some found
  exact List.mem_of_find?_eq_some found

/-- A call that was answered has an outcome. -/
theorem outcome?_ne_none {outcome : Outcome} (mem : (call, outcome) ∈ outcomes c.history) :
    c.outcome? call ≠ none := by
  rw [outcome?_eq, Ne, Option.map_eq_none_iff, List.find?_eq_none]
  exact fun none_ => none_ _ mem (beq_self_eq_true call)

/-- The end of another call changes nothing. -/
theorem outcome?_of_others {outs : List (Nat × Outcome)}
    (grown : outcomes c'.history = outs ++ outcomes c.history) (others : ∀ x ∈ outs, x.1 ≠ call) :
    c'.outcome? call = c.outcome? call := by
  have none_ : outs.find? (·.1 == call) = none :=
    List.find?_eq_none.mpr fun x mem => by simpa using others x mem
  rw [outcome?_eq, outcome?_eq, grown, List.find?_append, none_, Option.none_or]

/-! ## Calls -/

/-- A call that is made ends at most itself. -/
theorem outcomes_of_call {a : Action} (made : a.request?.isSome = true)
    (stepped : c.step a = some c') :
    ∃ outs, outcomes c'.history = outs ++ outcomes c.history ∧ ∀ x ∈ outs, x.1 = c.fresh := by
  obtain ⟨outs, grown, all⟩ := answers_of_step stepped
  refine ⟨outs, grown, fun x mem => ?_⟩
  have own : c.Answerable x.1 a := (all x mem).1
  cases a with
  | connect | disconnect | send => exact own
  | _ => cases made

/-- Calls end no call that was made before them. -/
theorem Sound.outcome?_of_calls (h : Sound c) {as : List Action}
    (made : ∀ a ∈ as, a.request?.isSome = true) (run : c.after as = some c') {request : Request}
    (asked : (m, request) ∈ requests c.history) : c'.outcome? m = c.outcome? m := by
  induction as generalizing c with
  | nil => cases run; rfl
  | cons a as ih =>
    rw [after_cons] at run
    obtain ⟨next, stepped, rest⟩ := Option.bind_eq_some_iff.mp run
    obtain ⟨first, others⟩ := List.forall_mem_cons.mp made
    have sound := h.step stepped
    have asked' : (m, request) ∈ requests next.history := by
      rw [(move_of_step h stepped).requests h]
      exact List.mem_append_right _ asked
    obtain ⟨outs, grown, own⟩ := outcomes_of_call first stepped
    rw [ih sound others rest asked']
    refine outcome?_of_others grown fun x mem same => ?_
    have := h.called _ asked
    have := own x mem
    omega

/-- A run over two lists is a run over the first and then over the second. -/
theorem after_append (c : Connection) (before rest : List Action) :
    c.after (before ++ rest) = (c.after before).bind (·.after rest) := List.foldlM_append

/-- Some run leads to every reachable connection, from a new one with the same clock. -/
theorem Reachable.run {settings : ConnectionSettings} (reachable : Reachable settings c) :
    ∃ as, (Connection.new settings c.horizon).after as = some c := by
  induction reachable with
  | new => exact ⟨[], rfl⟩
  | step a before stepped ih =>
    obtain ⟨as, run⟩ := ih
    refine ⟨as ++ [a], ?_⟩
    rw [horizon_of_step stepped, after_append, run, Option.bind_some, after_cons, stepped]
    rfl

/-- A run takes nothing back. -/
theorem Sound.grown_after (h : Sound c) {as : List Action} (run : c.after as = some c') :
    ∃ later, c'.history = later ++ c.history := by
  induction as generalizing c with
  | nil => cases run; exact ⟨[], rfl⟩
  | cons a as ih =>
    rw [after_cons] at run
    obtain ⟨next, stepped, rest⟩ := Option.bind_eq_some_iff.mp run
    obtain ⟨new, grown⟩ := ((move_of_step h stepped).beats h).grown
    obtain ⟨later, grown'⟩ := ih (h.step stepped) rest
    have grown : next.history = new ++ c.history := grown
    exact ⟨later ++ new, by rw [grown', grown, List.append_assoc]⟩

/-! ## Going down -/

/-- What has become of a connection while it is going down. -/
structure Sunk (before c : Connection) : Prop where
  sound : Sound c
  cancelled : c.cancelled = true
  grown : ∃ later, c.history = later ++ before.history ∧
    ∀ e ∈ later, Late (requests c.history) e.what

namespace Sunk

/-- A connection that is going down is still so after nothing. -/
theorem refl (h : Sound c) (gone : c.cancelled = true) : Sunk c c :=
  ⟨h, gone, [], rfl, fun _ mem => absurd mem List.not_mem_nil⟩

/-- A step of a connection that is going down adds to the history only what may come late. -/
theorem step (sunk : Sunk before c) {a : Action} (stepped : c.step a = some c') :
    Sunk before c' := by
  have m := move_of_step sunk.sound stepped
  have winds := m.winds sunk.sound sunk.cancelled
  obtain ⟨later, grown, late⟩ := sunk.grown
  obtain ⟨new, grown', late', -⟩ := winds.grown
  refine ⟨sunk.sound.move m, winds.cancelled, new ++ later, ?_, fun e mem => ?_⟩
  · rw [grown', grown, List.append_assoc]
  · rcases List.mem_append.mp mem with mem | mem
    · exact late' e mem
    · refine (late e mem).mono fun q asked => ?_
      rw [m.requests sunk.sound]
      exact List.mem_append_right _ asked

/-- A run of a connection that is going down does the same. -/
theorem after (sunk : Sunk before c) {as : List Action} (run : c.after as = some c') :
    Sunk before c' :=
  after_induction (P := Sunk before) (fun sunk stepped => sunk.step stepped) sunk run

/-- A connect that had not ended ends as closed, if it ends. -/
theorem outcome (sunk : Sunk before c) (asked : (m, .connect) ∈ requests before.history)
    (going : before.outcome? m = none) :
    c.outcome? m = none ∨ c.outcome? m = some (.error .closed) := by
  obtain ⟨later, grown, late⟩ := sunk.grown
  cases ended : c.outcome? m with
  | none => exact .inl rfl
  | some outcome =>
    refine .inr (congrArg some ?_)
    have mem := outcome?_mem ended
    have asked' : (m, .connect) ∈ requests c.history := by
      rw [grown, requests, List.filterMap_append]
      exact List.mem_append_right _ asked
    rw [grown, outcomes, List.filterMap_append] at mem
    rcases List.mem_append.mp mem with new | old
    · obtain ⟨⟨moment, what⟩, there, is⟩ := List.mem_filterMap.mp new
      cases what with
      | returned n outcome' =>
        cases is
        rcases late _ there with closed | ⟨request, other, asked''⟩
        · exact closed
        · exact absurd (sunk.sound.request_unique asked'' asked') other
      | _ => cases is
    · exact absurd going (outcome?_ne_none old)

/-- Nobody is told of a session any more. -/
theorem silent (sunk : Sunk before c) : ∃ later, c.history = later ++ before.history ∧
    ∀ moment s, ⟨moment, .observed s .connected⟩ ∉ later := by
  obtain ⟨later, grown, late⟩ := sunk.grown
  exact ⟨later, grown, fun moment s mem => late _ mem⟩

/-- While a connect has not ended it can: at the next look of its dial, or with its TLS material. -/
theorem closes {settings : ConnectionSettings} (sunk : Sunk before c)
    (reachable : Reachable settings c) (asked : (m, .connect) ∈ requests c.history)
    (going : c.outcome? m = none) :
    Closes c m (.lookDialer m) ∨ ∀ result, Closes c m (.load m result) := by
  rcases reachable.held asked with ⟨outcome, ended⟩ | ⟨d, mem, rfl, caller⟩
  · exact absurd going (outcome?_ne_none ended)
  · exact closes_of_dialer sunk.sound sunk.cancelled mem caller

end Sunk

/-- What is known since the first disconnect holds of a connection that is going down. -/
theorem Down.sunk (down : Down before c call) : Sunk before c := by
  obtain ⟨later, grown, late, -⟩ := down.grown
  exact ⟨down.sound, down.cancelled, later, grown, late⟩

/-- Once the first disconnect has returned, the connection is closed. -/
theorem Down.closed (down : Down before c before.fresh) (audited : Audited before)
    (h : Sound before) (ended : c.outcome? before.fresh ≠ none) : c.state = .closed := by
  obtain ⟨outcome, ended⟩ := Option.ne_none_iff_exists'.mp ended
  obtain ⟨later, grown, -, closed⟩ := down.grown
  have mem := outcome?_mem ended
  rw [grown, outcomes, List.filterMap_append] at mem
  rcases List.mem_append.mp mem with new | old
  · obtain ⟨⟨moment, what⟩, there, is⟩ := List.mem_filterMap.mp new
    cases what with
    | returned n outcome' =>
      cases is
      exact closed moment outcome there
    | _ => cases is
  · obtain ⟨request, asked⟩ := audited.ended _ old
    exact absurd asked h.not_asked_fresh

end StationPool.Connection
