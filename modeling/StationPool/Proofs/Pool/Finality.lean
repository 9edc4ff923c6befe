import StationPool.Proofs.Pool.House

/-!
# Shutting a pool down

What the first shutdown leaves (`shutdown_is_final`), with calls of all kinds going on before,
beside and after it. `Shuts` is what has become of a pool since: all connections are going down, so
a connect that had not ended can only end as closed, and since nothing is registered any more its
call has nothing to take out.
-/

namespace StationPool.Pool

open Connection (requests outcomes Sunk Down Closes)

variable {p p' q q' : Pool} {left left' : List (Nat × Waiting)} {n k : Nat} {id : String}
  {link : LinkCall} {w : Waiting} {e : ConnectionError}

/-! ## Takedowns -/

/-- Collecting takes nobody off who was not answered. -/
theorem mem_collect {t : Takedown LinkCall} (unanswered : p.outcomeOf link = none)
    (awaits : link ∈ t.awaiting) : link ∈ (p.collect t).awaiting := by
  unfold collect
  refine List.foldlRecOn (motive := fun t : Takedown LinkCall => link ∈ t.awaiting)
    t.awaiting _ awaits fun t' still other _ => ?_
  cases ended : p.outcomeOf other with
  | none => exact still
  | some outcome =>
    have different : link ≠ other := fun same => by simp [same ▸ unanswered] at ended
    exact (List.mem_erase_of_ne different).mpr still

/-- Whoever waits for disconnects ends when all of them have been answered. -/
theorem goOnTakingDown_cases (p : Pool) (n : Nat) (t : Takedown LinkCall) :
    p.goOnTakingDown n t = p.wait n (.takingDown t) ∨
    (∀ link ∈ t.awaiting, p.outcomeOf link ≠ none) ∧
      ∃ result, p.goOnTakingDown n t = p.finish n result := by
  unfold goOnTakingDown
  cases through : (p.collect t).result with
  | none => exact .inl rfl
  | some result =>
    refine .inr ⟨fun link awaits unanswered => ?_, result, rfl⟩
    have still := mem_collect unanswered awaits
    unfold Takedown.result at through
    split at through
    · rename_i empty
      rw [List.isEmpty_iff.mp empty] at still
      cases still
    · cases through

/-! ## After the first shutdown -/

/-- A call has ended once, with an error of a connection. -/
def Refused (p : Pool) (n : Nat) (e : ConnectionError) : Prop :=
  ∀ result, .returned n result ∈ p.history ↔ result = .error (.connection e)

/-- A call that is finished with the error of a connection is refused, if it had not returned. -/
theorem refused_finish (going : ∀ result, .returned n result ∉ p.history) :
    Refused (p.finish n (.error (.connection e))) n e := by
  intro result
  constructor
  · intro mem
    rcases List.mem_cons.mp mem with same | mem
    · cases same
      rfl
    · exact absurd mem (going result)
  · rintro rfl
    exact List.mem_cons_self

/-- What a call that adds a station is refused with if the pool is shut down where it waits. -/
def Waiting.doom? : Waiting → Option ConnectionError
  | .connecting _ _ => some .closed
  | .withdrawing _ e => some e
  | _ => none

/-- A takedown waits for a disconnect of every connection that is registered. -/
def Awaits (p : Pool) (t : Takedown LinkCall) : Prop :=
  ∀ (k : Nat) (c : Connection), p.Listed k → p.connections[k]? = some c →
    (k, c.fresh) ∈ t.awaiting

/-- What has become of a pool since its first shutdown was called, with some calls about to go on.
-/
structure Shuts (p q : Pool) (left : List (Nat × Waiting)) : Prop extends House q left where
  shut : q.shutDown = true
  empty : q.registry.entries = []
  length : q.connections.length = p.connections.length
  sinks : ∀ (k : Nat) (c : Connection), p.connections[k]? = some c →
    ∃ c', q.connections[k]? = some c' ∧ Sunk c c' ∧ (p.Listed k → Down c c' c.fresh)
  /-- A station that was being added still is, or was refused. -/
  adding : ∀ n w e, (n, w) ∈ p.waiting → w.doom? = some e →
    (n, w) ∈ left ++ q.waiting ∨ Refused q n e
  /-- The shutdown goes on, or what was registered is closed. -/
  ends : (∃ t, Awaits p t ∧ (p.fresh, .takingDown t) ∈ left ++ q.waiting) ∨
    ∀ k, p.Listed k → q.state k = .closed
  /-- A station that came later was refused. -/
  later : ∀ n s, .called n (.add s) ∈ q.history →
    .called n (.add s) ∈ p.history ∨ Refused q n .closed

namespace Shuts

/-- What a step keeps: connections take steps, at most one call ends, and whoever stops to wait has
got what it waited for. -/
theorem frame (s : Shuts p q left) (house : House q' left') (onward : Onward q q')
    (going : ∀ result, .returned n result ∉ q.history)
    (returned : ∀ m, m ≠ n → ∀ result,
      .returned m result ∈ q'.history ↔ .returned m result ∈ q.history)
    (adding : ∀ m w e, (m, w) ∈ p.waiting → w.doom? = some e → (m, w) ∈ left ++ q.waiting →
      (m, w) ∈ left' ++ q'.waiting ∨ Refused q' m e)
    (ends : ∀ t, Awaits p t → (p.fresh, .takingDown t) ∈ left ++ q.waiting →
      (p.fresh, .takingDown t) ∈ left' ++ q'.waiting ∨ ∀ k, p.Listed k → q'.state k = .closed)
    (called : ∀ m s, .called m (.add s) ∈ q'.history →
      .called m (.add s) ∈ q.history ∨ Refused q' m .closed) : Shuts p q' left' := by
  -- Whoever was refused has ended, so it is not the call of this step.
  have refused {m : Nat} {e : ConnectionError} (refused : Refused q m e) : Refused q' m e := by
    have other : m ≠ n := fun same => going _ (same ▸ (refused _).mpr rfl)
    exact fun result => (returned m other result).trans (refused result)
  refine {
    toHouse := house
    shut := onward.shutDown.trans s.shut
    empty := ?empty
    length := onward.length.trans s.length
    sinks := ?sinks
    adding := ?adding
    ends := ?ends
    later := ?later }
  case empty =>
    refine List.eq_nil_iff_forall_not_mem.mpr fun entry mem => ?_
    have mem := onward.listed entry mem
    rw [s.empty] at mem
    cases mem
  case sinks =>
    intro k c at_
    obtain ⟨d, there, sunk, down⟩ := s.sinks k c at_
    obtain ⟨as, c', at', run⟩ := onward.each k d there
    exact ⟨c', at', sunk.after run, fun listed => (down listed).after run⟩
  case adding =>
    intro m w e mem doom
    rcases s.adding m w e mem doom with waits | ended
    · exact adding m w e mem doom waits
    · exact .inr (refused ended)
  case ends =>
    rcases s.ends with ⟨t, awaits, mem⟩ | closed
    · exact (ends t awaits mem).imp_left fun mem => ⟨t, awaits, mem⟩
    · exact .inr fun k listed => onward.closed s.toTended (closed k listed)
  case later =>
    intro m station mem
    rcases called m station mem with mem | ended
    · exact (s.later m station mem).imp_right refused
    · exact .inr ended

/-! ### Going on -/

/-- Nothing is registered, so a station whose connect failed is withdrawn at once. -/
theorem withdraw_eq (s : Shuts p q left) (n : Nat) (id : String) (e : ConnectionError) :
    q.withdraw n id e = q.finish n (.error (.connection e)) := by
  have missing : q.registry.remove id = .error (.notFound id) := by
    rw [Registry.remove, Registry.get?, s.empty]
    rfl
  rw [withdraw, missing]

/-- A station that is being added goes on being so, or is refused. -/
theorem goOn_cases (before : House p []) (s : Shuts p q left) (mem : (n, w) ∈ p.waiting)
    (doom : w.doom? = some e) :
    q.goOn n w = q.wait n w ∨ q.goOn n w = q.finish n (.error (.connection e)) := by
  cases w with
  | connecting link id =>
    cases doom
    obtain ⟨c, at_, asked⟩ := before.asked n link id mem
    have unanswered := before.unanswered n link id mem
    rw [outcomeOf, at_, Option.bind_some] at unanswered
    obtain ⟨c', at', sunk, -⟩ := s.sinks _ c at_
    have outcome : q.outcomeOf link = c'.outcome? link.2 := by
      rw [outcomeOf, at', Option.bind_some]
    rw [goOn, goOnConnecting, outcome]
    rcases sunk.outcome asked unanswered with none_ | closed
    · rw [none_]
      exact .inl rfl
    · rw [closed]
      exact .inr (s.withdraw_eq n id .closed)
  | withdrawing t e =>
    cases doom
    rw [goOn, goOnWithdrawing]
    cases (q.collect t).result with
    | none => exact .inl rfl
    | some result => exact .inr rfl
  | _ => cases doom

/-- Everything that was registered has been disconnected. -/
theorem closed_of_awaits (before : House p []) (s : Shuts p q left) {t : Takedown LinkCall}
    (awaits : Awaits p t) (answered : ∀ link ∈ t.awaiting, q.outcomeOf link ≠ none)
    (listed : p.Listed k) : q.state k = .closed := by
  have at_ := List.getElem?_eq_getElem (before.bound k listed)
  obtain ⟨settings, reachable⟩ := before.at_real at_
  obtain ⟨c', at', -, down⟩ := s.sinks k _ at_
  have ended := answered _ (awaits k _ listed at_)
  rw [outcomeOf, at', Option.bind_some] at ended
  rw [state_at at']
  exact (down listed).closed reachable.audited reachable.sound ended

/-- A call that goes on behind the shutdown keeps what is known since: one that was adding a station
ends refused, and none registers. -/
theorem goOn (before : House p []) (s : Shuts p q ((n, w) :: left)) :
    Shuts p (q.goOn n w) left := by
  have house := s.toHouse.goOn
  have serves := s.serves_goOn
  obtain ⟨-, free⟩ := s.pop
  have stays {x : Nat × Waiting} (mem : x ∈ left ++ q.waiting) :
      x ∈ left ++ (q.goOn n w).waiting := by
    rcases List.mem_append.mp mem with mem | mem
    · exact List.mem_append_left _ mem
    · exact List.mem_append_right _ (serves.waiting mem)
  have waits_ : (n, w) ∈ left ++ (q.wait n w).waiting :=
    List.mem_append_right _ (List.mem_append_right _ (List.mem_singleton_self _))
  refine s.frame house serves.onward free.going (fun m other result => serves.returned_iff other)
    ?adding ?ends fun m station mem => .inl (serves.called_iff.mp mem)
  case adding =>
    intro m w' e mem doom waits
    rcases List.mem_cons.mp waits with same | waits
    · cases same
      rcases s.goOn_cases before mem doom with eq | eq
      · exact .inl (eq ▸ waits_)
      · exact .inr (eq ▸ refused_finish free.going)
    · exact .inl (stays waits)
  case ends =>
    intro t awaits waits
    rcases List.mem_cons.mp waits with same | waits
    · cases same
      rw [Pool.goOn]
      rcases q.goOnTakingDown_cases p.fresh t with eq | ⟨answered, result, eq⟩
      · exact .inl (eq ▸ waits_)
      · refine .inr fun k listed => ?_
        have closed := s.closed_of_awaits before awaits answered listed
        rw [eq]
        exact closed
    · exact .inl (stays waits)

/-- When all that can have gone on, what is known since the shutdown still holds. -/
theorem goOnEach (before : House p []) (s : Shuts p q left) :
    Shuts p (left.foldl (fun q (n, w) => q.goOn n w) q) [] := by
  induction left generalizing q with
  | nil => exact s
  | cons x left ih => exact ih (s.goOn before)

/-! ### Steps -/

/-- The pool drifts by itself. -/
theorem drifts (s : Shuts p q left) (house : House q' left') (d : Drifts q q')
    (same : left' ++ q'.waiting = left ++ q.waiting) : Shuts p q' left' :=
  s.frame house d.toOnward (n := q.fresh) s.not_returned_fresh
    (fun _ _ _ => d.returned_iff)
    (fun _ _ _ _ _ waits => .inl (same ▸ waits)) (fun _ _ waits => .inl (same ▸ waits))
    fun _ _ mem => .inl (d.called_iff.mp mem)

/-- A call is made: a new station is refused. -/
theorem begin (s : Shuts p q []) (request : Request) : Shuts p (q.begin request) [] := by
  have serves := s.serves_begin request (.inl s.shut)
  refine s.frame (s.toHouse.begin request) { serves.onward with } s.not_returned_fresh ?returned
    (fun _ _ _ _ _ waits => .inl (serves.waiting waits))
    (fun _ _ waits => .inl (serves.waiting waits)) ?called
  case returned =>
    intro m other result
    rw [serves.returned_iff other]
    simp
  case called =>
    intro m station mem
    rcases mem_history_calling.mp (serves.called_iff.mp mem) with same | mem
    · cases same
      have refused : q.begin (.add station) =
          (q.calling (.add station)).finish q.fresh (.error (.connection .closed)) :=
        if_pos s.shut
      rw [refused]
      exact .inr (refused_finish fun result => by simp [s.not_returned_fresh result])
    · exact .inl mem

/-- Every step behind the shutdown keeps what is known since. A call to add that comes later is
refused at once. -/
theorem step (before : House p []) (s : Shuts p q []) {a : Action}
    (stepped : q.step a = some q') : Shuts p q' [] := by
  cases a with
  | call request =>
    rw [Pool.step, Option.some.injEq] at stepped
    exact stepped ▸ s.begin request
  | link k a =>
    obtain ⟨c, c', at_, look, there, rfl⟩ := linkStep_some stepped
    refine goOnEach before (s.drifts (s.link at_ look there) (s.drifts_link at_ look there) ?_)
    exact List.append_nil _
  | advance nanos =>
    cases stepped
    have errand := House.errand_advance q nanos
    exact s.drifts (s.errand errand) errand.toDrifts rfl

/-- A dial that can end as closed refuses its station when it does. -/
theorem refuses (before : House p []) (s : Shuts p q [])
    (mem : (n, .connecting link id) ∈ p.waiting) {c : Connection}
    (at_ : q.connections[link.1]? = some c) {a : Connection.Action} (call : isCall a = false)
    (clock : movesClock a = false) (closes : Closes c link.2 a) :
    ∃ q', q.step (.link link.1 a) = some q' ∧ Refused q' n .closed := by
  obtain ⟨c', there, ended⟩ := closes
  have stepped : q.step (.link link.1 a) =
      some (goOnAll { q with connections := q.connections.set link.1 c' }) := by
    simp [Pool.step, linkStep, call, clock, at_, there]
  have s' := s.step before stepped
  -- If the call still waited, it would wait for a connect that has ended.
  refine ⟨_, stepped, (s'.adding n _ _ mem rfl).resolve_left fun waits => ?_⟩
  have look : a.request? = none := by
    cases a <;> first | rfl | cases call
  obtain ⟨as, c'', at'', run⟩ := (s.link at_ look there).onward_goOnEach.each link.1 c'
    (List.getElem?_set_self (List.getElem?_eq_some_iff.mp at_).1)
  obtain ⟨settings, reachable⟩ := s.at_real at_
  obtain ⟨later, grown⟩ := (reachable.sound.step there).grown_after run
  have answered : (link.2, .error .closed) ∈ outcomes c''.history := by
    rw [grown, outcomes, List.filterMap_append]
    exact List.mem_append_right _ (List.mem_filterMap.mpr ⟨_, ended, rfl⟩)
  have unanswered := s'.unanswered n link id waits
  have at'' : (goOnAll { q with
    connections := q.connections.set link.1 c' }).connections[link.1]? = some c'' := at''
  rw [outcomeOf, at'', Option.bind_some] at unanswered
  exact Connection.outcome?_ne_none answered unanswered

end Shuts

/-- Whoever was registered has been disconnected for the first time, and the others long before. -/
theorem House.sunk (h : House p []) {c c' : Connection} (at_ : p.connections[k]? = some c)
    {as : List Connection.Action} (run : c.after as = some c')
    (among : p.Listed k → ∃ rest, as = .disconnect :: rest) :
    Sunk c c' ∧ (p.Listed k → Down c c' c.fresh) := by
  obtain ⟨settings, reachable⟩ := h.at_real at_
  by_cases listed : p.Listed k
  · obtain ⟨rest, rfl⟩ := among listed
    have up : c.cancelled = false := (isDown_at at_).symm.trans (h.up k listed)
    have run : c.disconnect.after rest = some c' := run
    have down := (Connection.down_of_disconnect reachable.sound up).1.after run
    exact ⟨down.sunk, fun _ => down⟩
  · have bound := (List.getElem?_eq_some_iff.mp at_).1
    have gone : c.cancelled = true :=
      (isDown_at at_).symm.trans ((h.down k bound).resolve_left listed)
    exact ⟨(Sunk.refl reachable.sound gone).after run, fun listed' => absurd listed' listed⟩

end StationPool.Pool
