import StationPool.Proofs.Connection.Pending

/-!
# After the first disconnect

The first disconnect takes a connection down for good, whatever goes on at that moment. `Winds` is
what a step may still do to a connection that is going down, and `Down` what has become of it since;
both hold along every run that follows.
-/

namespace StationPool.Connection

variable {c : Connection} {i : Nat}

/-- What may still happen when the connection is going down: no session is told as connected, no
message is passed on, no handshake begins, and a call that connects ends as closed. -/
def Late (asked : List (Nat × Request)) : Happening → Prop
  | .observed _ .connected | .observed _ (.message _) | .dialing _ => False
  | .returned call outcome =>
    outcome = .error .closed ∨ ∃ request, request ≠ .connect ∧ (call, request) ∈ asked
  | _ => True

/-- What may happen late may happen when more calls have been made. -/
theorem Late.mono {asked asked' : List (Nat × Request)} (more : ∀ q ∈ asked, q ∈ asked')
    {w : Happening} (late : Late asked w) : Late asked' w := by
  cases w with
  | observed s what => cases what <;> exact late
  | returned call outcome =>
    rcases late with closed | ⟨request, other, mem⟩
    · exact .inl closed
    · exact .inr ⟨request, other, more _ mem⟩
  | _ => exact late

/-- A disconnect may return. -/
theorem late_of_disconnect {asked : List (Nat × Request)} {call : Nat} {outcome : Outcome}
    (mem : (call, .disconnect) ∈ asked) : Late asked (.returned call outcome) :=
  .inr ⟨.disconnect, nofun, mem⟩

/-- A call asks for one thing. -/
theorem Sound.request_unique (h : Sound c) {call : Nat} {request request' : Request}
    (asked : (call, request) ∈ requests c.history)
    (asked' : (call, request') ∈ requests c.history) : request = request' := by
  have same := List.inj_on_of_nodup_map h.calls asked asked' rfl
  exact (Prod.mk.inj same).2

/-- What a step does to a connection that is going down. -/
structure Winds (c c' : Connection) : Prop where
  length : c'.sessions.length = c.sessions.length
  attempts : c'.attempts = c.attempts
  cancelled : c'.cancelled = true
  state : c'.state = c.state ∨ c'.state = .closed
  grown : ∃ new, c'.history = new ++ c.history ∧
    (∀ e ∈ new, Late (requests c'.history) e.what) ∧
    ∀ call, (call, .disconnect) ∈ requests c.history → ∀ moment outcome,
      ⟨moment, .returned call outcome⟩ ∈ new → c'.state = .closed

/-- A call that is made now is not the first disconnect. -/
theorem Sound.not_asked_fresh (h : Sound c) {request : Request} :
    (c.fresh, request) ∉ requests c.history :=
  fun asked => Nat.lt_irrefl _ (h.called _ asked)

/-- A session ends while the connection is going down: the connection is closed. -/
theorem afterEnd_of_gone (gone : c.cancelled = true) (e : Option ConnectionError) :
    (c.afterEnd i e).sessions = c.sessions ∧ (c.afterEnd i e).attempts = c.attempts ∧
    (c.afterEnd i e).cancelled = true ∧ (c.afterEnd i e).state = .closed ∧
    ∃ new, (c.afterEnd i e).history = new ++ c.history ∧
      ∀ x ∈ new, ∃ moment what, x = ⟨moment, .observed (some i) what⟩ ∧
        what ≠ .connected ∧ ∀ payload, what ≠ .message payload := by
  have closes {c : Connection} (gone : c.cancelled = true) : c.settleEnd = c.enter .closed :=
    if_pos gone
  cases e with
  | none =>
    rw [afterEnd_none, closes (by exact gone)]
    refine ⟨rfl, rfl, gone, enter_closed_state, [_], rfl, ?_⟩
    intro x mem
    exact ⟨_, _, List.mem_singleton.mp mem, nofun, nofun⟩
  | some e =>
    rw [afterEnd_some, closes (by exact gone)]
    refine ⟨rfl, rfl, gone, enter_closed_state, [_, _], rfl, ?_⟩
    intro x mem
    rcases List.mem_cons.mp mem with rfl | mem
    · exact ⟨_, _, rfl, nofun, nofun⟩
    · exact ⟨_, _, List.mem_singleton.mp mem, nofun, nofun⟩

/-- To retire a session tells the observer of its end, or nothing. -/
theorem retire_grown : ∃ new, (c.retire i).history = new ++ c.history ∧
    (c.retire i).sessions.length = c.sessions.length ∧
    ∀ x ∈ new, x = ⟨c.now, .observed (some i) (.disconnected none)⟩ := by
  by_cases live : c.Live i
  · rw [retire_of_live live]
    refine ⟨[_], rfl, List.length_modify Session.finish c.sessions i, ?_⟩
    exact fun x mem => List.mem_singleton.mp mem
  · rw [retire_of_over live]
    exact ⟨[], rfl, rfl, nofun⟩

/-- A quiet step winds a connection down that is going down. It ends sends only. -/
theorem Quiet.winds {c' : Connection} (h : Sound c) (gone : c.cancelled = true) (q : Quiet c c') :
    Winds c c' := by
  obtain ⟨new, grown, minor⟩ := q.history
  refine ⟨q.length, q.attempts, q.cancelled.trans gone, .inl q.state, new, grown, ?_, ?_⟩
  · intro e mem
    rw [q.requests]
    have minor := minor e mem
    cases what : e.what with
    | observed s what' => rw [what] at minor; exact minor.elim
    | dialing number => rw [what] at minor; exact minor.elim
    | returned call outcome =>
      rw [what] at minor
      obtain ⟨frame, asked⟩ := minor
      exact .inr ⟨.send frame, nofun, asked⟩
    | _ => trivial
  · intro call asked moment outcome mem
    obtain ⟨frame, asked'⟩ := minor _ mem
    cases h.request_unique asked asked'

/-- A call that is made changes nothing but the history. -/
theorem Winds.of_begin {request : Request} {c' : Connection} (w : Winds (c.begin request) c') :
    Winds c c' := by
  obtain ⟨new, grown, late, closed⟩ := w.grown
  refine ⟨w.length, w.attempts, w.cancelled, w.state,
    new ++ [⟨c.now, .called c.fresh request c.state c.slot⟩], ?_, ?_, ?_⟩
  · rw [grown, List.append_assoc]
    rfl
  · intro e mem
    rcases List.mem_append.mp mem with mem | mem
    · exact late e mem
    · rw [List.mem_singleton.mp mem]
      trivial
  · intro call asked moment outcome mem
    rcases List.mem_append.mp mem with mem | mem
    · exact closed call (List.mem_cons_of_mem _ asked) moment outcome mem
    · cases List.mem_singleton.mp mem

/-- Every move winds a connection down that is going down. The moves that install, pass on or dial
are not possible then. -/
theorem Move.winds (h : Sound c) (gone : c.cancelled = true) {a : Action} {c' : Connection}
    (m : Move c a c') : Winds c c' := by
  have not_up {p : Prop} (up : c.cancelled = false) : p := by
    rw [gone] at up
    cases up
  cases m with
  | refused _ =>
    refine ⟨rfl, rfl, gone, .inl rfl, [_, _], rfl, ?_, ?_⟩
    · intro e mem
      rcases List.mem_cons.mp mem with rfl | mem
      · exact .inl rfl
      · rw [List.mem_singleton.mp mem]
        trivial
    · intro call asked moment outcome mem
      rcases List.mem_cons.mp mem with same | mem
      · cases same
        exact absurd asked h.not_asked_fresh
      · cases List.mem_singleton.mp mem
  | unfit _ up _ => exact not_up up
  | loads up => exact not_up up
  | dials _ up _ => exact not_up up
  | redialLoads _ _ up => exact not_up up
  | redialDials _ _ _ up => exact not_up up
  | loaded _ _ up _ => exact not_up up
  | @dialClosed d a own mem _ =>
    rw [Connection.dialClosed]
    split
    · rename_i caller
      refine ⟨rfl, rfl, gone, .inl rfl, [_], rfl, ?_, ?_⟩
      · intro e mem
        rw [List.mem_singleton.mp mem]
        exact .inl rfl
      · intro call asked moment outcome mem'
        cases List.mem_singleton.mp mem'
        cases h.request_unique asked (h.callers d mem caller)
    · refine ⟨rfl, rfl, gone, .inl rfl, [], rfl, ?_, ?_⟩
      · intro e mem
        cases mem
      · intro call asked moment outcome mem
        cases mem
  | callerFails _ _ _ _ up => exact not_up up
  | redialFails _ _ _ _ up => exact not_up up
  | callerInstalls _ _ up _ => exact not_up up
  | redialInstalls _ _ up _ => exact not_up up
  | @arrives i item there =>
    refine ⟨List.length_modify _ c.sessions i, rfl, gone, .inl rfl, [_], rfl, ?_, ?_⟩
    · intro e mem
      rw [List.mem_singleton.mp mem]
      trivial
    · intro call asked moment outcome mem
      cases List.mem_singleton.mp mem
  | delivers _ _ up _ => exact not_up up
  | @ends i a g e own live tame =>
    obtain ⟨sessions, attempts, gone', closed, new, grown, ending⟩ :=
      afterEnd_of_gone (c := c.vacate i) (i := i) gone e
    have length : ((c.vacate i).afterEnd i e).sessions.length = c.sessions.length := by
      rw [sessions]
      exact List.length_modify Session.finish c.sessions i
    rw [h.endSession_eq live]
    refine ⟨(List.length_modify g _ i).trans length, attempts, gone', .inr closed, new, grown,
      ?_, fun _ _ _ _ _ => closed⟩
    intro x mem
    obtain ⟨moment, what, rfl, not_connected, not_message⟩ := ending x mem
    cases what with
    | connected => exact absurd rfl not_connected
    | message payload => exact absurd rfl (not_message payload)
    | _ => trivial
  | sends quiet => exact (quiet.winds (h.begin _) gone).of_begin
  | quiet look quiet => exact quiet.winds h gone
  | disconnectsAgain _ =>
    refine ⟨rfl, rfl, gone, .inl rfl, [_, _], rfl, ?_, ?_⟩
    · intro e mem
      rcases List.mem_cons.mp mem with rfl | mem
      · exact late_of_disconnect List.mem_cons_self
      · rw [List.mem_singleton.mp mem]
        trivial
    · intro call asked moment outcome mem
      rcases List.mem_cons.mp mem with same | mem
      · cases same
        exact absurd asked h.not_asked_fresh
      · cases List.mem_singleton.mp mem
  | disconnectsIdle up _ => exact not_up up
  | disconnects _ up _ _ => exact not_up up
  | @tornDown t g waiting close =>
    obtain ⟨_, asked⟩ := h.teardown t waiting
    have beside := beside_retire (c := { c with teardown := none }) (i := t.session)
    obtain ⟨new, grown, length, ending⟩ :=
      retire_grown (c := { c with teardown := none }) (i := t.session)
    refine ⟨(List.length_modify g _ t.session).trans length, beside.attempts,
      beside.cancelled.trans gone, .inr enter_closed_state, _ :: new, congrArg (_ :: ·) grown,
      ?_, fun _ _ _ _ _ => enter_closed_state⟩
    intro e mem
    rcases List.mem_cons.mp mem with rfl | mem
    · refine late_of_disconnect ?_
      have kept := retire_requests (c := { c with teardown := none }) (i := t.session)
      exact kept ▸ asked
    · rw [ending e mem]
      trivial

/-! ## The runs after a disconnect -/

/-- What has become of a connection since its first disconnect was called. -/
structure Down (before c : Connection) (call : Nat) : Prop where
  sound : Sound c
  cancelled : c.cancelled = true
  length : c.sessions.length = before.sessions.length
  attempts : c.attempts = before.attempts
  asked : (call, .disconnect) ∈ requests c.history
  grown : ∃ later, c.history = later ++ before.history ∧
    (∀ e ∈ later, Late (requests c.history) e.what) ∧
    ∀ moment outcome, ⟨moment, .returned call outcome⟩ ∈ later → c.state = .closed

/-- Every step goes on from the first disconnect: no session, no attempt and no message more. -/
theorem Down.step {before c' : Connection} {call : Nat} (down : Down before c call) {a : Action}
    (stepped : c.step a = some c') : Down before c' call := by
  have m := move_of_step down.sound stepped
  have winds := m.winds down.sound down.cancelled
  have more : ∀ q ∈ requests c.history, q ∈ requests c'.history := by
    rw [m.requests down.sound]
    exact fun q asked => List.mem_append_right _ asked
  obtain ⟨later, grown, late, closed⟩ := down.grown
  obtain ⟨new, grown', late', closed'⟩ := winds.grown
  refine ⟨down.sound.move m, winds.cancelled, winds.length.trans down.length,
    winds.attempts.trans down.attempts, more _ down.asked, new ++ later, ?_, ?_, ?_⟩
  · rw [grown', grown, List.append_assoc]
  · intro e mem
    rcases List.mem_append.mp mem with mem | mem
    · exact late' e mem
    · exact (late e mem).mono more
  · intro moment outcome mem
    rcases List.mem_append.mp mem with mem | mem
    · exact closed' call down.asked moment outcome mem
    · rcases winds.state with same | closed'
      · rw [same]
        exact closed moment outcome mem
      · exact closed'

/-- The first disconnect itself: nothing is installed any more, and the connection is as it was, or
closed. -/
theorem down_of_disconnect (h : Sound c) (up : c.cancelled = false) :
    Down c c.disconnect c.fresh ∧
      (c.disconnect.state = c.state ∨ c.disconnect.state = .closed) := by
  have came := disconnecting h
  have sound := h.move came.move
  have asked : (c.fresh, .disconnect) ∈ requests c.disconnect.history := by
    rw [came.move.requests h]
    exact List.mem_cons_self
  generalize c.disconnect = c' at came sound asked
  cases came with
  | again gone =>
    rw [up] at gone
    cases gone
  | idle up idle =>
    refine ⟨⟨sound, rfl, rfl, rfl, asked, [_, _], rfl, ?_, fun _ _ _ => enter_closed_state⟩,
      .inr enter_closed_state⟩
    intro e mem
    rcases List.mem_cons.mp mem with rfl | mem
    · exact late_of_disconnect List.mem_cons_self
    · rw [List.mem_singleton.mp mem]
      trivial
  | waits teardown up installed own =>
    refine ⟨⟨sound, rfl, rfl, rfl, asked, [_], rfl, ?_, ?_⟩, .inl rfl⟩
    · intro e mem
      rw [List.mem_singleton.mp mem]
      trivial
    · intro moment outcome mem
      cases List.mem_singleton.mp mem

/-- A run goes on from the first disconnect in the same way. -/
theorem Down.after {before c' : Connection} {call : Nat} (down : Down before c call)
    {as : List Action} (run : c.after as = some c') : Down before c' call :=
  after_induction (P := (Down before · call)) (fun down stepped => down.step stepped) down run

/-- An action is possible, and ends a call as closed. -/
def Closes (c : Connection) (call : Nat) (a : Action) : Prop :=
  ∃ c', c.step a = some c' ∧ ⟨c.now, .returned call (.error .closed)⟩ ∈ c'.history

/-- A dial of a caller ends as closed: at its next look, or when its TLS material is there. -/
theorem closes_of_dialer (h : Sound c) (gone : c.cancelled = true) {d : Dialer}
    (mem : d ∈ c.dialers) (caller : d.byCaller = true) :
    Closes c d.number (.lookDialer d.number) ∨
      ∀ result, Closes c d.number (.load d.number result) := by
  have found := h.dialer?_mem mem
  have closes : ⟨c.now, .returned d.number (.error .closed)⟩ ∈
      ((c.dropDialer d.number).dialClosed d.number d.byCaller).history := by
    rw [Connection.dialClosed, if_pos caller]
    exact List.mem_cons_self
  cases waiting : d.stage with
  | sleeping due =>
    have redial := h.sleeping d mem due waiting
    rw [caller] at redial
    cases redial
  | handshaking deadline =>
    refine .inl ⟨_, ?_, closes⟩
    rw [step, found, Option.bind_some, lookDialer, waiting]
    simp only [gone, if_true]
  | loading =>
    refine .inr fun result => ⟨_, ?_, closes⟩
    have loading : c.loading? d.number = some d := by
      rw [loading?, found, Option.filter_some, waiting]
      rfl
    rw [step, loading, Option.map_some]
    unfold Connection.loaded
    cases result with
    | error e => exact congrArg some (dialFailed_gone (c := c.dropDialer d.number) gone _ _ e)
    | ok _ => exact congrArg some (if_pos gone)

/-- A call to connect after the connection went down ends at once, as closed. -/
theorem closes_of_connect (gone : c.cancelled = true) : Closes c c.fresh .connect := by
  have refused : c.connect = (c.begin .connect).answer c.fresh (.error .closed) := if_pos gone
  refine ⟨c.connect, rfl, ?_⟩
  rw [refused]
  exact List.mem_cons_self

/-- A connection that is closed stays closed. -/
theorem closed_after (closed : c.state = .closed) (h : Sound c) {as : List Action}
    {c' : Connection} (run : c.after as = some c') : c'.state = .closed := by
  have keeps : Sound c' ∧ c'.cancelled = true ∧ c'.state = .closed := by
    refine after_induction (P := fun c => Sound c ∧ c.cancelled = true ∧ c.state = .closed) ?_
      ⟨h, h.closed closed, closed⟩ run
    rintro c a c' ⟨h, gone, closed⟩ stepped
    have m := move_of_step h stepped
    have winds := m.winds h gone
    refine ⟨h.move m, winds.cancelled, ?_⟩
    rcases winds.state with same | closed'
    · rw [same]
      exact closed
    · exact closed'
  exact keeps.2.2

/-- Whatever a connection does when it is disconnected for the first time, and in whatever order
things happen from then on: no session is installed, and the observer is told of none and given no
message; no handshake begins, and no attempt is counted. The state changes at most to closed. A call
that connects, made before or since, returns nothing but that the connection is closed; while it has
not returned it can, at the next look of its dial or with its TLS material. And once the disconnect
has returned, the connection is closed for good. -/
theorem disconnect_closes {settings : ConnectionSettings} {e : Connection} {as : List Action}
    (reachable : Reachable settings c) (first : c.cancelled = false)
    (run : c.disconnect.after as = some e) :
    e.sessions.length = c.sessions.length ∧ e.slot = none ∧ e.attempts = c.attempts ∧
    (∃ later, e.history = later ++ c.history ∧
      (∀ moment s, ⟨moment, .observed s .connected⟩ ∉ later) ∧
      (∀ moment s payload, ⟨moment, .observed s (.message payload)⟩ ∉ later) ∧
      (∀ moment dialer, ⟨moment, .dialing dialer⟩ ∉ later) ∧
      (∀ moment call outcome, ⟨moment, .returned call outcome⟩ ∈ later →
        (call, .connect) ∈ requests e.history → outcome = .error .closed) ∧
      ∀ moment outcome, ⟨moment, .returned c.fresh outcome⟩ ∈ later →
        ∀ bs e', e.after bs = some e' → e'.state = .closed) ∧
    (∀ call, (call, .connect) ∈ requests e.history →
      (∃ outcome, (call, outcome) ∈ outcomes e.history) ∨
        Closes e call (.lookDialer call) ∨ ∀ result, Closes e call (.load call result)) ∧
    Closes e e.fresh .connect ∧
    (c.disconnect.state = c.state ∨ c.disconnect.state = .closed) ∧
    ∀ a e', e.step a = some e' → e'.state = e.state ∨ e'.state = .closed := by
  obtain ⟨begun, changed⟩ := down_of_disconnect reachable.sound first
  have down := begun.after run
  have h := down.sound
  have gone := down.cancelled
  have taken_down : Reachable settings c.disconnect := .step .disconnect reachable rfl
  have later_reachable := taken_down.after run
  obtain ⟨later, grown, late, closed⟩ := down.grown
  refine ⟨down.length, h.empty gone, down.attempts,
    ⟨later, grown, fun _ _ mem => late _ mem, fun _ _ _ mem => late _ mem,
      fun _ _ mem => late _ mem, ?_, ?_⟩, ?_, closes_of_connect gone, changed, ?_⟩
  · intro moment call outcome mem asked
    rcases late _ mem with closed | ⟨request, other, asked'⟩
    · exact closed
    · exact absurd (h.request_unique asked' asked) other
  · intro moment outcome mem bs e' run'
    exact closed_after (closed moment outcome mem) h run'
  · intro call asked
    rcases later_reachable.held asked with returned | ⟨d, mem, rfl, caller⟩
    · exact .inl returned
    · exact .inr (closes_of_dialer h gone mem caller)
  · intro a e' stepped
    exact ((move_of_step h stepped).winds h gone).state

/-- A disconnect with a session installed and a dial that goes on. -/
theorem disconnect_closes_live_session : ∃ c e,
    (new plain).after [.connect, .connect, .dial 0 (.ok ())] = some c ∧ c.cancelled = false ∧
    c.disconnect.after [.lookDialer 1, .connect, .lookReader 0, .lookWriter 0, .socket 0 (.ok ()),
      .lookKeeper 0, .lookTeardown] = some e ∧
    e.state = .closed ∧ e.sessions.length = c.sessions.length := by
  obtain ⟨c, run, reachable, outcome⟩ := @reachable_of_run plain
    [.connect, .connect, .dial 0 (.ok ())]
    (fun c => c.cancelled = false ∧ (c.disconnect.after [.lookDialer 1, .connect, .lookReader 0,
      .lookWriter 0, .socket 0 (.ok ()), .lookKeeper 0, .lookTeardown]).map (·.state) =
        some .closed) (by decide +kernel)
  obtain ⟨first, ran⟩ := of_decide_eq_true outcome
  obtain ⟨e, run', closed⟩ := Option.map_eq_some_iff.mp ran
  exact ⟨c, e, run, first, run', closed, (disconnect_closes reachable first run').1⟩

end StationPool.Connection
