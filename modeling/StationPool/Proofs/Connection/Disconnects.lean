import StationPool.Proofs.Connection.Presence
import StationPool.Proofs.Connection.Sinking
import StationPool.Proofs.Connection.Vitals

/-!
# What a disconnect leaves when it returns

The first disconnect waits until the tasks of its session have stopped, and leaves the connection
closed with every session over. Every later disconnect returns at once, also while the first still
waits. Such a call leaves a session that goes on exactly if it finds one, and the session is over as
soon as one of its tasks has looked (`later_disconnects_return_early`).

While a connection is going down, that it is closed and that every session is over come to the same
(`Sinks`).
-/

namespace StationPool.Connection

variable {settings : ConnectionSettings} {c c' : Connection} {i : Nat} {a : Action}

/-- The connection is closed and every session is over. -/
def Shut (c : Connection) : Prop := c.state = .closed ∧ ∀ i, ¬ c.Live i

/-- What holds of a connection that is going down. -/
structure Sinks (c : Connection) : Prop where
  closed_iff : c.cancelled = true → (c.state = .closed ↔ ∀ i, ¬ c.Live i)
  /-- No session goes on but the one whose tasks the first disconnect waits for. -/
  awaited : ∀ t, c.teardown = some t → ∀ i, c.Live i → i = t.session

namespace Sinks

/-- A connection that is shut sinks no further. -/
theorem of_shut (shut : Shut c) : Sinks c where
  closed_iff _ := ⟨fun _ => shut.2, fun _ => shut.1⟩
  awaited _ _ i live := absurd live (shut.2 i)

/-- A connection that is up has not begun to sink. -/
theorem of_up (h : Sound c) (up : c.cancelled = false) : Sinks c where
  closed_iff gone := absurd (up.symm.trans gone) Bool.false_ne_true
  awaited t waiting := absurd (up.symm.trans (h.teardown t waiting).1) Bool.false_ne_true

/-- A step that no session ends in. -/
theorem kept (sinks : Sinks c) (state : c'.state = c.state)
    (cancelled : c'.cancelled = c.cancelled) (teardown : c'.teardown = c.teardown)
    (live : ∀ i, c'.Live i ↔ c.Live i) : Sinks c' where
  closed_iff gone := by
    rw [state, sinks.closed_iff (cancelled ▸ gone)]
    exact forall_congr' fun i => not_congr (live i).symm
  awaited t waiting i going := sinks.awaited t (teardown ▸ waiting) i ((live i).mp going)

end Sinks

/-! ## Steps -/

/-- While the connection is going down no session begins. -/
theorem live_before (h : Sound c) (gone : c.cancelled = true) (stepped : c.step a = some c')
    (live : c'.Live i) : c.Live i := by
  have length := ((move_of_step h stepped).winds h gone).length
  have there : i < c.sessions.length := by
    obtain ⟨s, at_, -⟩ := live
    rw [← length]
    exact (List.getElem?_eq_some_iff.mp at_).1
  exact live_of_step h stepped there live

/-- A task ends the session that goes on, and the connection is closed. -/
theorem shut_of_end (h : Sound c) (gone : c.cancelled = true) (live : c.Live i)
    (e : Option ConnectionError) {g : Session → Session} (tame : Tame c i g) :
    Shut ((c.endSession i e).modifySession i g) := by
  obtain ⟨sessions, -, -, closed, -⟩ := afterEnd_of_gone (c := c.vacate i) (i := i) gone e
  have ended : ∀ j, ¬ (c.endSession i e).Live j := by
    intro j
    rw [h.endSession_eq live, Live, sessions]
    exact h.not_live_vacate live j
  refine ⟨?_, fun j lives => ?_⟩
  · show (c.endSession i e).state = .closed
    rw [h.endSession_eq live]
    exact closed
  · obtain ⟨s, at_, going⟩ := live
    refine ended j ((live_modifySession fun s' at' => ?_).mp lives)
    rw [h.finished_of_end at_ going at']
    exact (tame s at_).1.ended

/-- The tasks of the session that goes on have stopped, or were stopped. -/
theorem shut_of_tornDown {t : Teardown} {g : Session → Session} (sinks : Sinks c)
    (waiting : c.teardown = some t) (close : ∀ s : Session, s.Close (g s))
    (before : ∀ i, ((c.finishTeardown t).modifySession t.session g).Live i → c.Live i) :
    Shut ((c.finishTeardown t).modifySession t.session g) := by
  refine ⟨enter_closed_state, fun i live => ?_⟩
  obtain rfl := sinks.awaited t waiting i (before i live)
  have retired : ({ c with teardown := none }.retire t.session).Live t.session :=
    (live_modifySession fun s _ => (close s).ended).mp live
  exact not_live_retire retired

/-- The first disconnect finds no session. -/
theorem shut_of_idle (h : Sound c) (up : c.cancelled = false) (idle : c.slot = none) :
    Shut ({ c.begin .disconnect with cancelled := true, slot := none }.closeDown c.fresh) := by
  refine ⟨enter_closed_state, fun i live => ?_⟩
  cases (h.installed up i live).symm.trans idle

/-- The first disconnect closes the connection at once, or leaves its session to the tasks. -/
theorem sinks_of_disconnect (h : Sound c) (up : c.cancelled = false) : Sinks c.disconnect := by
  have came := disconnecting h
  generalize c.disconnect = c' at came
  cases came with
  | again gone => exact absurd (up.symm.trans gone) Bool.false_ne_true
  | idle _ idle => exact .of_shut (shut_of_idle h up idle)
  | @waits i teardown _ installed own =>
    have live := h.slot_live i installed
    refine ⟨fun _ => iff_of_false (h.unclosed up) fun none_ => none_ i live, ?_⟩
    intro t waiting j lives
    rw [(own t waiting).2]
    exact h.live_unique lives live

/-- Every step keeps a connection sinking until it is shut. -/
theorem Sinks.step (sinks : Sinks c) (h : Sound c) (stepped : c.step a = some c') : Sinks c' := by
  cases gone : c.cancelled with
  | false =>
    by_cases first : a = .disconnect
    · subst first
      cases stepped
      exact sinks_of_disconnect h gone
    · exact .of_up (h.step stepped) ((h.cancelled_step stepped first).trans gone)
  | true =>
    have up {p : Prop} (up : c.cancelled = false) : p :=
      absurd (up.symm.trans gone) Bool.false_ne_true
    have before : ∀ i, c'.Live i → c.Live i := fun i => live_before h gone stepped
    cases move_of_step h stepped with
    | refused => exact sinks.kept rfl rfl rfl fun _ => .rfl
    | unfit _ going => exact up going
    | loads going => exact up going
    | dials _ going => exact up going
    | redialLoads _ _ going => exact up going
    | redialDials _ _ _ going => exact up going
    | loaded _ _ going => exact up going
    | dialClosed own mem =>
      unfold Connection.dialClosed
      split <;> exact sinks.kept rfl rfl rfl fun _ => .rfl
    | callerFails _ _ _ _ going => exact up going
    | redialFails _ _ _ _ going => exact up going
    | callerInstalls _ _ going => exact up going
    | redialInstalls _ _ going => exact up going
    | arrives item there =>
      exact sinks.kept rfl rfl rfl fun _ => live_modifySession fun _ _ => rfl
    | delivers _ _ going => exact up going
    | ends e own live tame => exact .of_shut (shut_of_end h gone live e tame)
    | sends quiet =>
      exact sinks.kept quiet.state quiet.cancelled quiet.teardown fun _ => quiet.live
    | quiet look quiet =>
      exact sinks.kept quiet.state quiet.cancelled quiet.teardown fun _ => quiet.live
    | disconnectsAgain => exact sinks.kept rfl rfl rfl fun _ => .rfl
    | disconnectsIdle going => exact up going
    | disconnects _ going => exact up going
    | tornDown waiting close => exact .of_shut (shut_of_tornDown sinks waiting close before)

/-- In every reachable state a connection is up, sinks, or is shut. -/
theorem Reachable.sinks (reachable : Reachable settings c) : Sinks c := by
  induction reachable with
  | new => exact .of_up (sound_new settings) rfl
  | step a before stepped ih => exact ih.step before.sound stepped

/-! ## Returns -/

/-- A disconnect that returns leaves the connection closed and every session over, unless the
connection is going down at its call and a session goes on. -/
theorem shut_iff_of_returned (reachable : Reachable settings c) (stepped : c.step a = some c')
    {call : Nat} {o : Outcome} (asked : (call, .disconnect) ∈ requests c'.history)
    (returned : (call, o) ∈ outcomes c'.history) (now : (call, o) ∉ outcomes c.history) :
    o = .ok () ∧ (Shut c' ↔ ¬ (a = .disconnect ∧ c.cancelled = true ∧ ∃ i, c.Live i)) := by
  have h := reachable.sound
  have sinks := reachable.sinks
  obtain ⟨outs, grown, all⟩ := answers_of_step stepped
  have new : (call, o) ∈ outs := (List.mem_append.mp (grown ▸ returned)).resolve_right now
  have served := served_of_answered h stepped asked (all _ new).1
  have first {c₁ : Connection} {call' : Nat}
      (answered : outcomes c₁.history = (call', .ok ()) :: outcomes c.history)
      (returned : (call, o) ∈ outcomes c₁.history) : o = .ok () := by
    rw [answered] at returned
    rcases List.mem_cons.mp returned with last | old
    · exact (Prod.mk.inj last).2
    · exact absurd old now
  cases a with
  | disconnect =>
    cases stepped
    have came := disconnecting h
    generalize c.disconnect = c' at came returned
    cases came with
    | again gone =>
      refine ⟨first rfl returned, ?_⟩
      constructor
      · rintro ⟨-, none_⟩ ⟨-, -, i, live⟩
        exact none_ i live
      · intro still
        have none_ : ∀ i, ¬ c.Live i := fun i live => still ⟨rfl, gone, i, live⟩
        exact ⟨(sinks.closed_iff gone).mpr none_, none_⟩
    | idle up idle =>
      refine ⟨first rfl returned, iff_of_true (shut_of_idle h up idle) ?_⟩
      rintro ⟨-, gone, -⟩
      exact absurd (up.symm.trans gone) Bool.false_ne_true
    | waits => exact absurd returned now
  | lookTeardown =>
    obtain ⟨t, waiting, looked⟩ := Option.bind_eq_some_iff.mp stepped
    obtain ⟨gone, -⟩ := h.teardown t waiting
    have before : ∀ i, c'.Live i → c.Live i := fun i => live_before h gone stepped
    obtain ⟨g, close, rfl⟩ := tornDown_of_look looked
    have answered : outcomes (c.finishTeardown t).history =
        (t.call, .ok ()) :: outcomes c.history :=
      congrArg _ (Posted.retire (c := { c with teardown := none }) t.session).outcomes
    refine ⟨first answered returned, iff_of_true ?_ nofun⟩
    exact shut_of_tornDown sinks waiting close before
  | _ => exact served.elim

/-- One look of its reader, and the session that goes on is over. -/
theorem shut_of_look (reachable : Reachable settings c) (gone : c.cancelled = true)
    (live : c.Live i) : ∃ c', c.step (.lookReader i) = some c' ∧ Shut c' := by
  have h := reachable.sound
  obtain ⟨c', stepped⟩ := Option.isSome_iff_exists.mp (reader_notices h live gone)
  have ended : ¬ c'.Live i := by
    obtain ⟨s, -, looked⟩ := Option.bind_eq_some_iff.mp stepped
    have cut : c.isCut s = true := by rw [isCut, gone, Bool.true_or]
    unfold lookReader at looked
    split at looked
    · cases looked
    · rw [if_pos cut] at looked
      cases looked
      exact not_live_of_end (f := ({ · with reader := .stopped })) h (fun _ => rfl)
        (fun _ => rfl) none
  have none_ : ∀ j, ¬ c'.Live j := by
    intro j lives
    rw [h.live_unique (live_before h gone stepped lives) live] at lives
    exact ended lives
  have gone' := ((move_of_step h stepped).winds h gone).cancelled
  exact ⟨c', stepped, ((reachable.sinks.step h stepped).closed_iff gone').mpr none_, none_⟩

/-- Whatever connects, sends, disconnects and tasks do beside it, and in whatever order: a disconnect
that returns succeeds. It leaves the connection closed and every session over, and so they stay; but
for a later disconnect that is called while a session goes on, which leaves it so. Until then the
connection is not closed. One look of its reader ends such a session, and wherever the connection
comes to rest it is closed and every session is over. -/
theorem later_disconnects_return_early (reachable : Reachable settings c) :
    (∀ a c', c.step a = some c' → ∀ call o, (call, .disconnect) ∈ requests c'.history →
      (call, o) ∈ outcomes c'.history → (call, o) ∉ outcomes c.history →
      o = .ok () ∧ (Shut c' ↔ ¬ (a = .disconnect ∧ c.cancelled = true ∧ ∃ i, c.Live i))) ∧
    (Shut c → ∀ as c', c.after as = some c' → Shut c') ∧
    (c.cancelled = true →
      (c.state = .closed ↔ ∀ i, ¬ c.Live i) ∧
      (∀ i, c.Live i → ∃ c', c.step (.lookReader i) = some c' ∧ Shut c') ∧
      (c.isSettled = true → Shut c)) := by
  have h := reachable.sound
  have sinks := reachable.sinks
  refine ⟨fun a c' stepped call o => shut_iff_of_returned reachable stepped, ?_, fun gone =>
    ⟨sinks.closed_iff gone, fun i => shut_of_look reachable gone, fun settled => ?_⟩⟩
  · intro shut as c' run
    have closed := closed_after shut.1 h run
    have later := reachable.after run
    exact ⟨closed, (later.sinks.closed_iff (later.sound.closed closed)).mp closed⟩
  · have none_ : ∀ i, ¬ c.Live i := fun i live =>
      absurd ((up_of_settled h settled live).symm.trans gone) Bool.false_ne_true
    exact ⟨(sinks.closed_iff gone).mpr none_, none_⟩

/-- Two disconnects, one after the other, of a connection with a session. -/
def doubled : List Action := [.connect, .dial 0 (.ok ()), .disconnect, .disconnect]

/-- Two disconnects at once: the second returns while the state is connected and the session lives,
and one look of the reader later the connection is shut. -/
theorem later_disconnects_return_early_when_doubled : ∃ c, (new plain).after doubled = some c ∧
    outcomes c.history = [(2, .ok ()), (0, .ok ())] ∧ c.state = .connected ∧ c.Live 0 ∧
    ∃ c', c.step (.lookReader 0) = some c' ∧ Shut c' := by
  obtain ⟨c, run, reachable, outcome⟩ := @reachable_of_run plain doubled
    (fun c => outcomes c.history = [(2, .ok ()), (0, .ok ())] ∧ c.state = .connected ∧
      c.fates = [false] ∧ c.cancelled = true) (by decide +kernel)
  obtain ⟨ended, connected, fates, gone⟩ := of_decide_eq_true outcome
  have live : c.Live 0 := by
    rw [live_iff_fates, fates]
    rfl
  obtain ⟨-, -, down⟩ := later_disconnects_return_early reachable
  exact ⟨c, run, ended, connected, live, (down gone).2.1 0 live⟩

/-- The second disconnect has returned, and the connection is connected. -/
theorem doubled_disconnect_leaves_session : ¬ ∀ (settings : ConnectionSettings) (c : Connection)
    (call : Nat), Reachable settings c → (call, .disconnect) ∈ requests c.history →
    (call, .ok ()) ∈ outcomes c.history → Shut c := by
  intro closes
  obtain ⟨c, run, reachable, outcome⟩ := @reachable_of_run plain doubled
    (fun c => (2, .disconnect) ∈ requests c.history ∧ (2, .ok ()) ∈ outcomes c.history ∧
      c.state = .connected) (by decide +kernel)
  obtain ⟨asked, returned, connected⟩ := of_decide_eq_true outcome
  cases connected.symm.trans (closes plain c 2 reachable asked returned).1

end StationPool.Connection
