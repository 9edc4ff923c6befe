import StationPool.Proofs.Connection.Views

/-!
# The vocabulary of a connection

Every step of a connection is put together from a few things that happen: a call is made or
answered, the installed session gives way, a new one takes the empty slot, a task ends its session,
a dial fails, a redial is scheduled. This module says what each of them does where the branches of
its definition are settled, so that no later proof opens them again.

Three facts carry it. A session that is over is ended no second time (`endSession_of_over`). To
install a session in the place of another is to let the other give way and to take the empty slot
(`install_of_slot`). And a task that changes its session before it ends it might as well change it
afterwards (`endSession_modifySession`).
-/

namespace StationPool.Connection

variable {c : Connection} {i j : Nat}

/-! ## Sessions that change -/

/-- A change of a session that does not end it ends no other. -/
theorem live_modifySession {f : Session → Session}
    (keeps : ∀ s, c.sessions[j]? = some s → (f s).ended = s.ended) :
    (c.modifySession j f).Live i ↔ c.Live i := by
  have same : (c.modifySession j f).fates = c.fates := by
    simp only [fates, modifySession]
    apply List.ext_getElem?
    intro k
    simp only [List.getElem?_map, List.getElem?_modify]
    by_cases own : j = k
    · subst own
      cases at_ : c.sessions[j]? with
      | none => rfl
      | some s => simp [keeps s at_]
    · simp [own]
  simp only [live_iff_fates, same]

/-- Two changes of one session are one. -/
theorem modifySession_modifySession (f g : Session → Session) :
    (c.modifySession i f).modifySession i g = c.modifySession i (g ∘ f) := by
  simp only [modifySession, List.modify_modify_eq]

/-- Changing nothing about a session is no change. -/
theorem modifySession_id : c.modifySession i id = c := by
  simp only [modifySession, List.modify_id]

/-- The installed session is over, and nothing is installed. -/
def vacate (c : Connection) (i : Nat) : Connection := { c.closeBooks i with slot := none }

/-- The installed session gives way to a dial. -/
def giveWay (c : Connection) : Connection := (c.enter .connecting).retireCurrent

/-- The dial of a caller fails: the error is kept, told and answered. -/
def dialError (c : Connection) (call : Nat) (e : ConnectionError) : Connection :=
  ((c.fail none e).enter .error).answer call (.error e)

/-! ## States -/

/-- To enter a state is a matter of the state alone. -/
theorem enter_state (next : Lifecycle) : (c.enter next).state = c.state.enter next := rfl

/-- A connection that is not closed enters the state. -/
theorem enter_of_open (unclosed : c.state ≠ .closed) (next : Lifecycle) :
    (c.enter next).state = next :=
  Lifecycle.enter_eq_of_ne_closed unclosed next

/-- Every connection may be closed. -/
theorem enter_closed_state : (c.enter .closed).state = .closed := by
  rw [enter_state]
  cases c.state <;> rfl

/-- Of all states only the closed one is terminal. -/
theorem not_isTerminal (unclosed : c.state ≠ .closed) : c.state.isTerminal = false := by
  cases h : c.state <;> first | rfl | exact absurd h unclosed

/-! ## Giving way -/

/-- A session that goes on and gives way is over, and the observer is told of no error. -/
theorem retire_of_live (live : c.Live i) :
    c.retire i = (c.closeBooks i).tell (some i) (.disconnected none) := by
  obtain ⟨s, at_, going⟩ := live
  simp only [retire, at_, going, Bool.false_eq_true, if_false]

/-- A session that is over has given way already. -/
theorem retire_of_over (dead : ¬ c.Live i) : c.retire i = c := by
  unfold retire
  cases at_ : c.sessions[i]? with
  | none => rfl
  | some s =>
    cases ended : s.ended with
    | true => simp only [ended, if_true]
    | false => exact absurd ⟨s, at_, ended⟩ dead

/-- Where no session is installed none gives way. -/
theorem retireCurrent_of_empty (empty : c.slot = none) : c.retireCurrent = c := by
  simp only [retireCurrent, empty]

/-- The installed session that goes on is taken out, it is over, and the observer is told. -/
theorem retireCurrent_of_slot (installed : c.slot = some i) (live : c.Live i) :
    c.retireCurrent = (c.vacate i).tell (some i) (.disconnected none) := by
  have live' : ({ c with slot := none } : Connection).Live i := live
  simp only [retireCurrent, installed, retire_of_live live']
  rfl

/-- What a session that gives way leaves alone. -/
structure Beside (c c' : Connection) : Prop where
  settings : c'.settings = c.settings
  state : c'.state = c.state
  attempts : c'.attempts = c.attempts
  cancelled : c'.cancelled = c.cancelled
  dialers : c'.dialers = c.dialers
  fresh : c'.fresh = c.fresh

/-- A session that gives way leaves everything alone but the session, the counts and the history. -/
theorem beside_retire : Beside c (c.retire i) := by
  unfold retire
  split
  · exact ⟨rfl, rfl, rfl, rfl, rfl, rfl⟩
  · split <;> exact ⟨rfl, rfl, rfl, rfl, rfl, rfl⟩

/-- So does the installed one, whose place is empty afterwards. -/
theorem beside_retireCurrent : Beside c c.retireCurrent := by
  unfold retireCurrent
  split
  · exact ⟨rfl, rfl, rfl, rfl, rfl, rfl⟩
  · exact { beside_retire (c := { c with slot := none }) with }

/-- A session can give way without leaving its place; a dial takes it out first. -/
theorem retire_slot : (c.retire i).slot = c.slot := by
  unfold retire
  split
  · rfl
  · split <;> rfl

/-- After the installed session has given way, its place is empty. -/
theorem retireCurrent_slot : c.retireCurrent.slot = none := by
  cases installed : c.slot with
  | none =>
    rw [retireCurrent_of_empty installed]
    exact installed
  | some i =>
    simp only [retireCurrent, installed]
    exact retire_slot

/-- It is all the same whether a session gives way before a state is entered or after. -/
theorem retire_enter (next : Lifecycle) : (c.enter next).retire i = (c.retire i).enter next := by
  unfold retire
  cases at_ : c.sessions[i]? with
  | none => simp only [enter, at_]
  | some s => cases ended : s.ended <;> simp only [enter, at_, ended] <;> rfl

/-- It does not matter whether a dial is announced before the installed session gives way. -/
theorem giveWay_eq : c.giveWay = c.retireCurrent.enter .connecting := by
  cases installed : c.slot with
  | none =>
    have empty : (c.enter .connecting).slot = none := installed
    rw [giveWay, retireCurrent_of_empty empty, retireCurrent_of_empty installed]
  | some i =>
    have there : (c.enter .connecting).slot = some i := installed
    simp only [giveWay, retireCurrent, there, installed]
    exact retire_enter (c := { c with slot := none }) .connecting

/-- Giving way makes no call. -/
theorem retire_requests : requests (c.retire i).history = requests c.history := by
  unfold retire
  split
  · rfl
  · split <;> rfl

theorem retireCurrent_requests : requests c.retireCurrent.history = requests c.history := by
  unfold retireCurrent
  split
  · rfl
  · exact retire_requests (c := { c with slot := none })

theorem giveWay_requests : requests c.giveWay.history = requests c.history := by
  rw [giveWay_eq]
  exact retireCurrent_requests

/-! ## Taking the slot -/

/-- Two counts may be made in either order. -/
theorem bump_bump (a b : Int) (n : Option Int) :
    Metrics.bump a (Metrics.bump b n) = Metrics.bump b (Metrics.bump a n) := by
  cases n with
  | none => simp only [Metrics.bump, Int.add_comm]
  | some n => simp only [Metrics.bump, Int.add_assoc, Int.add_comm a]

/-- A new session in an empty slot. -/
theorem install_of_empty (empty : c.slot = none) (unclosed : c.state ≠ .closed) :
    c.install = { c with
      sessions := c.sessions ++ [c.newSession]
      slot := some c.sessions.length
      counters := { c.counters with connectedAt := true }
      metrics := { c.metrics with active := Metrics.bump 1 c.metrics.active }
      attempts := 0
      state := .connected
      history := ⟨c.now, .observed (some c.sessions.length) .connected⟩ :: c.history } := by
  simp only [install, empty, not_isTerminal unclosed, Bool.false_eq_true, if_false, enter,
    Lifecycle.enter_eq_of_ne_closed unclosed]
  rfl

/-- A new session in the place of another: the other gives way first. -/
theorem install_of_slot (installed : c.slot = some i) (live : c.Live i)
    (unclosed : c.state ≠ .closed) : c.install = c.retireCurrent.install := by
  obtain ⟨s, at_, going⟩ := live
  have bound : i < c.sessions.length := (List.getElem?_eq_some_iff.mp at_).1
  have found (new : Session) : (c.sessions ++ [new])[i]? = some s := by
    rw [List.getElem?_append_left bound, at_]
  have modified (f : Session → Session) (new : Session) :
      (c.sessions ++ [new]).modify i f = c.sessions.modify i f ++ [new] := by
    rw [List.modify_eq_take_cons_drop (by rw [List.length_append]; omega),
      List.modify_eq_take_cons_drop bound, List.take_append_of_le_length (Nat.le_of_lt bound),
      List.drop_append_of_le_length bound, List.getElem_append_left bound]
    simp only [List.append_assoc, List.cons_append]
  have unclosed' : ((c.vacate i).tell (some i) (.disconnected none)).state ≠ .closed := unclosed
  rw [retireCurrent_of_slot installed ⟨s, at_, going⟩, install_of_empty (by rfl) unclosed']
  simp only [install, installed, retire, found, going, Bool.false_eq_true, if_false, closeBooks,
    tell, note, modifySession, modified, not_isTerminal unclosed, enter, vacate, newSession,
    Lifecycle.enter_eq_of_ne_closed unclosed, List.length_modify, bump_bump (-1) 1]

/-! ## Redialing -/

/-- No attempt is left: the connection gives up. -/
theorem scheduleReconnect_of_spent (spent : c.settings.maxReconnectAttempts ≤ c.attempts) :
    c.scheduleReconnect =
      ({ c with lastError := some (.reconnectExhausted c.attempts) }.enter .error).tell none
        (.failed (.reconnectExhausted c.attempts)) := if_pos spent

/-- An attempt is left: a redial waits in its backoff. -/
theorem scheduleReconnect_of_left (left : ¬ c.settings.maxReconnectAttempts ≤ c.attempts)
    (unclosed : c.state ≠ .closed) :
    c.scheduleReconnect = { c with
      attempts := c.attempts + 1
      state := .reconnecting
      metrics := { c.metrics with reconnects := Metrics.bump 1 c.metrics.reconnects }
      dialers := c.dialers ++ [⟨c.fresh, false,
        .sleeping (c.now + (c.settings.backoff.delay (c.attempts + 1).toNat).nanos)⟩]
      fresh := c.fresh + 1 } := by
  simp only [scheduleReconnect, left, if_false, not_isTerminal unclosed, Bool.false_eq_true, enter,
    Lifecycle.enter_eq_of_ne_closed unclosed]

/-! ## Ending a session -/

/-- A session that is over does not end again. -/
theorem endSession_of_over {e : Option ConnectionError} (dead : ¬ c.Live i) :
    c.endSession i e = c := by
  unfold endSession
  cases at_ : c.sessions[i]? with
  | none => rfl
  | some s =>
    cases ended : s.ended with
    | true => simp only [ended, if_true]
    | false => exact absurd ⟨s, at_, ended⟩ dead

/-- The installed session ends. -/
theorem endSession_of_slot {e : Option ConnectionError} (installed : c.slot = some i)
    (up : c.cancelled = false) (live : c.Live i) :
    c.endSession i e = (c.vacate i).afterEnd i e := by
  obtain ⟨s, at_, going⟩ := live
  have slot : (c.closeBooks i).slot = some i := installed
  have freed : (if (c.closeBooks i).cancelled then some i else none) = none :=
    if_neg (by rw [closeBooks, modifySession, up]; exact Bool.false_ne_true)
  simp only [endSession, at_, going, Bool.false_eq_true, if_false, slot, if_true]
  rw [freed]
  rfl

/-- A session ends that the disconnect took out. -/
theorem endSession_of_empty {e : Option ConnectionError} (empty : c.slot = none)
    (live : c.Live i) : c.endSession i e = (c.vacate i).afterEnd i e := by
  obtain ⟨s, at_, going⟩ := live
  have slot : (c.closeBooks i).slot = none := empty
  have same : c.vacate i = c.closeBooks i := by
    unfold vacate
    rw [← slot]
  rw [same]
  simp only [endSession, at_, going, Bool.false_eq_true, if_false, slot]

/-- A redial is scheduled without a look at the sessions. -/
theorem scheduleReconnect_modifySession (f : Session → Session) :
    (c.modifySession i f).scheduleReconnect = c.scheduleReconnect.modifySession i f := by
  unfold scheduleReconnect
  by_cases spent : c.settings.maxReconnectAttempts ≤ c.attempts
  · rw [if_pos spent]
    exact if_pos spent
  · rw [if_neg spent]
    refine (if_neg spent).trans ?_
    cases terminal : c.state.isTerminal with
    | true => simp only [modifySession, terminal, if_true]
    | false => simp only [modifySession, terminal, Bool.false_eq_true, if_false, enter]

/-- What follows the end of a session, once the observer was told. -/
def settleEnd (c : Connection) : Connection :=
  if c.cancelled then c.enter .closed else c.scheduleReconnect

/-- Whatever follows the end of a session, the sessions, the slot and the calls are as they were. -/
theorem settleEnd_frame : c.settleEnd.sessions = c.sessions ∧ c.settleEnd.slot = c.slot ∧
    requests c.settleEnd.history = requests c.history := by
  unfold settleEnd scheduleReconnect
  split
  · exact ⟨rfl, rfl, rfl⟩
  · split
    · exact ⟨rfl, rfl, rfl⟩
    · dsimp only
      split <;> exact ⟨rfl, rfl, rfl⟩

/-- So is whatever follows the end of a session. -/
theorem settleEnd_modifySession (f : Session → Session) :
    (c.modifySession i f).settleEnd = c.settleEnd.modifySession i f := by
  unfold settleEnd
  cases gone : c.cancelled with
  | true => exact if_pos gone
  | false =>
    refine (if_neg (by rw [modifySession, gone]; exact Bool.false_ne_true)).trans ?_
    exact scheduleReconnect_modifySession f

/-- After a session was lost without an error the observer is told so, and the rest follows. -/
theorem afterEnd_none : c.afterEnd i none =
    ((c.enter .disconnected).tell (some i) (.disconnected none)).settleEnd := rfl

/-- After a session was lost by an error the observer is told of the error, then of the end. -/
theorem afterEnd_some (e : ConnectionError) : c.afterEnd i (some e) =
    (((c.enter .disconnected).fail (some i) e).tell (some i)
      (.disconnected (some e))).settleEnd := rfl

/-- What follows the end of a session leaves the sessions and the calls alone. -/
theorem afterEnd_frame (e : Option ConnectionError) : (c.afterEnd i e).sessions = c.sessions ∧
    (c.afterEnd i e).slot = c.slot ∧
    requests (c.afterEnd i e).history = requests c.history := by
  cases e with
  | none => exact settleEnd_frame
  | some e => exact settleEnd_frame

/-- It leaves the disconnect that waits alone. -/
theorem afterEnd_teardown (e : Option ConnectionError) :
    (c.afterEnd i e).teardown = c.teardown := by
  have settled {c : Connection} : c.settleEnd.teardown = c.teardown := by
    unfold settleEnd scheduleReconnect
    split
    · rfl
    · split
      · rfl
      · dsimp only
        split <;> rfl
  cases e with
  | none => exact settled
  | some e => exact settled

/-- A change of a session may be made before or after what follows an end. -/
theorem afterEnd_modifySession (f : Session → Session) (e : Option ConnectionError) :
    (c.modifySession i f).afterEnd j e = (c.afterEnd j e).modifySession i f := by
  cases e with
  | none =>
    rw [afterEnd_none, afterEnd_none]
    exact settleEnd_modifySession
      (c := (c.enter .disconnected).tell (some j) (.disconnected none)) f
  | some e =>
    rw [afterEnd_some, afterEnd_some]
    exact settleEnd_modifySession
      (c := ((c.enter .disconnected).fail (some j) e).tell (some j) (.disconnected (some e))) f

/-- The books of a session may be closed before or after a change that commutes with its end. -/
theorem closeBooks_modifySession {f : Session → Session}
    (commutes : ∀ s, f s.finish = (f s).finish) :
    (c.modifySession i f).closeBooks i = (c.closeBooks i).modifySession i f := by
  have swapped : Session.finish ∘ f = f ∘ Session.finish := funext fun s => (commutes s).symm
  have modified := congrArg (c.sessions.modify i) swapped
  rw [← List.modify_modify_eq, ← List.modify_modify_eq] at modified
  exact congrArg (fun sessions => ({ c with
    sessions
    counters := { c.counters with disconnectedAt := true }
    metrics := { c.metrics with active := Metrics.bump (-1) c.metrics.active } } : Connection))
    modified

/-- A task that changes its session and then ends it might as well change it afterwards. -/
theorem endSession_modifySession {f : Session → Session} (keeps : ∀ s, (f s).ended = s.ended)
    (commutes : ∀ s, f s.finish = (f s).finish) (e : Option ConnectionError) :
    (c.modifySession i f).endSession i e = (c.endSession i e).modifySession i f := by
  by_cases live : c.Live i
  · obtain ⟨s, at_, going⟩ := live
    have found : (c.modifySession i f).sessions[i]? = some (f s) := by
      simp only [modifySession, List.getElem?_modify_eq, at_, Option.map_eq_map, Option.map_some]
    have slot : ((c.closeBooks i).modifySession i f).slot = (c.closeBooks i).slot := rfl
    simp only [endSession, found, at_, keeps, going, Bool.false_eq_true, if_false,
      closeBooks_modifySession commutes, slot]
    cases (c.closeBooks i).slot with
    | none => exact afterEnd_modifySession f e
    | some j =>
      by_cases own : j = i
      · simp only [own, if_true]
        exact afterEnd_modifySession (c := { c.closeBooks i with
          slot := if (c.closeBooks i).cancelled then some i else none }) f e
      · simp only [own, if_false]
        rfl
  · have dead : ¬ (c.modifySession i f).Live i := fun h => live ((live_modifySession fun s _ => keeps s).mp h)
    rw [endSession_of_over live, endSession_of_over dead]

/-- So might the disconnect that takes a session down. -/
theorem finishTeardown_modifySession {f : Session → Session} {t : Teardown}
    (keeps : ∀ s, (f s).ended = s.ended) (commutes : ∀ s, f s.finish = (f s).finish) :
    (c.modifySession t.session f).finishTeardown t =
      (c.finishTeardown t).modifySession t.session f := by
  have retired {c : Connection} {i : Nat} :
      (c.modifySession i f).retire i = (c.retire i).modifySession i f := by
    by_cases live : c.Live i
    · have live' : (c.modifySession i f).Live i := (live_modifySession fun s _ => keeps s).mpr live
      rw [retire_of_live live, retire_of_live live', closeBooks_modifySession commutes]
      rfl
    · have dead : ¬ (c.modifySession i f).Live i :=
        fun h => live ((live_modifySession fun s _ => keeps s).mp h)
      rw [retire_of_over live, retire_of_over dead]
  exact congrArg (closeDown · t.call) (retired (c := { c with teardown := none }))

/-- Once a session is retired it is over. -/
theorem not_live_retire : ¬ (c.retire i).Live i := by
  by_cases live : c.Live i
  · rw [retire_of_live live]
    rintro ⟨s', at_, going⟩
    have found : (c.sessions.modify i Session.finish)[i]? = some s' := at_
    rw [List.getElem?_modify_eq] at found
    obtain ⟨s, _, rfl⟩ := Option.map_eq_some_iff.mp found
    cases going
  · rw [retire_of_over live]
    exact live

end StationPool.Connection
