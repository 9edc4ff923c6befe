import StationPool.Proofs.Connection.Clock
import StationPool.Proofs.Connection.Presence

/-!
# The schedule of redials

What follows the loss of a session while no caller connects or disconnects. The connection goes from
phase to phase: it is up, it waits for the k-th time, it dials for the k-th time, it has given up.
A `Leg` is one change of phase with its moment and what the observer is told of it; a `Course` is the
legs of a run. `Shows` says how a connection looks in a phase.

Every step of a connection that shows a phase takes a leg or stays, so every run has a course, and
how redials go is read off the legs: a wait lasts as long as the policy says, a failure leads to the
next wait until no attempt is left, a success leads up.
-/

namespace StationPool.Connection

variable {c c' : Connection} {i : Nat}

/-! ## Attempts -/

/-- The attempts are counted up to their limit, and a connected connection counts none. -/
structure Tallied (c : Connection) : Prop where
  bounded : c.attempts ≤ c.settings.maxReconnectAttempts
  connected : c.state = .connected → c.attempts = 0

/-- A word below another can be raised by one. -/
theorem UInt32.toNat_succ {a b : UInt32} (less : ¬ b ≤ a) : (a + 1).toNat = a.toNat + 1 := by
  rw [UInt32.le_iff_toNat_le] at less
  have := b.toNat_lt
  rw [UInt32.toNat_add]
  simp only [UInt32.reduceToNat]
  omega

/-- A count below a bound goes up by one without wrapping, and stays within the bound. -/
theorem UInt32.succ_le {a b : UInt32} (less : ¬ b ≤ a) : a + 1 ≤ b := by
  rw [UInt32.le_iff_toNat_le, UInt32.toNat_succ less]
  rw [UInt32.le_iff_toNat_le] at less
  omega

/-- To schedule a redial keeps the tally: an attempt more, if one is allowed, and else the end of
them. -/
theorem Tallied.scheduleReconnect (bounded : c.attempts ≤ c.settings.maxReconnectAttempts)
    (unclosed : c.state ≠ .closed) : Tallied c.scheduleReconnect := by
  have apart {c' : Connection} (state : c'.state = .error ∨ c'.state = .reconnecting) :
      c'.state = .connected → c'.attempts = 0 := by
    intro connected
    rw [connected] at state
    rcases state with error | reconnecting <;> contradiction
  refine ⟨?_, apart (scheduleReconnect_state unclosed)⟩
  by_cases spent : c.settings.maxReconnectAttempts ≤ c.attempts
  · rw [scheduleReconnect_of_spent spent]
    exact bounded
  · rw [scheduleReconnect_of_left spent unclosed]
    exact UInt32.succ_le spent

/-- The end of a session keeps the tally. An attempt is scheduled only while the connection is up.
-/
theorem Tallied.afterEnd (bounded : c.attempts ≤ c.settings.maxReconnectAttempts)
    (unclosed : c.cancelled = false → c.state ≠ .closed) (e : Option ConnectionError) :
    Tallied (c.afterEnd i e) := by
  have settled {c : Connection} (bounded : c.attempts ≤ c.settings.maxReconnectAttempts)
      (unclosed : c.cancelled = false → c.state ≠ .closed) : Tallied c.settleEnd := by
    refine ⟨?_, fun connected => absurd connected (settleEnd_state unclosed)⟩
    unfold settleEnd
    cases up : c.cancelled with
    | true => exact bounded
    | false => exact (Tallied.scheduleReconnect bounded (unclosed up)).bounded
  have entered (up : c.cancelled = false) : (c.enter .disconnected).state ≠ .closed := by
    rw [enter_of_open (unclosed up)]
    exact nofun
  cases e with
  | none => exact settled bounded entered
  | some e => exact settled bounded entered

/-- Once a connection has left its state, only the attempts count. -/
theorem Tallied.elsewhere {c' : Connection} (t : Tallied c) (settings : c'.settings = c.settings)
    (attempts : c'.attempts = c.attempts) (apart : c'.state ≠ .connected) : Tallied c' :=
  ⟨by rw [settings, attempts]; exact t.bounded, fun connected => absurd connected apart⟩

/-- What changes neither the settings nor the attempts nor the state keeps the tally. -/
theorem Tallied.kept {c' : Connection} (t : Tallied c) (settings : c'.settings = c.settings)
    (attempts : c'.attempts = c.attempts) (state : c'.state = c.state) : Tallied c' :=
  ⟨by rw [settings, attempts]; exact t.bounded,
    fun connected => attempts.trans (t.connected (state.symm.trans connected))⟩

/-- To make room for a dial keeps the tally. -/
theorem Tallied.giveWay (t : Tallied c) (h : Sound c) (up : c.cancelled = false) :
    Tallied c.giveWay := by
  have beside := beside_retireCurrent (c := c)
  have connecting := (h.giveWay_vacant up).2
  refine t.elsewhere giveWay_frame.1 ?_ ?_
  · rw [giveWay_eq]
    exact beside.attempts
  · rw [connecting]
    exact nofun

/-- A session that is installed starts the tally anew. -/
theorem Tallied.install (h : Sound c) (up : c.cancelled = false) : Tallied c.install := by
  rw [h.install_eq up, install_of_empty retireCurrent_slot (h.retireCurrent_unclosed up)]
  exact ⟨UInt32.zero_le, fun _ => rfl⟩

/-- A dial of a caller that fails keeps the tally. -/
theorem Tallied.dialError (t : Tallied c) (unclosed : c.state ≠ .closed) (call : Nat)
    (e : ConnectionError) : Tallied (c.dialError call e) := by
  refine t.elsewhere rfl rfl ?_
  have error : (c.dialError call e).state = .error := enter_of_open unclosed .error
  rw [error]
  exact nofun

/-- Every move keeps the tally of the attempts. -/
theorem Tallied.move (t : Tallied c) (h : Sound c) {a : Action} {c' : Connection}
    (move : Move c a c') : Tallied c' := by
  have dropped (d : Dialer) : Tallied (c.dropDialer d.number) := t.kept rfl rfl rfl
  have begun : Tallied (c.begin .connect) := t.kept rfl rfl rfl
  have closing {c' : Connection} (closed : c'.state = .closed) : c'.state ≠ .connected := by
    rw [closed]
    exact nofun
  cases move with
  | refused gone => exact t.kept rfl rfl rfl
  | unfit e up bad =>
    have way := begun.giveWay (h.begin .connect) up
    refine way.dialError ?_ c.fresh e
    rw [((h.begin .connect).giveWay_vacant up).2]
    exact nofun
  | loads up =>
    have way := begun.giveWay (h.begin .connect) up
    exact way.kept rfl rfl rfl
  | dials deadline up fit =>
    have way := begun.giveWay (h.begin .connect) up
    exact way.kept rfl rfl rfl
  | @redialLoads d mem redial up =>
    exact ((dropped d).giveWay (h.dropDialer d.number) up).kept rfl rfl rfl
  | @redialDials d deadline mem redial up =>
    exact ((dropped d).giveWay (h.dropDialer d.number) up).kept rfl rfl rfl
  | loaded deadline mem up fit => exact t.kept rfl rfl rfl
  | dialClosed own mem gone =>
    unfold Connection.dialClosed
    split <;> exact t.kept rfl rfl rfl
  | @callerFails d a e own mem caller up => exact (dropped d).dialError (h.unclosed up) d.number e
  | @redialFails d a e own mem redial up =>
    exact .scheduleReconnect (c := (c.dropDialer d.number).fail none e) t.bounded (h.unclosed up)
  | @callerInstalls d mem caller up fit =>
    exact (Tallied.install (h.dropDialer d.number) up).kept rfl rfl rfl
  | @redialInstalls d mem redial up fit => exact .install (h.dropDialer d.number) up
  | arrives item there => exact t.kept rfl rfl rfl
  | delivers at_ going up head => exact t.kept rfl rfl rfl
  | @ends i a g e own live tame =>
    rw [h.endSession_eq live]
    exact (Tallied.afterEnd (c := c.vacate i) t.bounded h.unclosed e).kept rfl rfl rfl
  | sends quiet =>
    exact t.kept quiet.settings quiet.attempts quiet.state
  | quiet look quiet => exact t.kept quiet.settings quiet.attempts quiet.state
  | disconnectsAgain gone => exact t.kept rfl rfl rfl
  | disconnectsIdle up idle => exact t.elsewhere rfl rfl (closing enter_closed_state)
  | disconnects teardown up installed own => exact t.kept rfl rfl rfl
  | @tornDown t' g waiting close =>
    have beside := beside_retire (c := { c with teardown := none }) (i := t'.session)
    exact t.elsewhere beside.settings beside.attempts (closing enter_closed_state)

/-- In every reachable state the attempts are within the limit. -/
theorem Reachable.tallied {settings : ConnectionSettings} (reachable : Reachable settings c) :
    Tallied c := by
  induction reachable with
  | new => exact ⟨UInt32.zero_le, fun _ => rfl⟩
  | step a before stepped ih => exact ih.move before.sound (move_of_step before.sound stepped)

/-- A connection keeps the settings it was made with. -/
theorem Reachable.settings_eq {settings : ConnectionSettings} (reachable : Reachable settings c) :
    c.settings = settings := by
  induction reachable with
  | new => rfl
  | step a before stepped ih => exact (settings_of_step stepped).trans ih

/-! ## Courses -/

/-- What happens to a session and to the dials that are to replace it. -/
inductive Incident where
  | lost
  /-- A backoff is over. -/
  | begins
  | fails (e : ConnectionError)
  | succeeds
  deriving DecidableEq

/-- Where a connection stands between two incidents. -/
inductive Phase where
  | up
  /-- The k-th wait, since a moment. -/
  | waiting (k since : Nat)
  /-- The k-th dial. -/
  | dialing (k : Nat)
  /-- No attempt is left. -/
  | spent

/-- An incident with its moment leads from a phase to the next; the observer is told errors. -/
inductive Leg (s : ConnectionSettings) :
    Phase → Nat × Incident → List ConnectionError → Phase → Prop where
  | lost (moment : Nat) (left : 0 < s.maxReconnectAttempts.toNat) :
      Leg s .up (moment, .lost) [] (.waiting 1 moment)
  | lost_for_good (moment : Nat) (none_ : s.maxReconnectAttempts.toNat = 0) :
      Leg s .up (moment, .lost) [.reconnectExhausted s.maxReconnectAttempts] .spent
  | begins (k since : Nat) :
      Leg s (.waiting k since) (since + (s.backoff.delay k).nanos, .begins) [] (.dialing k)
  | fails (k moment : Nat) (e : ConnectionError) (left : k < s.maxReconnectAttempts.toNat) :
      Leg s (.dialing k) (moment, .fails e) [e] (.waiting (k + 1) moment)
  | fails_for_good (k moment : Nat) (e : ConnectionError)
      (last : k = s.maxReconnectAttempts.toNat) :
      Leg s (.dialing k) (moment, .fails e) [e, .reconnectExhausted s.maxReconnectAttempts] .spent
  | succeeds (k moment : Nat) : Leg s (.dialing k) (moment, .succeeds) [] .up

/-- One leg after another. -/
inductive Course (s : ConnectionSettings) :
    Phase → List (Nat × Incident) → List ConnectionError → Phase → Prop where
  | stay (p : Phase) : Course s p [] [] p
  | leg {p q r : Phase} {m : Nat × Incident} {ms : List (Nat × Incident)}
      {es fs : List ConnectionError} (first : Leg s p m es q) (rest : Course s q ms fs r) :
      Course s p (m :: ms) (es ++ fs) r

/-- The dials that were made since the loss. -/
def Phase.made (limit : Nat) : Phase → Nat
  | .up => 0
  | .waiting k _ => k - 1
  | .dialing k => k
  | .spent => limit

/-- The dials that have failed since the loss. -/
def Phase.failed (limit : Nat) : Phase → Nat
  | .up => 0
  | .waiting k _ | .dialing k => k - 1
  | .spent => limit

/-- What the observer is told last. -/
def Phase.farewell (s : ConnectionSettings) : Phase → List ConnectionError
  | .spent => [.reconnectExhausted s.maxReconnectAttempts]
  | _ => []

/-- An attempt is under way, and it is one of those that are allowed. -/
def Phase.Trying (limit : Nat) : Phase → Prop
  | .waiting k _ | .dialing k => 1 ≤ k ∧ k ≤ limit
  | _ => False

/-- The dials that were begun. -/
def dials (ms : List (Nat × Incident)) : Nat := ms.countP (·.2 == .begins)

/-- The error of a dial that failed. -/
def Incident.error? : Incident → Option ConnectionError
  | .fails e => some e
  | _ => none

/-- The errors that dials failed with. -/
def failures (ms : List (Nat × Incident)) : List ConnectionError :=
  ms.filterMap (·.2.error?)

/-- A dial that begins is counted. -/
theorem dials_begins (moment : Nat) (ms : List (Nat × Incident)) :
    dials ((moment, .begins) :: ms) = dials ms + 1 := by
  simp [dials]

/-- A dial that fails was counted when it began. -/
theorem dials_fails (moment : Nat) (e : ConnectionError) (ms : List (Nat × Incident)) :
    dials ((moment, .fails e) :: ms) = dials ms := by
  simp [dials]

/-- The error of a dial that fails comes first among the failures. -/
theorem failures_fails (moment : Nat) (e : ConnectionError) (ms : List (Nat × Incident)) :
    failures ((moment, .fails e) :: ms) = e :: failures ms := rfl

namespace Course

variable {s : ConnectionSettings} {p q : Phase} {ms : List (Nat × Incident)}
  {es : List ConnectionError}

/-- Nothing follows once no attempt is left. -/
theorem of_spent (course : Course s .spent ms es q) : ms = [] ∧ es = [] ∧ q = .spent := by
  cases course with
  | stay => exact ⟨rfl, rfl, rfl⟩
  | leg first rest => cases first

/-- What the dials came to as long as none succeeded. -/
structure Tallies (s : ConnectionSettings) (before after dials : Nat)
    (failures es : List ConnectionError) (q : Phase) : Prop where
  made : dials + before = q.made s.maxReconnectAttempts.toNat
  failed : failures.length + after = q.failed s.maxReconnectAttempts.toNat
  told : es = failures ++ q.farewell s
  bounded : q.made s.maxReconnectAttempts.toNat ≤ s.maxReconnectAttempts.toNat

/-- A course without a success has made as many dials as the phases count, every one that failed was
told, and after the last of them the observer is told that there are no more. -/
theorem tallies (course : Course s p ms es q) (alone : ∀ m ∈ ms, m.2 ≠ .succeeds)
    (trying : p.Trying s.maxReconnectAttempts.toNat) :
    Tallies s (p.made s.maxReconnectAttempts.toNat) (p.failed s.maxReconnectAttempts.toNat)
      (dials ms) (failures ms) es q := by
  induction course with
  | stay p =>
    refine ⟨Nat.zero_add _, Nat.zero_add _, ?_, ?_⟩
    · cases p <;> first | rfl | exact trying.elim
    · cases p <;> simp only [Phase.made, Phase.Trying] at trying ⊢ <;> omega
  | @leg p q r m ms es fs first rest ih =>
    have later : ∀ m ∈ ms, m.2 ≠ .succeeds := fun m mem => alone m (List.mem_cons_of_mem _ mem)
    cases first with
    | lost moment left => exact trying.elim
    | lost_for_good moment none_ => exact trying.elim
    | succeeds k moment => exact absurd rfl (alone _ List.mem_cons_self)
    | begins k since =>
      obtain ⟨made, failed, told, bounded⟩ := ih later trying
      have one : 1 ≤ k := trying.1
      have made : dials ms + k = _ := made
      refine ⟨?_, failed, told, bounded⟩
      rw [← made, dials_begins]
      show dials ms + 1 + (k - 1) = dials ms + k
      omega
    | fails k moment e left =>
      obtain ⟨made, failed, told, bounded⟩ := ih later ⟨by omega, left⟩
      have one : 1 ≤ k := trying.1
      have failed : (failures ms).length + (k + 1 - 1) = _ := failed
      refine ⟨?_, ?_, by rw [told]; rfl, bounded⟩
      · rw [dials_fails]
        exact made
      · rw [← failed, failures_fails, List.length_cons]
        show (failures ms).length + 1 + (k - 1) = (failures ms).length + (k + 1 - 1)
        omega
    | fails_for_good k moment e last =>
      obtain ⟨rfl, rfl, rfl⟩ := of_spent rest
      have one : 1 ≤ k := trying.1
      refine ⟨?_, ?_, rfl, Nat.le_refl _⟩
      · rw [dials_fails]
        exact (Nat.zero_add k).trans last
      · rw [failures_fails]
        show 1 + (k - 1) = s.maxReconnectAttempts.toNat
        omega

/-- The same from the loss on. -/
theorem tallies_of_lost {moment : Nat} (course : Course s p ((moment, .lost) :: ms) es q)
    (alone : ∀ m ∈ ms, m.2 ≠ .succeeds) : Tallies s 0 0 (dials ms) (failures ms) es q := by
  cases course with
  | leg first rest =>
    cases first with
    | lost moment left => exact tallies rest alone ⟨Nat.le_refl 1, left⟩
    | lost_for_good moment none_ =>
      obtain ⟨rfl, rfl, rfl⟩ := of_spent rest
      exact ⟨none_.symm, none_.symm, rfl, Nat.le_refl _⟩

/-- A course leads through a phase between any two of its incidents. -/
theorem split {ns : List (Nat × Incident)} (course : Course s p (ns ++ ms) es q) :
    ∃ r fs gs, Course s p ns fs r ∧ Course s r ms gs q ∧ es = fs ++ gs := by
  induction ns generalizing p es with
  | nil => exact ⟨p, [], es, .stay p, course, rfl⟩
  | cons n ns ih =>
    cases course with
    | leg first rest =>
      obtain ⟨r, fs, gs, front, back, rfl⟩ := ih rest
      exact ⟨r, _, gs, .leg first front, back, (List.append_assoc _ _ _).symm⟩

end Course

/-! ## How a phase shows -/

/-- The settings of a connection, its reports, its session and its dials are those of another. -/
structure Alike (c c' : Connection) : Prop where
  settings : c'.settings = c.settings
  state : c'.state = c.state
  attempts : c'.attempts = c.attempts
  lastError : c'.lastError = c.lastError
  slot : c'.slot = c.slot
  cancelled : c'.cancelled = c.cancelled
  dialers : c'.dialers = c.dialers

/-- How a connection that is not going down looks in a phase. -/
def Looks (c : Connection) : Phase → Prop
  | .up => c.state = .connected ∧ c.attempts = 0 ∧ c.slot.isSome ∧ c.dialers = []
  | .waiting k since => c.state = .reconnecting ∧ c.attempts.toNat = k ∧ c.slot = none ∧
      since ≤ c.now ∧ c.now ≤ since + (c.settings.backoff.delay k).nanos ∧
      ∃ number, c.dialers =
        [⟨number, false, .sleeping (since + (c.settings.backoff.delay k).nanos)⟩]
  | .dialing k => c.state = .connecting ∧ c.attempts.toNat = k ∧ c.slot = none ∧
      ∃ number stage, c.dialers = [⟨number, false, stage⟩] ∧ ∀ due, stage ≠ .sleeping due
  | .spent => c.state = .error ∧ c.attempts = c.settings.maxReconnectAttempts ∧ c.slot = none ∧
      c.dialers = [] ∧
      c.lastError = some (.reconnectExhausted c.settings.maxReconnectAttempts)

/-- A connection that is not going down shows a phase: it looks as one does in that phase. -/
structure Shows (c : Connection) (p : Phase) : Prop where
  live : c.cancelled = false
  looks : c.Looks p

/-- The end of the backoff that a dial waits in. -/
def Stage.due? : Stage → Option Nat
  | .sleeping due => some due
  | _ => none

/-- The clock does not pass the end of a backoff. -/
def OnTime (c : Connection) (a : Action) : Prop :=
  a.passing = 0 ∨ ∀ d ∈ c.dialers, ∀ due ∈ d.stage.due?, c.now + a.passing ≤ due

/-- A phase that a connection shows goes on through a step in which the clock does not pass the end
of its backoff, if the step leaves all that the phase looks at. -/
theorem Shows.stays {p : Phase} (shows : Shows c p) (alike : Alike c c') {a : Action}
    (on_time : OnTime c a) (clock : c'.now = c.now + a.passing) : Shows c' p := by
  obtain ⟨settings, state, attempts, lastError, slot, cancelled, dialers⟩ := alike
  refine ⟨cancelled.trans shows.live, ?_⟩
  have looks := shows.looks
  cases p with
  | up => simpa [Looks, state, attempts, slot, dialers] using looks
  | dialing k => simpa [Looks, state, attempts, slot, dialers] using looks
  | spent => simpa [Looks, state, attempts, slot, dialers, lastError, settings] using looks
  | waiting k since =>
    obtain ⟨waiting, count, empty, later, early, number, one⟩ := looks
    have due : a.passing = 0 ∨
        c.now + a.passing ≤ since + (c.settings.backoff.delay k).nanos :=
      on_time.imp id fun all => all _ (by rw [one]; exact List.mem_singleton_self _) _ rfl
    refine ⟨state.trans waiting, attempts ▸ count, slot.trans empty, ?_, ?_, number, ?_⟩
    · omega
    · rw [settings]
      omega
    · rw [settings]
      exact dialers.trans one

/-! ## What the observer is told of dials -/

/-- The error that the observer was told of no session, but of a dial. -/
def dialError? : Option Nat × Observation → Option ConnectionError
  | (none, .failed e) => some e
  | _ => none

/-- The errors of dials that the observer was told, the last first. -/
def dialErrors (history : List Entry) : List ConnectionError := (told history).filterMap dialError?

/-- A quiet step tells of no error of a dial. -/
theorem Quiet.dialErrors (q : Quiet c c') :
    Connection.dialErrors c'.history = Connection.dialErrors c.history := by
  obtain ⟨new, grown, minor⟩ := q.history
  have silent : told new = [] := by
    refine List.filterMap_eq_nil_iff.mpr fun e mem => ?_
    have minor := minor e mem
    cases what : e.what with
    | observed s what' => rw [what] at minor; exact minor.elim
    | _ => rfl
  have told_ : told c'.history = told new ++ told c.history := by
    rw [grown]
    exact List.filterMap_append
  rw [Connection.dialErrors, told_, silent, List.nil_append]
  rfl

/-- A quiet step leaves all that a phase looks at. -/
theorem Quiet.alike (q : Quiet c c') : Alike c c' :=
  ⟨q.settings, q.state, q.attempts, q.lastError, q.slot, q.cancelled, q.dialers⟩

end StationPool.Connection
