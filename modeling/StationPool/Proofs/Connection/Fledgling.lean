import StationPool.Proofs.Connection.Closing

/-!
# Connections before their first session

A connection that was made, told once to connect, and has had no session since. It stays one with
every step, or its connect succeeds (`Fledgling.step`). A disconnect closes it at once, since it has
no tasks to wait for, and leaves it one (`Fledgling.disconnect`).
-/

namespace StationPool.Connection

variable {c c' : Connection} {call : Nat}

/-- To install a session makes no call and does not take the connection down. -/
theorem Sound.install_beside (h : Sound c) (up : c.cancelled = false) :
    c.install.fresh = c.fresh ∧ c.install.cancelled = c.cancelled := by
  rw [h.install_eq up,
    Connection.install_of_empty retireCurrent_slot (h.retireCurrent_unclosed up)]
  exact ⟨beside_retireCurrent.fresh, beside_retireCurrent.cancelled⟩

/-- There was no session yet, and nobody dials but one caller. -/
structure Fledgling (c : Connection) (call : Nat) : Prop where
  unborn : c.sessions = []
  empty : c.slot = none
  /-- Once it is going down it is closed. -/
  down : c.cancelled = true → c.state = .closed
  alone : ∀ d ∈ c.dialers, d.byCaller = true ∧ d.number = call
  asked : call < c.fresh
  idle : c.teardown = none

/-- The one caller still has the connection to itself, or its connect has succeeded. -/
def Pledged (c : Connection) (call : Nat) : Prop :=
  Fledgling c call ∨ call < c.fresh ∧ c.outcome? call = some (.ok ())

/-- A caller that has the connection to itself has called. -/
theorem Pledged.asked (pledged : Pledged c call) : call < c.fresh :=
  pledged.elim (·.asked) (·.1)

/-- A connect that has not succeeded leaves the connection as it was. -/
theorem Pledged.fledgling (pledged : Pledged c call) (unmet : c.outcome? call ≠ some (.ok ())) :
    Fledgling c call :=
  pledged.resolve_right fun met => unmet met.2

namespace Fledgling

/-- A dial that ends leaves the connection to its one caller. -/
theorem dropDialer (f : Fledgling c call) (number : Nat) : Fledgling (c.dropDialer number) call :=
  { f with alone := fun d mem => f.alone d (List.mem_filter.mp mem).1 }

/-- An answer to some call leaves the connection to its one caller. -/
theorem answer (f : Fledgling c call) (other : Nat) (outcome : Outcome) :
    Fledgling (c.answer other outcome) call :=
  { f with }

/-- The first connect of a new connection. -/
theorem connect (unborn : c.sessions = []) (empty : c.slot = none) (up : c.cancelled = false)
    (none_ : c.dialers = []) (idle : c.teardown = none) : Fledgling c.connect c.fresh := by
  have began : Fledgling ((c.begin .connect).enter .connecting) c.fresh :=
    ⟨unborn, empty, fun gone => absurd (up.symm.trans gone) nofun,
      fun d mem => absurd (none_ ▸ mem) List.not_mem_nil, Nat.lt_succ_self _, idle⟩
  have way : (c.begin .connect).giveWay = (c.begin .connect).enter .connecting :=
    retireCurrent_of_empty (c := (c.begin .connect).enter .connecting) empty
  have dialing (stage : Stage) :
      Fledgling (((c.begin .connect).enter .connecting).addDialer c.fresh true stage) c.fresh := by
    refine { began with alone := fun d mem => ?_ }
    rcases List.mem_append.mp mem with old | new
    · exact began.alone d old
    · rw [List.mem_singleton.mp new]
      exact ⟨rfl, rfl⟩
  rcases beginDial_cases (c := c.begin .connect) up c.fresh true with
    ⟨-, e, eq⟩ | eq | ⟨-, deadline, eq⟩
  · have same : c.connect = (c.begin .connect).giveWay.dialError c.fresh e := by
      rw [Connection.connect, eq, dialFailed_caller (c := (c.begin .connect).giveWay)
        (giveWay_frame.2.1.trans up)]
    rw [same, way]
    exact { began with down := fun gone => absurd (up.symm.trans gone) nofun }
  · rw [Connection.connect, eq, way]
    exact dialing .loading
  · rw [Connection.connect, eq, way]
    exact { dialing (.handshaking deadline) with }

/-- Another connection of the same kind, with no more dials. -/
theorem of_fewer (f : Fledgling c call) (sessions : c'.sessions = c.sessions)
    (slot : c'.slot = c.slot) (down : c'.cancelled = true → c'.state = .closed)
    (dialers : ∀ d ∈ c'.dialers, d.byCaller = true ∧ d.number = call)
    (fresh : c.fresh ≤ c'.fresh) (teardown : c'.teardown = c.teardown) : Fledgling c' call :=
  ⟨sessions.trans f.unborn, slot.trans f.empty, down, dialers,
    Nat.lt_of_lt_of_le f.asked fresh, teardown.trans f.idle⟩

/-- No session is there that could live. -/
theorem not_live (f : Fledgling c call) (i : Nat) : ¬ c.Live i := by
  rintro ⟨s, at_, -⟩
  rw [f.unborn] at at_
  cases at_

/-- With every step that is no call it stays as it is, or its connect succeeds. -/
theorem step (f : Fledgling c call) (h : Sound c) {a : Action} (look : a.request? = none)
    (stepped : c.step a = some c') : Pledged c' call := by
  cases move_of_step h stepped with
  | refused gone => cases look
  | unfit e up bad => cases look
  | loads up => cases look
  | dials deadline up fit => cases look
  | redialLoads mem redial up => exact absurd ((f.alone _ mem).1.symm.trans redial) nofun
  | redialDials deadline mem redial up => exact absurd ((f.alone _ mem).1.symm.trans redial) nofun
  | @loaded d deadline mem up fit =>
    refine .inl { f.dropDialer d.number with alone := fun d' mem' => ?_ }
    rcases List.mem_append.mp mem' with old | new
    · exact f.alone d' (List.mem_filter.mp old).1
    · rw [List.mem_singleton.mp new]
      exact f.alone d mem
  | @dialClosed d a own mem gone =>
    refine .inl ?_
    unfold Connection.dialClosed
    split
    · exact (f.dropDialer d.number).answer _ _
    · exact f.dropDialer d.number
  | @callerFails d a e own mem caller up =>
    exact .inl { f.dropDialer d.number with down := fun gone => absurd (up.symm.trans gone) nofun }
  | redialFails e own mem redial up => exact absurd ((f.alone _ mem).1.symm.trans redial) nofun
  | @callerInstalls d mem caller up fit =>
    have dropped := h.dropDialer d.number
    have answered : ((c.dropDialer d.number).install.answer d.number (.ok ())).outcome? call =
        some (.ok ()) := by
      rw [(f.alone d mem).2]
      simp [Connection.outcome?, Connection.answer, Connection.note]
    have asked : call < (c.dropDialer d.number).fresh := f.asked
    refine .inr ⟨?_, answered⟩
    rw [← (dropped.install_beside up).1] at asked
    exact asked
  | redialInstalls mem redial up fit => exact absurd ((f.alone _ mem).1.symm.trans redial) nofun
  | arrives item there =>
    rw [f.unborn] at there
    exact absurd there (Nat.not_lt_zero _)
  | delivers at_ going up head =>
    rw [f.unborn] at at_
    cases at_
  | ends e own live tame => exact absurd live (f.not_live _)
  | sends quiet => cases look
  | quiet look quiet =>
    refine .inl (f.of_fewer ?_ quiet.slot ?_ ?_ (Nat.le_of_eq quiet.fresh.symm) quiet.teardown)
    · have none_ := quiet.length
      rw [f.unborn, List.length_nil] at none_
      rw [List.eq_nil_of_length_eq_zero none_, f.unborn]
    · rw [quiet.cancelled, quiet.state]
      exact f.down
    · rw [quiet.dialers]
      exact f.alone
  | disconnectsAgain gone => cases look
  | disconnectsIdle up idle => cases look
  | disconnects teardown up installed own => cases look
  | tornDown waiting close =>
    rw [f.idle] at waiting
    cases waiting

/-- A disconnect finds nothing to wait for. -/
theorem disconnect (f : Fledgling c call) (h : Sound c) : Fledgling c.disconnect call := by
  have came := disconnecting h
  generalize c.disconnect = c' at came
  cases came with
  | again gone => exact { f with asked := Nat.lt_succ_of_lt f.asked }
  | idle up idle =>
    exact { f with
      empty := rfl
      down := fun _ => enter_closed_state
      asked := Nat.lt_succ_of_lt f.asked }
  | waits teardown up installed own => exact absurd (f.empty.symm.trans installed) nofun

end Fledgling

/-! ## What others do to a connection -/

/-- Nothing has become of a connection that a disconnect or the clock does not do: no earlier call
has ended. -/
structure Ages (c c' : Connection) : Prop where
  sound : Sound c'
  closed : c.state = .closed → c'.state = .closed
  cancelled : c.cancelled = true → c'.cancelled = true
  fresh : c.fresh ≤ c'.fresh
  outcome : ∀ call, call < c.fresh → c'.outcome? call = c.outcome? call
  fledgling : ∀ call, Fledgling c call → Fledgling c' call

namespace Ages

/-- A connection ages when nothing happens. -/
theorem refl (h : Sound c) : Ages c c :=
  ⟨h, id, id, Nat.le_refl _, fun _ _ => rfl, fun _ => id⟩

/-- To age twice is to age. -/
theorem trans {c'' : Connection} (first : Ages c c') (second : Ages c' c'') : Ages c c'' where
  sound := second.sound
  closed := second.closed ∘ first.closed
  cancelled := second.cancelled ∘ first.cancelled
  fresh := Nat.le_trans first.fresh second.fresh
  outcome call asked :=
    (second.outcome call (Nat.lt_of_lt_of_le asked first.fresh)).trans (first.outcome call asked)
  fledgling call := second.fledgling call ∘ first.fledgling call

/-- What a caller was promised holds while the connection ages: nobody else dials, and an answer
that was given stays. -/
theorem pledged (ages : Ages c c') (pledged : Pledged c call) : Pledged c' call :=
  pledged.imp (ages.fledgling call) fun ⟨asked, met⟩ =>
    ⟨Nat.lt_of_lt_of_le asked ages.fresh, (ages.outcome call asked).trans met⟩

end Ages

/-- What is closed stays closed. -/
theorem Sound.closed_step (h : Sound c) {a : Action} (stepped : c.step a = some c')
    (closed : c.state = .closed) : c'.state = .closed := by
  have winds := (move_of_step h stepped).winds h (h.closed closed)
  rcases winds.state with same | closed'
  · exact same.trans closed
  · exact closed'

/-- A connection ages when time passes. -/
theorem Sound.ages_advance (h : Sound c) (nanos : Nat) :
    Ages c { c with now := c.now + nanos } where
  sound := h.step (a := .advance nanos) rfl
  closed := id
  cancelled := id
  fresh := Nat.le_refl _
  outcome _ _ := rfl
  fledgling _ f := { f with }

/-- An answer to another call leaves what is known of a call. -/
theorem outcome?_answer {call other : Nat} {outcome : Outcome} (different : other ≠ call) :
    (c.answer other outcome).outcome? call = c.outcome? call := by
  simp [Connection.outcome?, Connection.answer, Connection.note, different]

/-- A disconnect ends no call but itself, and the connection is going down from then on. -/
theorem Sound.ages_disconnect (h : Sound c) :
    Ages c c.disconnect ∧ c.disconnect.cancelled = true := by
  have others {call : Nat} (earlier : call < c.fresh) : c.fresh ≠ call := by omega
  have sound := h.step (a := .disconnect) rfl
  have closed := h.closed_step (a := .disconnect) rfl
  have fledgling (call : Nat) (f : Fledgling c call) := f.disconnect h
  have came := disconnecting h
  generalize c.disconnect = c' at came sound closed fledgling
  have begun {call : Nat} : (c.begin .disconnect).outcome? call = c.outcome? call := rfl
  cases came with
  | again gone =>
    exact ⟨⟨sound, closed, fun _ => gone, Nat.le_succ _,
      fun call earlier => (outcome?_answer (others earlier)).trans begun, fledgling⟩, gone⟩
  | idle up idle =>
    exact ⟨⟨sound, closed, fun _ => rfl, Nat.le_succ _,
      fun call earlier => (outcome?_answer (others earlier)).trans begun, fledgling⟩, rfl⟩
  | waits teardown up installed own =>
    exact ⟨⟨sound, closed, fun _ => rfl, Nat.le_succ _, fun _ _ => begun, fledgling⟩, rfl⟩

/-- A connection ages by disconnects, as many as may be called. -/
theorem Sound.ages_disconnects (h : Sound c) {as : List Action} (same : ∀ a ∈ as, a = .disconnect)
    (run : c.after as = some c') : Ages c c' := by
  induction as generalizing c with
  | nil => cases run; exact .refl h
  | cons a as ih =>
    obtain ⟨rfl, others⟩ := List.forall_mem_cons.mp same
    have first := h.ages_disconnect.1
    exact first.trans (ih first.sound others run)

/-! ## Going down -/

/-- To schedule a redial does not take the connection down. -/
theorem scheduleReconnect_cancelled : c.scheduleReconnect.cancelled = c.cancelled := by
  unfold scheduleReconnect
  split
  · rfl
  · dsimp only
    split <;> rfl

/-- What follows the end of a session does not take the connection down. -/
theorem settleEnd_cancelled : c.settleEnd.cancelled = c.cancelled := by
  unfold settleEnd
  split
  · rfl
  · exact scheduleReconnect_cancelled

/-- A connection goes down with a disconnect only. -/
theorem Sound.cancelled_step (h : Sound c) {a : Action} (stepped : c.step a = some c')
    (other : a ≠ .disconnect) : c'.cancelled = c.cancelled := by
  cases gone : c.cancelled with
  | true => exact ((move_of_step h stepped).winds h gone).cancelled
  | false =>
    rw [← gone]
    cases move_of_step h stepped with
    | refused gone' => exact absurd (gone.symm.trans gone') nofun
    | unfit e up bad => exact (giveWay_frame (c := c.begin .connect)).2.1
    | loads up => exact (giveWay_frame (c := c.begin .connect)).2.1
    | dials deadline up fit => exact (giveWay_frame (c := c.begin .connect)).2.1
    | @redialLoads d mem redial up => exact (giveWay_frame (c := c.dropDialer d.number)).2.1
    | @redialDials d deadline mem redial up =>
      exact (giveWay_frame (c := c.dropDialer d.number)).2.1
    | loaded deadline mem up fit => rfl
    | dialClosed own mem gone' => exact absurd (gone.symm.trans gone') nofun
    | callerFails e own mem caller up => rfl
    | redialFails e own mem redial up => exact scheduleReconnect_cancelled
    | @callerInstalls d mem caller up fit => exact ((h.dropDialer d.number).install_beside up).2
    | @redialInstalls d mem redial up fit => exact ((h.dropDialer d.number).install_beside up).2
    | arrives item there => rfl
    | delivers at_ going up head => rfl
    | @ends i a g e own live tame =>
      rw [h.endSession_eq live]
      cases e with
      | none => exact settleEnd_cancelled
      | some e => exact settleEnd_cancelled
    | sends quiet => exact quiet.cancelled
    | quiet look quiet => exact quiet.cancelled
    | disconnectsAgain gone' => exact absurd rfl other
    | disconnectsIdle up idle => exact absurd rfl other
    | disconnects teardown up installed own => exact absurd rfl other
    | @tornDown t g waiting close =>
      exact (beside_retire (c := { c with teardown := none })).cancelled

end StationPool.Connection
