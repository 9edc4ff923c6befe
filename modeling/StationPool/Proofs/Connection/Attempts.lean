import StationPool.Proofs.Connection.Closing
import StationPool.Proofs.Connection.Schedule

/-!
# The count of attempts

A connection counts its attempts to redial in a word of 32 bits. `redialsSince` counts them along a
run without a bound, by the dials that appear: from nothing at every session that begins, and one
more with every redial that is scheduled. The word holds that number wherever a run leads
(`toNat_attempts_of_run`), because it is raised only below the limit of the settings, which is a
word itself (`Reckons.counts`).
-/

namespace StationPool.Connection

variable {settings : ConnectionSettings} {c c' d : Connection} {i : Nat} {a : Action}

/-- Whether a redial was scheduled that was not there before: it has the number that was the next.
-/
def schedules (c c' : Connection) : Bool :=
  c'.dialers.any fun d => !d.byCaller && d.number == c.fresh

/-- The redials since the last session began. -/
def recount (c c' : Connection) (redials : Nat) : Nat :=
  if c.sessions.length < c'.sessions.length then 0
  else if c.schedules c' then redials + 1
  else redials

/-- The redials since the last session began, along a run. -/
def redialsSince (redials : Nat) : Connection → List Action → Nat
  | _, [] => redials
  | c, a :: as => (c.step a).elim redials fun c' => redialsSince (c.recount c' redials) c' as

/-- What a step does to the attempts. -/
inductive Reckons (c c' : Connection) : Prop where
  | keeps (attempts : c'.attempts = c.attempts) (length : c'.sessions.length = c.sessions.length)
      (none_ : c.schedules c' = false)
  /-- A redial is scheduled while an attempt is left. -/
  | counts (left : ¬ c.settings.maxReconnectAttempts ≤ c.attempts)
      (attempts : c'.attempts = c.attempts + 1)
      (length : c'.sessions.length = c.sessions.length) (one : c.schedules c' = true)
  /-- A session begins. -/
  | begins (attempts : c'.attempts = 0) (length : c.sessions.length < c'.sessions.length)

/-! ## Pieces of steps -/

/-- So far neither has a redial been scheduled nor has a session begun. -/
structure Level (c d : Connection) : Prop where
  attempts : d.attempts = c.attempts
  length : d.sessions.length = c.sessions.length
  older : ∀ x ∈ d.dialers, x.byCaller = true ∨ x.number < c.fresh

namespace Level

/-- A connection is level with itself. -/
theorem refl (h : Sound c) : Level c c := ⟨rfl, rfl, fun x mem => .inr (h.issued x mem)⟩

/-- Nothing that matters has changed. -/
theorem kept (level : Level c d) {d' : Connection} (attempts : d'.attempts = d.attempts)
    (length : d'.sessions.length = d.sessions.length) (dialers : d'.dialers = d.dialers) :
    Level c d' where
  attempts := attempts.trans level.attempts
  length := length.trans level.length
  older := dialers ▸ level.older

/-- A dial goes; the attempts, the sessions and the older dials stay. -/
theorem dropDialer (level : Level c d) (number : Nat) : Level c (d.dropDialer number) where
  attempts := level.attempts
  length := level.length
  older x mem := level.older x (List.mem_of_mem_filter mem)

/-- A dial of a caller, or one that has a number already, comes to the others. -/
theorem addDialer (level : Level c d) {number : Nat} {byCaller : Bool}
    (older : byCaller = true ∨ number < c.fresh) (stage : Stage) :
    Level c (d.addDialer number byCaller stage) where
  attempts := level.attempts
  length := level.length
  older := List.forall_mem_append.mpr ⟨level.older, List.forall_mem_singleton.mpr older⟩

/-- A session that gives way takes no part in the count. -/
theorem retire (level : Level c d) : Level c (d.retire i) := by
  have beside := beside_retire (c := d) (i := i)
  obtain ⟨-, -, length, -⟩ := retire_grown (c := d) (i := i)
  exact level.kept beside.attempts length beside.dialers

/-- The installed session gives way. -/
theorem retireCurrent (level : Level c d) : Level c d.retireCurrent := by
  unfold Connection.retireCurrent
  split
  · exact level
  · exact retire (d := { d with slot := none }) (level.kept rfl rfl rfl)

/-- The installed session gives way to a new dial. -/
theorem giveWay (level : Level c d) : Level c d.giveWay := by
  rw [giveWay_eq]
  exact level.retireCurrent.kept rfl rfl rfl

/-- A step ends so. -/
theorem keeps (level : Level c d) (attempts : c'.attempts = d.attempts)
    (length : c'.sessions.length = d.sessions.length) (dialers : c'.dialers = d.dialers) :
    Reckons c c' := by
  refine .keeps (attempts.trans level.attempts) (length.trans level.length) ?_
  rw [schedules, dialers]
  refine List.any_eq_false.mpr fun x mem => ?_
  rcases level.older x mem with caller | older
  · simp [caller]
  · simp [Nat.ne_of_lt older]

/-- A redial is scheduled, if an attempt is left. -/
theorem scheduleReconnect (level : Level c d) (settings : d.settings = c.settings)
    (fresh : d.fresh = c.fresh) (unclosed : d.state ≠ .closed) : Reckons c d.scheduleReconnect := by
  by_cases spent : d.settings.maxReconnectAttempts ≤ d.attempts
  · rw [scheduleReconnect_of_spent spent]
    exact level.keeps rfl rfl rfl
  · rw [scheduleReconnect_of_left spent unclosed]
    rw [settings, level.attempts] at spent
    refine .counts spent ?_ level.length ?_
    · rw [← level.attempts]
    · exact List.any_eq_true.mpr ⟨_, List.mem_append_right _ List.mem_cons_self, by simp [fresh]⟩

/-- What follows the end of a session. -/
theorem settleEnd (level : Level c d) (settings : d.settings = c.settings)
    (fresh : d.fresh = c.fresh) (unclosed : d.cancelled = false → d.state ≠ .closed) :
    Reckons c d.settleEnd := by
  unfold Connection.settleEnd
  cases up : d.cancelled with
  | true =>
    rw [if_pos rfl]
    exact level.keeps rfl rfl rfl
  | false =>
    rw [if_neg Bool.false_ne_true]
    exact level.scheduleReconnect settings fresh (unclosed up)

/-- A session begins. -/
theorem install (level : Level c d) (h : Sound d) (up : d.cancelled = false) :
    Reckons c d.install := by
  have length := level.retireCurrent.length
  rw [h.install_eq up, install_of_empty retireCurrent_slot (h.retireCurrent_unclosed up)]
  refine .begins rfl ?_
  show c.sessions.length < (d.retireCurrent.sessions ++ [d.retireCurrent.newSession]).length
  rw [List.length_append, length]
  exact Nat.lt_succ_self _

end Level

/-- What the count looks at is the same after as before, so the count is. -/
theorem Reckons.kept (reckons : Reckons c d) (attempts : c'.attempts = d.attempts)
    (length : c'.sessions.length = d.sessions.length) (dialers : c'.dialers = d.dialers) :
    Reckons c c' := by
  have same : c.schedules c' = c.schedules d := by rw [schedules, schedules, dialers]
  cases reckons with
  | keeps attempts' length' none_ =>
    exact .keeps (attempts.trans attempts') (length.trans length') (same.trans none_)
  | counts left attempts' length' one =>
    exact .counts left (attempts.trans attempts') (length.trans length') (same.trans one)
  | begins attempts' more => exact .begins (attempts.trans attempts') (length ▸ more)

/-! ## Steps -/

/-- A task ends its session. -/
theorem reckons_of_end (h : Sound c) (live : c.Live i) (e : Option ConnectionError) :
    Reckons c (c.endSession i e) := by
  have vacated : Level c (c.vacate i) :=
    (Level.refl h).kept rfl (List.length_modify Session.finish c.sessions i) rfl
  have left : Level c ((c.vacate i).enter .disconnected) := vacated.kept rfl rfl rfl
  have entered (up : c.cancelled = false) : (c.enter .disconnected).state ≠ .closed := by
    rw [enter_of_open (h.unclosed up)]
    exact nofun
  rw [h.endSession_eq live]
  cases e with
  | none =>
    have told : Level c (((c.vacate i).enter .disconnected).tell (some i) (.disconnected none)) :=
      left.kept rfl rfl rfl
    exact told.settleEnd rfl rfl entered
  | some e =>
    have told : Level c ((((c.vacate i).enter .disconnected).fail (some i) e).tell (some i)
        (.disconnected (some e))) := left.kept rfl rfl rfl
    exact told.settleEnd rfl rfl entered

/-- Every move leaves the count as it is, counts one attempt more, which is allowed, or begins a
session and with it the count. -/
theorem Move.reckons (h : Sound c) (move : Move c a c') : Reckons c c' := by
  have level := Level.refl h
  have begun (request : Request) : Level c (c.begin request) := level.kept rfl rfl rfl
  have modified (d : Connection) (j : Nat) (f : Session → Session) :
      (d.modifySession j f).sessions.length = d.sessions.length := List.length_modify f d.sessions j
  cases move with
  | refused gone => exact (begun .connect).keeps rfl rfl rfl
  | unfit e up bad => exact (begun .connect).giveWay.keeps rfl rfl rfl
  | loads up =>
    exact ((begun .connect).giveWay.addDialer (.inl rfl) .loading).keeps rfl rfl rfl
  | dials deadline up fit =>
    exact ((begun .connect).giveWay.addDialer (.inl rfl) (.handshaking deadline)).keeps rfl rfl rfl
  | @redialLoads d mem redial up =>
    have older : false = true ∨ d.number < c.fresh := .inr (h.issued d mem)
    exact ((level.dropDialer d.number).giveWay.addDialer older .loading).keeps rfl rfl rfl
  | @redialDials d deadline mem redial up =>
    have older : false = true ∨ d.number < c.fresh := .inr (h.issued d mem)
    exact ((level.dropDialer d.number).giveWay.addDialer older (.handshaking deadline)).keeps
      rfl rfl rfl
  | @loaded d deadline mem up fit =>
    have older : d.byCaller = true ∨ d.number < c.fresh := .inr (h.issued d mem)
    exact ((level.dropDialer d.number).addDialer older (.handshaking deadline)).keeps rfl rfl rfl
  | @dialClosed d a own mem gone =>
    unfold Connection.dialClosed
    split <;> exact (level.dropDialer d.number).keeps rfl rfl rfl
  | @callerFails d a e own mem caller up => exact (level.dropDialer d.number).keeps rfl rfl rfl
  | @redialFails d a e own mem redial up =>
    have failed : Level c ((c.dropDialer d.number).fail none e) :=
      (level.dropDialer d.number).kept rfl rfl rfl
    exact failed.scheduleReconnect rfl rfl (h.unclosed up)
  | @callerInstalls d mem caller up fit =>
    exact ((level.dropDialer d.number).install (h.dropDialer d.number) up).kept rfl rfl rfl
  | @redialInstalls d mem redial up fit =>
    exact (level.dropDialer d.number).install (h.dropDialer d.number) up
  | arrives item there => exact level.keeps rfl (modified c _ _) rfl
  | @delivers i s payload rest at_ going up head =>
    refine level.keeps rfl ?_ rfl
    exact (modified (c.modifySession i ({ · with inbox := rest })) i _).trans (modified c i _)
  | @ends i a g e own live tame => exact (reckons_of_end h live e).kept rfl (modified _ i g) rfl
  | sends quiet => exact (begun (.send _)).keeps quiet.attempts quiet.length quiet.dialers
  | quiet look quiet => exact level.keeps quiet.attempts quiet.length quiet.dialers
  | disconnectsAgain gone => exact (begun .disconnect).keeps rfl rfl rfl
  | disconnectsIdle up idle => exact (begun .disconnect).keeps rfl rfl rfl
  | disconnects teardown up installed own => exact (begun .disconnect).keeps rfl rfl rfl
  | @tornDown t g waiting close =>
    have down : Level c { c with teardown := none } := level.kept rfl rfl rfl
    exact (down.retire (i := t.session)).keeps rfl (modified _ t.session g) rfl

/-! ## Runs -/

/-- The word agrees with the count of one step: it is raised only below the limit, which is a word
as well, and so never wraps. -/
theorem Reckons.toNat_attempts (reckons : Reckons c c') :
    c'.attempts.toNat = c.recount c' c.attempts.toNat := by
  unfold recount
  cases reckons with
  | keeps attempts length none_ => simp [attempts, length, none_]
  | counts left attempts length one => simp [attempts, length, one, UInt32.toNat_succ left]
  | begins attempts length => simp [attempts, length]

/-- The word agrees with the count of a whole run, from whatever it was at the start. -/
theorem toNat_attempts_after (h : Sound c) {as : List Action} (run : c.after as = some c') :
    c'.attempts.toNat = redialsSince c.attempts.toNat c as := by
  induction as generalizing c with
  | nil =>
    cases run
    rfl
  | cons a as ih =>
    rw [after_cons] at run
    obtain ⟨next, stepped, rest⟩ := Option.bind_eq_some_iff.mp run
    have reckons := (move_of_step h stepped).reckons h
    rw [redialsSince, stepped, Option.elim_some, ← reckons.toNat_attempts]
    exact ih (h.step stepped) rest

/-- The attempts are the redials since the last session began. -/
theorem toNat_attempts_of_run {horizon : Horizon} {as : List Action}
    (run : (new settings horizon).after as = some c) :
    c.attempts.toNat = redialsSince 0 (new settings horizon) as :=
  toNat_attempts_after (sound_new settings) run

end StationPool.Connection
