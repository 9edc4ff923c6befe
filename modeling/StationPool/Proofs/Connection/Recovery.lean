import StationPool.Proofs.Connection.Schedule

/-!
# Recovery from the loss of a session

Every step of a connection that shows a phase stays in it or takes a leg (`Shows.step`). How redials
go is then a matter of courses: `redials_follow_schedule`.
-/

namespace StationPool.Connection

variable {c c' : Connection} {i : Nat} {p : Phase} {a : Action}

/-! ## Incidents of a run -/

/-- The incident of a step. A look at a dial that sleeps begins it; the end of a dial is its failure
or its success; and the session is lost when it leaves the slot. -/
def incident? (c : Connection) (a : Action) (c' : Connection) : Option Incident :=
  match a with
  | .lookDialer number =>
    match (c.dialer? number).map (·.stage) with
    | some (Stage.sleeping _) => some .begins
    | some (Stage.handshaking _) => some (.fails (.connectTimeout c.settings.connectTimeout))
    | _ => none
  | .load _ (.error e) | .dial _ (.error e) => some (.fails e)
  | .dial _ (.ok ()) => some .succeeds
  | _ => if c.slot.isSome && c'.slot.isNone then some .lost else none

/-- A step of no dial is an incident only if the slot is left. -/
theorem incident?_eq (look : a.dial? = none) :
    incident? c a c' = if c.slot.isSome && c'.slot.isNone then some .lost else none := by
  cases a with
  | load number result => cases look
  | dial number result => cases look
  | lookDialer number => cases look
  | _ => rfl

/-- A step that is no look of a dial and leaves the slot is no incident. -/
theorem incident?_of_same (look : a.dial? = none) (same : c'.slot = c.slot) :
    incident? c a c' = none := by
  rw [incident?_eq look, same]
  cases c.slot <;> rfl

/-- The incidents of a run, each with its moment. -/
def incidents : Connection → List Action → List (Nat × Incident)
  | _, [] => []
  | c, a :: as =>
    match c.step a with
    | none => []
    | some c' => ((incident? c a c').map (c.now, ·)).toList ++ incidents c' as

/-- What a step does: it stays in the phase, or it takes a leg. -/
inductive Takes (s : ConnectionSettings) (p : Phase) :
    Option (Nat × Incident) → List ConnectionError → Phase → Prop where
  | stays : Takes s p none [] p
  | leg {m : Nat × Incident} {es : List ConnectionError} {q : Phase} (leg : Leg s p m es q) :
      Takes s p (some m) es q

/-- A step that goes on in a course. -/
def Proceeds (c : Connection) (a : Action) (p : Phase) (c' : Connection) : Prop :=
  ∃ q es, Takes c.settings p ((incident? c a c').map (c.now, ·)) es q ∧ Shows c' q ∧
    dialErrors c'.history = es.reverse ++ dialErrors c.history

/-- Nothing of note happens. -/
theorem Shows.proceeds_of_alike (shows : Shows c p) (alike : Alike c c')
    (none_ : incident? c a c' = none) (on_time : OnTime c a)
    (clock : c'.now = c.now + a.passing)
    (told : dialErrors c'.history = dialErrors c.history) : Proceeds c a p c' := by
  refine ⟨p, [], ?_, shows.stays alike on_time clock, told⟩
  rw [none_]
  exact .stays

/-! ## What a redial is scheduled to -/

/-- Nothing is installed any more and nothing dials: what a connection comes to before a redial is
scheduled. -/
structure Bereft (c c₁ : Connection) : Prop where
  live : c₁.cancelled = false
  unclosed : c₁.state ≠ .closed
  idle : c₁.dialers = []
  empty : c₁.slot = none
  settings : c₁.settings = c.settings
  attempts : c₁.attempts = c.attempts
  clock : c₁.now = c.now

/-- The next wait, or the end. -/
theorem Bereft.schedules {c₁ : Connection} (b : Bereft c c₁) (t : Tallied c) :
    (c.attempts.toNat < c.settings.maxReconnectAttempts.toNat ∧
      Shows c₁.scheduleReconnect (.waiting (c.attempts.toNat + 1) c.now) ∧
      dialErrors c₁.scheduleReconnect.history = dialErrors c₁.history) ∨
    (c.attempts.toNat = c.settings.maxReconnectAttempts.toNat ∧
      Shows c₁.scheduleReconnect .spent ∧
      dialErrors c₁.scheduleReconnect.history =
        .reconnectExhausted c.settings.maxReconnectAttempts :: dialErrors c₁.history) := by
  obtain ⟨live, unclosed, idle, empty, settings, attempts, clock⟩ := b
  have bounded := t.bounded
  rw [← settings, ← attempts] at bounded ⊢
  rw [← clock]
  by_cases spent : c₁.settings.maxReconnectAttempts ≤ c₁.attempts
  · have same : c₁.attempts = c₁.settings.maxReconnectAttempts := UInt32.le_antisymm bounded spent
    rw [scheduleReconnect_of_spent spent]
    refine .inr ⟨congrArg UInt32.toNat same, ?_, by rw [same]; rfl⟩
    exact ⟨live, enter_of_open unclosed .error, same, empty, idle, by rw [same]; rfl⟩
  · rw [scheduleReconnect_of_left spent unclosed]
    rw [UInt32.le_iff_toNat_le] at spent
    have next : (c₁.attempts + 1).toNat = c₁.attempts.toNat + 1 := by
      have := c₁.settings.maxReconnectAttempts.toNat_lt
      rw [UInt32.toNat_add]
      simp only [UInt32.reduceToNat]
      omega
    refine .inl ⟨by omega, ⟨live, ?_⟩, rfl⟩
    refine ⟨rfl, next, empty, Nat.le_refl _, Nat.le_add_right _ _, c₁.fresh, ?_⟩
    rw [← next]
    exact congrArg (· ++ _) idle

/-- A session that is over leaves nothing. -/
theorem bereft_of_afterEnd (live : c.cancelled = false) (unclosed : c.state ≠ .closed)
    (idle : c.dialers = []) (e : Option ConnectionError) :
    ∃ c₁, (c.vacate i).afterEnd i e = c₁.scheduleReconnect ∧ Bereft c c₁ ∧
      dialErrors c₁.history = dialErrors c.history := by
  have entered : ((c.vacate i).enter .disconnected).state ≠ .closed := by
    rw [enter_of_open (c := c.vacate i) unclosed]
    exact nofun
  have going {c₁ : Connection} (same : c₁.cancelled = c.cancelled) :
      c₁.settleEnd = c₁.scheduleReconnect :=
    if_neg (by rw [same, live]; exact nofun)
  cases e with
  | none => exact ⟨_, going rfl, ⟨live, entered, idle, rfl, rfl, rfl, rfl⟩, rfl⟩
  | some e => exact ⟨_, going rfl, ⟨live, entered, idle, rfl, rfl, rfl, rfl⟩, rfl⟩

/-- A task ends the session. -/
theorem Shows.ends (shows : Shows c p) (h : Sound c) (t : Tallied c)
    {g : Session → Session} (e : Option ConnectionError) (own : a.task? = some i)
    (live : c.Live i) : Proceeds c a p ((c.endSession i e).modifySession i g) := by
  have installed := h.installed shows.live i live
  have looks := shows.looks
  cases p with
  | waiting k since => exact absurd (installed.symm.trans looks.2.2.1) nofun
  | dialing k => exact absurd (installed.symm.trans looks.2.2.1) nofun
  | spent => exact absurd (installed.symm.trans looks.2.2.1) nofun
  | up =>
    obtain ⟨connected, zero, -, idle⟩ := looks
    have look : a.dial? = none := by cases a <;> first | rfl | cases own
    have lost (c' : Connection) (empty : c'.slot = none) : incident? c a c' = some .lost := by
      rw [incident?_eq look, installed, empty]
      rfl
    obtain ⟨c₁, eq, bereft, told⟩ :=
      bereft_of_afterEnd (i := i) shows.live (h.unclosed shows.live) idle e
    rw [h.endSession_eq live, eq]
    have empty {q : Phase} (shows : Shows c₁.scheduleReconnect q) (down : q ≠ .up) :
        c₁.scheduleReconnect.slot = none := by
      cases q with
      | up => exact absurd rfl down
      | waiting k since => exact shows.looks.2.2.1
      | dialing k => exact shows.looks.2.2.1
      | spent => exact shows.looks.2.2.1
    have none_made : c.attempts.toNat = 0 := by
      rw [zero]
      rfl
    rcases bereft.schedules t with ⟨left, next, same⟩ | ⟨none_, next, same⟩
    · rw [none_made] at left next
      refine ⟨.waiting 1 c.now, [], ?_, ⟨next.live, next.looks⟩, same.trans told⟩
      rw [lost (c₁.scheduleReconnect.modifySession i g) (empty next nofun)]
      exact .leg (.lost c.now left)
    · rw [none_made] at none_
      rw [told] at same
      refine ⟨.spent, [.reconnectExhausted c.settings.maxReconnectAttempts], ?_,
        ⟨next.live, next.looks⟩, same⟩
      rw [lost (c₁.scheduleReconnect.modifySession i g) (empty next nofun)]
      exact .leg (.lost_for_good c.now none_.symm)

/-! ## Steps without a dial -/

/-- A step that is no call to connect or to disconnect and not of a dial. -/
theorem Shows.elsewhere (shows : Shows c p) (h : Sound c) (t : Tallied c) (look : a.dial? = none)
    (calm : a ≠ .connect ∧ a ≠ .disconnect) (on_time : OnTime c a)
    (stepped : c.step a = some c') : Proceeds c a p c' := by
  have clock := now_of_step stepped
  cases move_of_step h stepped with
  | refused gone => exact absurd rfl calm.1
  | unfit e up bad => exact absurd rfl calm.1
  | loads up => exact absurd rfl calm.1
  | dials deadline up fit => exact absurd rfl calm.1
  | redialLoads mem redial up => cases look
  | redialDials deadline mem redial up => cases look
  | loaded deadline mem up fit => cases look
  | dialClosed own mem gone => exact absurd (look.symm.trans own) nofun
  | callerFails e own mem caller up => exact absurd (look.symm.trans own) nofun
  | redialFails e own mem redial up => exact absurd (look.symm.trans own) nofun
  | callerInstalls mem caller up fit => cases look
  | redialInstalls mem redial up fit => cases look
  | arrives item there =>
    exact shows.proceeds_of_alike ⟨rfl, rfl, rfl, rfl, rfl, rfl, rfl⟩ (incident?_of_same rfl rfl)
      on_time clock rfl
  | delivers at_ going up head =>
    exact shows.proceeds_of_alike ⟨rfl, rfl, rfl, rfl, rfl, rfl, rfl⟩ (incident?_of_same rfl rfl)
      on_time clock rfl
  | ends e own live tame => exact shows.ends h t e own live
  | @sends frame c' quiet =>
    exact shows.proceeds_of_alike { quiet.alike with } (incident?_of_same rfl quiet.slot) on_time
      clock quiet.dialErrors
  | quiet _ quiet =>
    exact shows.proceeds_of_alike quiet.alike (incident?_of_same look quiet.slot) on_time clock
      quiet.dialErrors
  | disconnectsAgain gone => exact absurd rfl calm.2
  | disconnectsIdle up idle => exact absurd rfl calm.2
  | disconnects teardown up installed own => exact absurd rfl calm.2
  | tornDown waiting close =>
    have gone := (h.teardown _ waiting).1
    rw [shows.live] at gone
    cases gone

/-! ## Steps of a dial -/

variable {d : Dialer}

/-- The dial of a phase. -/
theorem Shows.dialer (shows : Shows c p) {number : Nat} (found : c.dialer? number = some d) :
    (∃ k since, p = .waiting k since ∧ c.dialers = [d] ∧ d.byCaller = false ∧
      d.stage = .sleeping (since + (c.settings.backoff.delay k).nanos)) ∨
    (∃ k, p = .dialing k ∧ c.dialers = [d] ∧ d.byCaller = false ∧
      ∀ due, d.stage ≠ .sleeping due) := by
  obtain ⟨mem, -⟩ := dialer?_some found
  have looks := shows.looks
  cases p with
  | up =>
    rw [looks.2.2.2] at mem
    cases mem
  | spent =>
    rw [looks.2.2.2.1] at mem
    cases mem
  | waiting k since =>
    obtain ⟨number, one⟩ := looks.2.2.2.2.2
    rw [one] at mem
    rw [List.mem_singleton.mp mem]
    exact .inl ⟨k, since, rfl, one, rfl, rfl⟩
  | dialing k =>
    obtain ⟨number, stage, one, awake⟩ := looks.2.2.2
    rw [one] at mem
    rw [List.mem_singleton.mp mem]
    exact .inr ⟨k, rfl, one, rfl, awake⟩

/-- A dial that is the only one leaves none. -/
theorem dropDialer_of_one (one : c.dialers = [d]) : (c.dropDialer d.number).dialers = [] := by
  simp [Connection.dropDialer, one]

/-- The dial fails: the next wait, or the end. -/
theorem Shows.fails {k : Nat} (shows : Shows c (.dialing k)) (h : Sound c) (t : Tallied c)
    (one : c.dialers = [d]) (redial : d.byCaller = false) (e : ConnectionError)
    (fails : incident? c a ((c.dropDialer d.number).dialFailed d.number d.byCaller e) =
      some (.fails e)) :
    Proceeds c a (.dialing k)
      ((c.dropDialer d.number).dialFailed d.number d.byCaller e) := by
  obtain ⟨connecting, count, empty, -⟩ := shows.looks
  rw [Proceeds, fails, redial, dialFailed_redial (c := c.dropDialer d.number) shows.live]
  have bereft : Bereft c ((c.dropDialer d.number).fail none e) :=
    ⟨shows.live, h.unclosed shows.live, dropDialer_of_one one, empty, rfl, rfl, rfl⟩
  rcases bereft.schedules t with ⟨left, next, told⟩ | ⟨last, next, told⟩
  · rw [count] at left next
    exact ⟨.waiting (k + 1) c.now, [e], .leg (.fails k c.now e left), next, told⟩
  · rw [count] at last
    exact ⟨.spent, _, .leg (.fails_for_good k c.now e last), next, told⟩

/-- To make room where no session is installed is to enter the connecting state. -/
theorem giveWay_of_empty (empty : c.slot = none) : c.giveWay = c.enter .connecting :=
  retireCurrent_of_empty (c := c.enter .connecting) empty

/-- The backoff is over, and the dial begins. -/
theorem Shows.begins {k since : Nat} (shows : Shows c (.waiting k since)) (h : Sound c)
    (one : c.dialers = [d]) (redial : d.byCaller = false)
    (sleeping : d.stage = .sleeping (since + (c.settings.backoff.delay k).nanos))
    (found : c.dialer? d.number = some d) (looked : c.lookDialer d = some c') :
    Proceeds c (.lookDialer d.number) (.waiting k since) c' := by
  obtain ⟨-, count, empty, -, early, -⟩ := shows.looks
  have mem : d ∈ c.dialers := one ▸ List.mem_singleton_self d
  simp only [lookDialer, sleeping, shows.live, Bool.false_eq_true, if_false] at looked
  split at looked
  case isFalse => cases looked
  case isTrue due =>
    cases looked
    have now : c.now = since + (c.settings.backoff.delay k).nanos := Nat.le_antisymm early due
    have began {c' : Connection} : incident? c (.lookDialer d.number) c' = some .begins := by
      simp [incident?, found, sleeping]
    have gone := dropDialer_of_one one
    have entered : ((c.dropDialer d.number).enter .connecting).state = .connecting :=
      enter_of_open (h.unclosed shows.live) .connecting
    have took {c' : Connection} (shows : Shows c' (.dialing k))
        (told : dialErrors c'.history = dialErrors c.history) :
        Proceeds c (.lookDialer d.number) (.waiting k since) c' := by
      refine ⟨.dialing k, [], ?_, shows, told⟩
      rw [began, Option.map_some, now]
      exact .leg (.begins k since)
    rw [redial]
    rcases beginDial_cases (c := c.dropDialer d.number) shows.live d.number false with
      ⟨bad, -⟩ | eq | ⟨-, deadline, eq⟩
    · exact absurd (h.fit mem (.inl redial)) bad
    · rw [eq, giveWay_of_empty (c := c.dropDialer d.number) empty]
      exact took ⟨shows.live, entered, count, empty, d.number, .loading,
        congrArg (· ++ _) gone, nofun⟩ rfl
    · rw [eq, giveWay_of_empty (c := c.dropDialer d.number) empty]
      exact took ⟨shows.live, entered, count, empty, d.number, .handshaking deadline,
        congrArg (· ++ _) gone, nofun⟩ rfl

/-- The TLS material was read, and the handshake begins. -/
theorem loaded_of_fit (live : c.cancelled = false) (fit : Dialable c.settings) :
    ∃ deadline, c.loaded d (.ok ()) =
      ((c.dropDialer d.number).addDialer d.number d.byCaller (.handshaking deadline)).note
        (.dialing d.number) := by
  obtain ⟨r, port, asked, there⟩ := fit
  have asked : Handshake.ofSettings (c.dropDialer d.number).settings = .ok r := asked
  have live : (c.dropDialer d.number).cancelled = false := live
  unfold loaded
  simp only [live, Bool.false_eq_true, if_false, asked]
  rcases beginHandshake_cases asked d.number d.byCaller with ⟨bad, -⟩ | ⟨-, deadline, eq⟩
  · exact absurd ⟨r, port, asked, there⟩ bad
  · exact ⟨deadline, eq⟩

/-- The dial succeeds. -/
theorem Shows.succeeds {k : Nat} (shows : Shows c (.dialing k)) (h : Sound c)
    (one : c.dialers = [d]) (redial : d.byCaller = false) :
    Proceeds c (.dial d.number (.ok ())) (.dialing k) (c.dialed d (.ok ())) := by
  obtain ⟨-, -, empty, -⟩ := shows.looks
  have done : c.dialed d (.ok ()) = (c.dropDialer d.number).install := by
    have live : (c.dropDialer d.number).cancelled = false := shows.live
    simp [dialed, dialDone, live, redial]
  have unclosed : (c.dropDialer d.number).state ≠ .closed := h.unclosed shows.live
  rw [done, install_of_empty (c := c.dropDialer d.number) empty unclosed]
  refine ⟨.up, [], .leg (.succeeds k c.now), ⟨shows.live, rfl, rfl, rfl, ?_⟩, rfl⟩
  exact dropDialer_of_one one

/-- Every step in time that is no call of a user proceeds from a phase that is shown: nothing
happens that counts, or the next leg of the schedule is made. -/
theorem Shows.step (shows : Shows c p) (h : Sound c) (t : Tallied c)
    (calm : a ≠ .connect ∧ a ≠ .disconnect) (on_time : OnTime c a)
    (stepped : c.step a = some c') : Proceeds c a p c' := by
  cases a with
  | load number result =>
    obtain ⟨d, found, rfl⟩ := Option.map_eq_some_iff.mp stepped
    obtain ⟨found, loading⟩ := Option.filter_eq_some_iff.mp found
    have loading : d.stage = .loading := by simpa using loading
    obtain ⟨mem, rfl⟩ := dialer?_some found
    rcases shows.dialer found with ⟨k, since, -, -, -, sleeping⟩ | ⟨k, rfl, one, redial, -⟩
    · rw [loading] at sleeping
      cases sleeping
    · cases result with
      | error e => exact shows.fails h t one redial e rfl
      | ok done =>
        obtain ⟨deadline, eq⟩ := loaded_of_fit (d := d) shows.live (h.fit mem (.inl redial))
        obtain ⟨connecting, count, empty, -⟩ := shows.looks
        rw [eq, redial]
        refine ⟨.dialing k, [], ?_, ?_, rfl⟩
        · have none_ (c' : Connection) : incident? c (.load d.number (.ok done)) c' = none := by
            simp [incident?, empty]
          rw [none_]
          exact .stays
        · exact ⟨shows.live, connecting, count, empty, d.number, .handshaking deadline,
            congrArg (· ++ _) (dropDialer_of_one one), nofun⟩
  | dial number result =>
    obtain ⟨d, found, rfl⟩ := Option.map_eq_some_iff.mp stepped
    obtain ⟨found, waiting⟩ := Option.filter_eq_some_iff.mp found
    obtain ⟨mem, rfl⟩ := dialer?_some found
    rcases shows.dialer found with ⟨k, since, -, -, -, sleeping⟩ | ⟨k, rfl, one, redial, -⟩
    · rw [sleeping] at waiting
      cases waiting
    · cases result with
      | error e => exact shows.fails h t one redial e rfl
      | ok done => exact shows.succeeds h one redial
  | lookDialer number =>
    obtain ⟨d, found, looked⟩ := Option.bind_eq_some_iff.mp stepped
    obtain ⟨mem, rfl⟩ := dialer?_some found
    rcases shows.dialer found with
      ⟨k, since, rfl, one, redial, sleeping⟩ | ⟨k, rfl, one, redial, awake⟩
    · exact shows.begins h one redial sleeping found looked
    · cases stage : d.stage with
      | sleeping due => exact absurd stage (awake due)
      | loading =>
        simp only [lookDialer, stage] at looked
        cases looked
      | handshaking deadline =>
        simp only [lookDialer, stage, shows.live, Bool.false_eq_true, if_false] at looked
        split at looked
        · cases looked
          refine shows.fails h t one redial _ ?_
          simp [incident?, found, stage]
        · cases looked
  | connect => exact shows.elsewhere h t rfl calm on_time stepped
  | disconnect => exact shows.elsewhere h t rfl calm on_time stepped
  | send frame => exact shows.elsewhere h t rfl calm on_time stepped
  | arrive i item => exact shows.elsewhere h t rfl calm on_time stepped
  | lookReader i => exact shows.elsewhere h t rfl calm on_time stepped
  | lookWriter i => exact shows.elsewhere h t rfl calm on_time stepped
  | socket i result => exact shows.elsewhere h t rfl calm on_time stepped
  | lookKeeper i => exact shows.elsewhere h t rfl calm on_time stepped
  | lookSend i call => exact shows.elsewhere h t rfl calm on_time stepped
  | lookTeardown => exact shows.elsewhere h t rfl calm on_time stepped
  | advance nanos => exact shows.elsewhere h t rfl calm on_time stepped

/-! ## Runs -/

/-- No backoff of a run is passed by the clock. -/
def Punctual : Connection → List Action → Prop
  | _, [] => True
  | c, a :: as =>
    OnTime c a ∧
      match c.step a with
      | none => True
      | some c' => Punctual c' as

instance decidableOnTime (c : Connection) (a : Action) : Decidable (OnTime c a) :=
  inferInstanceAs (Decidable (_ ∨ _))

instance decidablePunctual : (c : Connection) → (as : List Action) → Decidable (Punctual c as)
  | _, [] => inferInstanceAs (Decidable True)
  | c, a :: as =>
    have : Decidable (match c.step a with
        | none => True
        | some c' => Punctual c' as) :=
      match c.step a with
      | none => inferInstanceAs (Decidable True)
      | some c' => decidablePunctual c' as
    inferInstanceAs (Decidable (_ ∧ _))

/-- The course of a run. -/
theorem Shows.after {settings : ConnectionSettings} (shows : Shows c p)
    (reachable : Reachable settings c) {as : List Action}
    (calm : ∀ a ∈ as, a ≠ .connect ∧ a ≠ .disconnect) (punctual : Punctual c as)
    (run : c.after as = some c') :
    ∃ q es, Course settings p (incidents c as) es q ∧ Shows c' q ∧
      dialErrors c'.history = es.reverse ++ dialErrors c.history := by
  induction as generalizing c p with
  | nil =>
    cases run
    exact ⟨p, [], .stay p, shows, rfl⟩
  | cons a as ih =>
    rw [after_cons] at run
    obtain ⟨next, stepped, rest⟩ := Option.bind_eq_some_iff.mp run
    have punctual' : Punctual next as := by
      have later := punctual.2
      rwa [stepped] at later
    obtain ⟨q, es, takes, shows', told⟩ := shows.step reachable.sound reachable.tallied
      (calm a List.mem_cons_self) punctual.1 stepped
    obtain ⟨r, fs, course, shows'', told'⟩ := ih shows' (reachable.step a stepped)
      (fun a mem => calm a (List.mem_cons_of_mem _ mem)) punctual' rest
    rw [reachable.settings_eq] at takes
    refine ⟨r, es ++ fs, ?_, shows'', ?_⟩
    · simp only [incidents, stepped]
      cases takes_ : (incident? c a next).map (c.now, ·) with
      | none =>
        rw [takes_] at takes
        cases takes
        exact course
      | some m =>
        rw [takes_] at takes
        cases takes with
        | leg first => exact .leg first course
    · rw [told', told, List.reverse_append, List.append_assoc]

/-- Where a connection comes to rest in a wait, the wait is not over. -/
theorem Shows.early_of_settled {k since : Nat} (shows : Shows c (.waiting k since)) (h : Sound c)
    (settled : c.isSettled = true) : c.now < since + (c.settings.backoff.delay k).nanos := by
  obtain ⟨-, -, -, -, -, number, one⟩ := shows.looks
  by_contra late
  have mem := one ▸ List.mem_singleton_self _
  have found := h.dialer?_mem mem
  have looks : .lookDialer number ∈ c.looks :=
    List.mem_append_left _ (List.mem_append_left _ (List.mem_map.mpr ⟨_, mem, rfl⟩))
  have stays := List.all_eq_true.mp settled _ looks
  have due : since + (c.settings.backoff.delay k).nanos ≤ c.now := by omega
  simp [Connection.step, found, lookDialer, shows.live, due] at stays

/-- Whatever the policy of the backoff, the limit of attempts and what becomes of the dials: from a
connected connection that dials nothing, while no caller connects or disconnects and the clock stops
at the end of every backoff, a run is a course of losses, waits and dials, and the connection shows
the phase that the course has come to; the observer is told the errors of the dials as the course
says. A wait that is over is left before anything comes to rest. Since the last loss, as long as no
dial has succeeded, the phase counts the dials and their failures; once it is spent these are as many
as the limit allows, the observer was told every failure and last of the exhaustion, and nothing
follows. In every state the attempts are within the limit. -/
theorem redials_follow_schedule {settings : ConnectionSettings}
    (reachable : Reachable settings c) :
    c.attempts ≤ settings.maxReconnectAttempts ∧
    (c.state = .connected → c.slot.isSome → c.dialers = [] →
      ∀ as c', (∀ a ∈ as, a ≠ .connect ∧ a ≠ .disconnect) → Punctual c as →
        c.after as = some c' →
      ∃ phase es, Course settings .up (incidents c as) es phase ∧ Shows c' phase ∧
        dialErrors c'.history = es.reverse ++ dialErrors c.history ∧
        (∀ k since, phase = .waiting k since → c'.isSettled = true →
          c'.now < since + (settings.backoff.delay k).nanos) ∧
        (∀ before moment ms, incidents c as = before ++ (moment, .lost) :: ms →
          (∀ m ∈ ms, m.2 ≠ .succeeds) → ∃ earlier later, es = earlier ++ later ∧
            Course.Tallies settings 0 0 (dials ms) (failures ms) later phase) ∧
        (phase = .spent →
          c'.stats.lastError =
            some (ConnectionError.reconnectExhausted settings.maxReconnectAttempts).message ∧
          ∀ more c'', (∀ a ∈ more, a ≠ .connect ∧ a ≠ .disconnect) → Punctual c' more →
            c'.after more = some c'' → incidents c' more = [] ∧ Shows c'' .spent)) := by
  have same := reachable.settings_eq
  have t := reachable.tallied
  refine ⟨same ▸ t.bounded, ?_⟩
  intro connected installed idle as c' calm punctual run
  have live : c.cancelled = false := by
    obtain ⟨i, slot⟩ := Option.isSome_iff_exists.mp installed
    exact reachable.sound.slot_up i slot
  have up : Shows c .up := ⟨live, connected, t.connected connected, installed, idle⟩
  obtain ⟨phase, es, course, shows, told⟩ := up.after reachable calm punctual run
  have later := reachable.after run
  have same' := later.settings_eq
  refine ⟨phase, es, course, shows, told, ?_, ?_, ?_⟩
  · rintro k since rfl settled
    exact same' ▸ shows.early_of_settled later.sound settled
  · intro before moment ms split alone
    rw [split] at course
    obtain ⟨r, fs, gs, -, rest, eq⟩ := course.split
    exact ⟨fs, gs, eq, rest.tallies_of_lost alone⟩
  · rintro rfl
    refine ⟨?_, fun more c'' calm' punctual' run' => ?_⟩
    · have error := shows.looks.2.2.2.2
      rw [same'] at error
      simp [stats, error]
    · obtain ⟨q, fs, course', shows', -⟩ := shows.after later calm' punctual' run'
      obtain ⟨none_, -, rfl⟩ := course'.of_spent
      exact ⟨none_, shows'⟩

/-- Settings that allow two attempts. -/
def twice : ConnectionSettings := { plain with maxReconnectAttempts := 2 }

/-- The session is lost, and nobody answers the two dials after it. -/
def lossOfAll : List Action :=
  [.arrive 0 .ended, .lookReader 0, .advance 1000000000, .lookDialer 1, .advance 10000000000,
    .lookDialer 1, .advance 2000000000, .lookDialer 2, .advance 10000000000, .lookDialer 2]

/-- A loss with two redials, both of which come to the connect timeout: the dials begin 1 s after
the loss and 2 s after the first failure, and the connection ends in its error state. -/
theorem redials_follow_schedule_of_loss : ∃ c c' phase es,
    (new twice).after [.connect, .dial 0 (.ok ())] = some c ∧ c.after lossOfAll = some c' ∧
    c'.state = .error ∧ Shows c' phase ∧
    Course twice .up [(0, .lost), (1000000000, .begins),
      (11000000000, .fails (.connectTimeout twice.connectTimeout)), (13000000000, .begins),
      (23000000000, .fails (.connectTimeout twice.connectTimeout))] es phase := by
  obtain ⟨c, run, reachable, outcome⟩ := @reachable_of_run twice [.connect, .dial 0 (.ok ())]
    (fun c => c.state = .connected ∧ c.slot.isSome ∧ c.dialers = [] ∧ Punctual c lossOfAll ∧
      (c.after lossOfAll).map (·.state) = some .error ∧
      incidents c lossOfAll = [(0, .lost), (1000000000, .begins),
        (11000000000, .fails (.connectTimeout twice.connectTimeout)), (13000000000, .begins),
        (23000000000, .fails (.connectTimeout twice.connectTimeout))]) (by decide +kernel)
  obtain ⟨connected, installed, idle, punctual, ran, same⟩ := of_decide_eq_true outcome
  obtain ⟨c', run', error⟩ := Option.map_eq_some_iff.mp ran
  obtain ⟨phase, es, course, shows, -⟩ := (redials_follow_schedule reachable).2 connected installed
    idle lossOfAll c' (by simp [lossOfAll]) punctual run'
  exact ⟨c, c', phase, es, run, run', error, shows, same ▸ course⟩

end StationPool.Connection
