import StationPool.Proofs.Connection.Beats

/-!
# The calls that are pending

Which calls were made is read off the actions of a run (`Move.requests`): a step writes down a call
exactly where its action makes one. And a caller who connects is not forgotten: until the call has
returned, a dial of the call's number goes on (`Reachable.held`).
-/

namespace StationPool.Connection

variable {c : Connection} {i : Nat}

/-! ## The calls that were made -/

/-- To schedule a redial is no call. -/
theorem scheduleReconnect_requests :
    requests c.scheduleReconnect.history = requests c.history := by
  unfold scheduleReconnect
  split
  · rfl
  · dsimp only
    split <;> rfl

/-- A step writes down the call that its action makes, and no other. -/
theorem Move.requests (h : Sound c) {a : Action} {c' : Connection} (m : Move c a c') :
    requests c'.history = (a.request?.map (c.fresh, ·)).toList ++ requests c.history := by
  cases m with
  | refused gone => rfl
  | unfit e up bad => exact giveWay_requests
  | loads up => exact giveWay_requests
  | dials deadline up fit => exact giveWay_requests
  | redialLoads mem redial up => exact giveWay_requests
  | redialDials deadline mem redial up => exact giveWay_requests
  | loaded deadline mem up fit => rfl
  | @dialClosed d a own mem gone =>
    rw [Action.no_call_of_dial own]
    unfold Connection.dialClosed
    split <;> rfl
  | callerFails e own mem caller up =>
    rw [Action.no_call_of_dial own]
    rfl
  | redialFails e own mem redial up =>
    rw [Action.no_call_of_dial own]
    exact scheduleReconnect_requests
  | @callerInstalls d mem caller up fit =>
    exact ((h.dropDialer d.number).install_frame up).2.2
  | @redialInstalls d mem redial up fit =>
    exact ((h.dropDialer d.number).install_frame up).2.2
  | arrives item there => rfl
  | delivers at_ going up head => rfl
  | ends e own live tame =>
    rw [Action.no_call_of_task own, h.endSession_eq live]
    exact (afterEnd_frame e).2.2
  | sends quiet => exact quiet.requests
  | quiet look quiet =>
    rw [look]
    exact quiet.requests
  | disconnectsAgain gone => rfl
  | disconnectsIdle up idle => rfl
  | disconnects teardown up installed own => rfl
  | @tornDown t g waiting close => exact retire_requests (c := { c with teardown := none })

/-! ## The calls that connect -/

/-- A call has returned, or its dial goes on. -/
def Held (c : Connection) (call : Nat) : Prop :=
  (∃ outcome, (call, outcome) ∈ outcomes c.history) ∨
    ∃ d ∈ c.dialers, d.number = call ∧ d.byCaller = true

/-- A call that has returned has returned for good. -/
theorem outcomes_of_grown {c c' : Connection} (grown : ∃ new, c'.history = new ++ c.history)
    {x : Nat × Outcome} (returned : x ∈ outcomes c.history) : x ∈ outcomes c'.history := by
  obtain ⟨new, grown⟩ := grown
  rw [grown, outcomes, List.filterMap_append]
  exact List.mem_append_right _ returned

/-- No two dials have one number. -/
theorem Sound.dialer_unique (h : Sound c) {d d' : Dialer} (mem : d ∈ c.dialers)
    (mem' : d' ∈ c.dialers) (same : d.number = d'.number) : d = d' :=
  List.inj_on_of_nodup_map h.numbers mem mem' same

/-- The dial of a caller stays after a redial is dropped. -/
theorem Sound.mem_dropDialer (h : Sound c) {d d' : Dialer} (mem : d ∈ c.dialers)
    (redial : d.byCaller = false) (mem' : d' ∈ c.dialers) (caller : d'.byCaller = true) :
    d' ∈ (c.dropDialer d.number).dialers := by
  refine List.mem_filter.mpr ⟨mem', ?_⟩
  rw [bne_iff_ne]
  intro same
  rw [h.dialer_unique mem' mem same, redial] at caller
  cases caller

/-- A dial that is dropped was this one or stays. -/
theorem mem_or_mem_dropDialer {d' : Dialer} (mem' : d' ∈ c.dialers) (number : Nat) :
    d'.number = number ∨ d' ∈ (c.dropDialer number).dialers := by
  by_cases same : d'.number = number
  · exact .inl same
  · exact .inr (List.mem_filter.mpr ⟨mem', bne_iff_ne.mpr same⟩)

/-- To schedule a redial leaves the dials there are. -/
theorem mem_scheduleReconnect {d : Dialer} (mem : d ∈ c.dialers) :
    d ∈ c.scheduleReconnect.dialers := by
  unfold scheduleReconnect
  split
  · exact mem
  · dsimp only
    split
    · exact mem
    · exact List.mem_append_left _ mem

/-- What follows the end of a session leaves the dials there are. -/
theorem mem_settleEnd {d : Dialer} (mem : d ∈ c.dialers) : d ∈ c.settleEnd.dialers := by
  unfold settleEnd
  split
  · exact mem
  · exact mem_scheduleReconnect mem

/-- The end of a session leaves the dials there are. -/
theorem mem_afterEnd {d : Dialer} (e : Option ConnectionError) (mem : d ∈ c.dialers) :
    d ∈ (c.afterEnd i e).dialers := by
  cases e with
  | none => exact mem_settleEnd mem
  | some e => exact mem_settleEnd mem

/-- The call that begins is held. -/
theorem Move.holds_connect {c' : Connection} (m : Move c .connect c') : Held c' c.fresh := by
  cases m with
  | refused gone => exact .inl ⟨_, List.mem_cons_self⟩
  | unfit e up bad => exact .inl ⟨_, List.mem_cons_self⟩
  | loads up => exact .inr ⟨_, List.mem_append_right _ List.mem_cons_self, rfl, rfl⟩
  | dials deadline up fit => exact .inr ⟨_, List.mem_append_right _ List.mem_cons_self, rfl, rfl⟩
  | dialClosed own mem gone => cases own
  | callerFails e own mem caller up => cases own
  | redialFails e own mem redial up => cases own
  | ends e own live tame => cases own
  | quiet look quiet => cases look

/-- The dial of a caller has come to its end: the caller is answered, and unless the connection is
going down it is connected or in error, with every redial where it was. -/
structure Ended (c c' : Connection) (call : Nat) : Prop where
  answered : ∃ outcome, (call, outcome) ∈ outcomes c'.history
  state : c.cancelled = false → c'.state = .connected ∨ c'.state = .error
  redials : c.cancelled = false → ∀ r ∈ c.dialers, r.byCaller = false → r ∈ c'.dialers

/-- The dial of a caller goes on, or it comes to its end. -/
theorem Move.holds_dial (h : Sound c) {a : Action} {c' : Connection} (m : Move c a c')
    {d' : Dialer} (mem' : d' ∈ c.dialers) (caller' : d'.byCaller = true) :
    (∃ d ∈ c'.dialers, d.number = d'.number ∧ d.byCaller = true) ∨ Ended c c' d'.number := by
  have goes_on {c' : Connection} (mem : d' ∈ c'.dialers) :
      (∃ d ∈ c'.dialers, d.number = d'.number ∧ d.byCaller = true) ∨ Ended c c' d'.number :=
    .inl ⟨d', mem, rfl, caller'⟩
  have given {c : Connection} (mem : d' ∈ c.dialers) : d' ∈ c.giveWay.dialers := by
    rw [giveWay_frame.2.2.1]
    exact mem
  -- a redial has another number than the dial of a caller, and stays when that is dropped
  have others {r : Dialer} (mem : r ∈ c.dialers) (redial : r.byCaller = false) :
      r ∈ (c.dropDialer d'.number).dialers := by
    rcases mem_or_mem_dropDialer mem d'.number with same | other
    · rw [h.dialer_unique mem mem' same, caller'] at redial
      cases redial
    · exact other
  cases m with
  | refused gone => exact goes_on mem'
  | unfit e up bad => exact goes_on (given (c := c.begin .connect) mem')
  | loads up => exact goes_on (List.mem_append_left _ (given (c := c.begin .connect) mem'))
  | dials deadline up fit =>
    exact goes_on (List.mem_append_left _ (given (c := c.begin .connect) mem'))
  | redialLoads mem redial up =>
    exact goes_on (List.mem_append_left _ (given (h.mem_dropDialer mem redial mem' caller')))
  | redialDials deadline mem redial up =>
    exact goes_on (List.mem_append_left _ (given (h.mem_dropDialer mem redial mem' caller')))
  | @loaded d deadline mem up fit =>
    rcases mem_or_mem_dropDialer mem' d.number with same | other
    · obtain rfl := h.dialer_unique mem' mem same
      exact .inl ⟨_, List.mem_append_right _ List.mem_cons_self, rfl, caller'⟩
    · exact goes_on (List.mem_append_left _ other)
  | @dialClosed d a own mem gone =>
    have going {p : Prop} (up : c.cancelled = false) : p := by
      rw [gone] at up
      cases up
    rcases mem_or_mem_dropDialer mem' d.number with same | other
    · obtain rfl := h.dialer_unique mem' mem same
      rw [Connection.dialClosed, if_pos caller']
      exact .inr ⟨⟨_, List.mem_cons_self⟩, going, going⟩
    · rw [Connection.dialClosed]
      split <;> exact goes_on other
  | @callerFails d a e own mem caller up =>
    rcases mem_or_mem_dropDialer mem' d.number with same | other
    · obtain rfl := h.dialer_unique mem' mem same
      have error : ((c.dropDialer d'.number).dialError d'.number e).state = .error :=
        enter_of_open (c := (c.dropDialer d'.number).fail none e) (h.unclosed up) .error
      exact .inr ⟨⟨_, List.mem_cons_self⟩, fun _ => .inr error, fun _ _ => others⟩
    · exact goes_on other
  | redialFails e own mem redial up =>
    refine goes_on (mem_scheduleReconnect ?_)
    exact h.mem_dropDialer mem redial mem' caller'
  | @callerInstalls d mem caller up fit =>
    have kept := ((h.dropDialer d.number).install_frame up).2.1
    rcases mem_or_mem_dropDialer mem' d.number with same | other
    · obtain rfl := h.dialer_unique mem' mem same
      refine .inr ⟨⟨_, List.mem_cons_self⟩, fun _ => .inl ?_, fun _ r mem redial => ?_⟩
      · exact ((h.dropDialer d'.number).install_frame up).1
      · rw [answer, Connection.note, kept]
        exact others mem redial
    · refine goes_on ?_
      rw [answer, Connection.note, kept]
      exact other
  | @redialInstalls d mem redial up fit =>
    refine goes_on ?_
    rw [((h.dropDialer d.number).install_frame up).2.1]
    exact h.mem_dropDialer mem redial mem' caller'
  | arrives item there => exact goes_on mem'
  | delivers at_ going up head => exact goes_on mem'
  | @ends i a g e own live tame =>
    rw [h.endSession_eq live]
    exact goes_on (mem_afterEnd (c := c.vacate i) e mem')
  | sends quiet => exact goes_on (quiet.dialers ▸ mem')
  | quiet look quiet => exact goes_on (quiet.dialers ▸ mem')
  | disconnectsAgain gone => exact goes_on mem'
  | disconnectsIdle up idle => exact goes_on mem'
  | disconnects teardown up installed own => exact goes_on mem'
  | @tornDown t g waiting close =>
    refine goes_on ?_
    have beside := beside_retire (c := { c with teardown := none }) (i := t.session)
    show d' ∈ ({ c with teardown := none }.retire t.session).dialers
    rw [beside.dialers]
    exact mem'

/-- Whoever connects is answered, or a dial goes on for the call. -/
theorem Reachable.held {settings : ConnectionSettings} (reachable : Reachable settings c)
    {call : Nat} (asked : (call, .connect) ∈ requests c.history) : Held c call := by
  induction reachable with
  | new => cases asked
  | @step c c' a before stepped ih =>
    have h := before.sound
    have m := move_of_step h stepped
    rw [m.requests h] at asked
    rcases List.mem_append.mp asked with now | earlier
    · cases a with
      | connect =>
        obtain ⟨rfl, _⟩ := Prod.mk.inj (List.mem_singleton.mp now)
        exact m.holds_connect
      | disconnect => cases List.mem_singleton.mp now
      | send frame => cases List.mem_singleton.mp now
      | _ => cases now
    · rcases ih earlier with ⟨outcome, returned⟩ | ⟨d, mem, rfl, caller⟩
      · exact .inl ⟨outcome, outcomes_of_grown (m.beats h).grown returned⟩
      · exact (m.holds_dial h mem caller).symm.imp (·.answered) id

end StationPool.Connection
