import StationPool.Proofs.Connection.Pending
import StationPool.Proofs.Connection.Presence

/-!
# Redials and callers

A connection that loses its session redials after a backoff, and only a disconnect calls that off. A
caller may connect meanwhile, and then two dials race that know nothing of each other. `Respects`
is what a step owes the caller: one redial at most is pending, none where the connection is
connected or in error, and no session that lives is ended by a redial. A run keeps to it exactly as
long as no dial of a caller comes to its end while a redial is pending (`Clash`).
-/

namespace StationPool.Connection

variable {c : Connection} {i : Nat}

/-- Who may end a session that lives: one of its tasks, a disconnect, or a caller who connects. -/
def Entitled (c : Connection) (a : Action) (i : Nat) : Prop :=
  a.task? = some i ∨ a = .connect ∨ a = .disconnect ∨ a = .lookTeardown ∨
    ∃ d ∈ c.dialers, a.dial? = some d.number ∧ d.byCaller = true

/-- What a step owes the caller. -/
def Respects (c : Connection) (a : Action) (c' : Connection) : Prop :=
  c'.redials.length ≤ 1 ∧
  (c'.state = .connected ∨ c'.state = .error → c'.redials = []) ∧
  ∀ i, c.Live i → ¬ c'.Live i → Entitled c a i

/-- The dial of a caller comes to its end while a redial is pending. -/
def Clash (c c' : Connection) : Prop :=
  c.cancelled = false ∧ c.redials ≠ [] ∧
    ∃ d ∈ c.dialers, d.byCaller = true ∧ d.number ∉ c'.dialers.map (·.number)

/-- Something holds of every step of a run. -/
def Along (P : Connection → Action → Connection → Prop) : Connection → List Action → Prop
  | _, [] => True
  | c, a :: as => ∀ c', c.step a = some c' → P c a c' ∧ Along P c' as

/-- The redials, as long as no dial of a caller came between: one at most, and none beside a session
or where the connection is connected or in error. -/
structure Lone (c : Connection) : Prop where
  one : c.redials.length ≤ 1
  slot : ∀ i, c.slot = some i → c.redials = []
  state : c.state = .connected ∨ c.state = .error → c.redials = []

/-! ## Redials -/

/-- The redials are the dials that no caller made. -/
theorem mem_redials {d : Dialer} : d ∈ c.redials ↔ d ∈ c.dialers ∧ d.byCaller = false := by
  rw [redials, List.mem_filter, Bool.not_eq_true']

/-- Who has the same dials has the same redials. -/
theorem redials_congr {c' : Connection} (same : c'.dialers = c.dialers) :
    c'.redials = c.redials := by
  rw [redials, redials, same]

/-- A dial that ends adds no redial. -/
theorem redials_dropDialer_length (number : Nat) :
    (c.dropDialer number).redials.length ≤ c.redials.length :=
  (List.filter_sublist.filter _).length_le

/-- Where there is no redial, the end of a dial leaves none. -/
theorem redials_dropDialer_nil (none_ : c.redials = []) (number : Nat) :
    (c.dropDialer number).redials = [] := by
  have bound := redials_dropDialer_length (c := c) number
  rw [none_] at bound
  exact List.length_eq_zero_iff.mp (Nat.le_zero.mp bound)

/-- A dial of a caller is no redial. -/
theorem redials_addDialer_caller (number : Nat) (stage : Stage) :
    (c.addDialer number true stage).redials = c.redials := by
  rw [redials, addDialer, List.filter_append]
  exact List.append_nil _

/-- A redial that begins is one more. -/
theorem redials_addDialer_redial (number : Nat) (stage : Stage) :
    (c.addDialer number false stage).redials = c.redials ++ [⟨number, false, stage⟩] := by
  rw [redials, addDialer, List.filter_append]
  rfl

namespace Lone

/-- A connection without redials has one at most. -/
theorem of_nil (none_ : c.redials = []) : Lone c where
  one := by rw [none_]; exact Nat.zero_le 1
  slot _ _ := none_
  state _ := none_

/-- Nothing is installed, and the connection is neither connected nor in error. -/
theorem vacant (one : c.redials.length ≤ 1) (empty : c.slot = none)
    (apart : c.state ≠ .connected ∧ c.state ≠ .error) : Lone c where
  one := one
  slot i installed := by
    rw [empty] at installed
    cases installed
  state settled := settled.elim (absurd · apart.1) (absurd · apart.2)

/-- A redial that goes is the only one. -/
theorem dropDialer (l : Lone c) {d : Dialer} (mem : d ∈ c.dialers) (redial : d.byCaller = false) :
    (c.dropDialer d.number).redials = [] := by
  have own : c.redials = [d] := by
    have there := mem_redials.mpr ⟨mem, redial⟩
    have one := l.one
    cases all : c.redials with
    | nil => rw [all] at there; cases there
    | cons first rest =>
      rw [all] at there one
      cases rest with
      | nil => rw [List.mem_singleton.mp there]
      | cons _ _ => simp at one
  refine List.eq_nil_iff_forall_not_mem.mpr fun d' mem' => ?_
  obtain ⟨kept, redial'⟩ := mem_redials.mp mem'
  obtain ⟨old, other⟩ := List.mem_filter.mp kept
  have same := mem_redials.mpr ⟨old, redial'⟩
  rw [own, List.mem_singleton] at same
  rw [same, bne_self_eq_false] at other
  cases other

/-- While a redial is pending, nothing is installed. -/
theorem empty (l : Lone c) {d : Dialer} (mem : d ∈ c.dialers) (redial : d.byCaller = false) :
    c.slot = none := by
  cases installed : c.slot with
  | none => rfl
  | some i =>
    have there := mem_redials.mpr ⟨mem, redial⟩
    rw [l.slot i installed] at there
    cases there

/-- A redial is scheduled where none is pending. -/
theorem scheduleReconnect (none_ : c.redials = []) (empty : c.slot = none)
    (unclosed : c.state ≠ .closed) : Lone c.scheduleReconnect := by
  by_cases spent : c.settings.maxReconnectAttempts ≤ c.attempts
  · rw [scheduleReconnect_of_spent spent]
    exact .of_nil none_
  · rw [scheduleReconnect_of_left spent unclosed]
    have one (d : Dialer) : ((c.dialers ++ [d]).filter (!·.byCaller)).length ≤ 1 := by
      have before : c.dialers.filter (!·.byCaller) = [] := none_
      rw [List.filter_append, before, List.nil_append]
      exact List.length_filter_le _ [d]
    exact .vacant (one _) empty ⟨nofun, nofun⟩

end Lone

/-- What follows the end of a session schedules one redial at most, if there was none while the
connection was up. -/
theorem Lone.settleEnd (one : c.redials.length ≤ 1)
    (none_ : c.cancelled = false → c.redials = []) (empty : c.slot = none)
    (unclosed : c.cancelled = false → c.state ≠ .closed) : Lone c.settleEnd := by
  unfold Connection.settleEnd
  cases up : c.cancelled with
  | true =>
    rw [if_pos rfl]
    refine .vacant one empty ?_
    rw [enter_closed_state]
    decide
  | false =>
    rw [if_neg Bool.false_ne_true]
    exact .scheduleReconnect (none_ up) empty (unclosed up)

/-- The same holds of the whole end of a session, an error told or not. -/
theorem Lone.afterEnd (one : c.redials.length ≤ 1)
    (none_ : c.cancelled = false → c.redials = []) (empty : c.slot = none)
    (unclosed : c.cancelled = false → c.state ≠ .closed) (e : Option ConnectionError) :
    Lone (c.afterEnd i e) := by
  have entered (up : c.cancelled = false) : (c.enter .disconnected).state ≠ .closed := by
    rw [enter_of_open (unclosed up)]
    exact nofun
  cases e with
  | none => exact .settleEnd one none_ empty entered
  | some e => exact .settleEnd one none_ empty entered

/-- A dial that goes leaves the others as they were. -/
theorem Lone.drop (l : Lone c) (number : Nat) : Lone (c.dropDialer number) where
  one := Nat.le_trans (redials_dropDialer_length number) l.one
  slot i installed := redials_dropDialer_nil (l.slot i installed) number
  state settled := redials_dropDialer_nil (l.state settled) number

/-- The redials, the slot and the state are as they were. -/
theorem Lone.congr {c' : Connection} (l : Lone c) (dialers : c'.dialers = c.dialers)
    (slot : c'.slot = c.slot) (state : c'.state = c.state) : Lone c' where
  one := by rw [redials_congr dialers]; exact l.one
  slot i installed := by
    rw [redials_congr dialers]
    exact l.slot i (slot ▸ installed)
  state settled := by
    rw [redials_congr dialers]
    exact l.state (state ▸ settled)

/-- Where a dial of a caller begins, it stands beside the redials. -/
theorem Lone.dialing (l : Lone c) (h : Sound c) (up : c.cancelled = false) (number : Nat)
    (stage : Stage) : Lone (c.giveWay.addDialer number true stage) := by
  obtain ⟨empty, connecting⟩ := h.giveWay_vacant up
  have kept := redials_congr (giveWay_frame (c := c)).2.2.1
  have apart : c.giveWay.state ≠ .connected ∧ c.giveWay.state ≠ .error := by
    rw [connecting]
    decide
  refine .vacant ?_ empty apart
  rw [redials_addDialer_caller, kept]
  exact l.one

/-- Where a redial begins, it is the only one. -/
theorem Lone.redialing (l : Lone c) (h : Sound c) (up : c.cancelled = false) {d : Dialer}
    (mem : d ∈ c.dialers) (redial : d.byCaller = false) (stage : Stage) :
    Lone ((c.dropDialer d.number).giveWay.addDialer d.number false stage) := by
  obtain ⟨empty, connecting⟩ := (h.dropDialer d.number).giveWay_vacant up
  have kept := redials_congr (giveWay_frame (c := c.dropDialer d.number)).2.2.1
  have apart : (c.dropDialer d.number).giveWay.state ≠ .connected ∧
      (c.dropDialer d.number).giveWay.state ≠ .error := by
    rw [connecting]
    decide
  refine .vacant ?_ empty apart
  rw [redials_addDialer_redial, kept, l.dropDialer mem redial]
  exact Nat.le_refl 1

/-- Without a clash, the redials stay apart from sessions and callers. -/
theorem Lone.move (l : Lone c) (h : Sound c) {a : Action} {c' : Connection} (m : Move c a c')
    (calm : ¬ Clash c c') : Lone c' := by
  have begun : Lone (c.begin .connect) := l.congr rfl rfl rfl
  have calm_of {d : Dialer} (up : c.cancelled = false) (mem : d ∈ c.dialers)
      (caller : d.byCaller = true) (gone : d.number ∉ c'.dialers.map (·.number)) :
      c.redials = [] := by
    by_contra pending
    exact calm ⟨up, pending, d, mem, caller, gone⟩
  cases m with
  | refused gone => exact l.congr rfl rfl rfl
  | unfit e up bad =>
    have none_ : c.redials = [] := by
      refine List.eq_nil_iff_forall_not_mem.mpr fun d pending => ?_
      obtain ⟨mem, redial⟩ := mem_redials.mp pending
      exact bad (h.fit mem (.inl redial))
    have kept := giveWay_frame (c := c.begin .connect)
    exact .of_nil ((redials_congr kept.2.2.1).trans none_)
  | loads up => exact begun.dialing (h.begin .connect) up c.fresh .loading
  | dials deadline up fit =>
    exact (begun.dialing (h.begin .connect) up c.fresh (.handshaking deadline)).congr rfl rfl rfl
  | redialLoads mem redial up => exact l.redialing h up mem redial .loading
  | redialDials deadline mem redial up =>
    exact (l.redialing h up mem redial (.handshaking deadline)).congr rfl rfl rfl
  | @loaded d deadline mem up fit =>
    have again : Lone ((c.dropDialer d.number).addDialer d.number d.byCaller
        (.handshaking deadline)) := by
      cases caller : d.byCaller with
      | true =>
        have same := redials_addDialer_caller (c := c.dropDialer d.number) d.number
          (.handshaking deadline)
        have dropped := l.drop d.number
        exact ⟨same ▸ dropped.one, fun i installed => same.trans (dropped.slot i installed),
          fun settled => same.trans (dropped.state settled)⟩
      | false =>
        have same := redials_addDialer_redial (c := c.dropDialer d.number) d.number
          (.handshaking deadline)
        rw [l.dropDialer mem caller, List.nil_append] at same
        have pending : c.redials ≠ [] := List.ne_nil_of_mem (mem_redials.mpr ⟨mem, caller⟩)
        exact ⟨Nat.le_of_eq (congrArg List.length same),
          fun i installed => absurd (l.slot i installed) pending,
          fun settled => absurd (l.state settled) pending⟩
    exact again.congr rfl rfl rfl
  | @dialClosed d a own mem gone =>
    rw [Connection.dialClosed]
    split <;> exact (l.drop d.number).congr rfl rfl rfl
  | @callerFails d a e own mem caller up =>
    have none_ := calm_of up mem caller (not_mem_dropDialer d.number)
    exact .of_nil (redials_dropDialer_nil none_ d.number)
  | @redialFails d a e own mem redial up =>
    exact .scheduleReconnect (c := (c.dropDialer d.number).fail none e) (l.dropDialer mem redial)
      (l.empty mem redial) (h.unclosed up)
  | @callerInstalls d mem caller up fit =>
    have kept := ((h.dropDialer d.number).install_frame up).2.1
    have none_ := calm_of up mem caller (kept ▸ not_mem_dropDialer d.number)
    exact .of_nil ((redials_congr kept).trans (redials_dropDialer_nil none_ d.number))
  | @redialInstalls d mem redial up fit =>
    have kept := ((h.dropDialer d.number).install_frame up).2.1
    exact .of_nil ((redials_congr kept).trans (l.dropDialer mem redial))
  | arrives item there => exact l.congr rfl rfl rfl
  | delivers at_ going up head => exact l.congr rfl rfl rfl
  | @ends i a g e own live tame =>
    have none_ (up : c.cancelled = false) := l.slot i (h.installed up i live)
    have ended : Lone ((c.vacate i).afterEnd i e) :=
      .afterEnd (c := c.vacate i) l.one none_ rfl h.unclosed e
    rw [h.endSession_eq live]
    exact ended.congr rfl rfl rfl
  | sends quiet => exact (l.congr rfl rfl rfl).congr quiet.dialers quiet.slot quiet.state
  | quiet look quiet => exact l.congr quiet.dialers quiet.slot quiet.state
  | disconnectsAgain gone => exact l.congr rfl rfl rfl
  | disconnectsIdle up idle =>
    refine .vacant l.one rfl ?_
    rw [closeDown, answer, Connection.note, enter_closed_state]
    decide
  | disconnects teardown up installed own =>
    refine ⟨l.one, ?_, l.state⟩
    intro i installed'
    cases installed'
  | @tornDown t g waiting close =>
    have beside := beside_retire (c := { c with teardown := none }) (i := t.session)
    have closed : ((c.finishTeardown t).modifySession t.session g).state = .closed :=
      enter_closed_state
    refine .vacant ?_ (retire_slot.trans (h.empty (h.teardown t waiting).1)) ?_
    · have kept : ((c.finishTeardown t).modifySession t.session g).redials = c.redials :=
        redials_congr beside.dialers
      rw [kept]
      exact l.one
    · rw [closed]
      decide

/-- Without a clash before, a session that lives is ended by whoever is entitled to. -/
theorem Lone.entitled (l : Lone c) (h : Sound c) {a : Action} {c' : Connection} (m : Move c a c')
    (live : c.Live i) (dead : ¬ c'.Live i) : Entitled c a i := by
  have alone {d : Dialer} {p : Prop} (mem : d ∈ c.dialers) (redial : d.byCaller = false)
      (up : c.cancelled = false) : p := by
    have installed := h.installed up i live
    rw [l.empty mem redial] at installed
    cases installed
  cases m with
  | refused gone => exact absurd live dead
  | unfit e up bad => exact .inr (.inl rfl)
  | loads up => exact .inr (.inl rfl)
  | dials deadline up fit => exact .inr (.inl rfl)
  | redialLoads mem redial up => exact alone mem redial up
  | redialDials deadline mem redial up => exact alone mem redial up
  | loaded deadline mem up fit => exact absurd live dead
  | dialClosed own mem gone =>
    rw [Connection.dialClosed] at dead
    split at dead <;> exact absurd live dead
  | callerFails e own mem caller up => exact absurd live dead
  | redialFails e own mem redial up => exact alone mem redial up
  | callerInstalls mem caller up fit =>
    exact .inr (.inr (.inr (.inr ⟨_, mem, rfl, caller⟩)))
  | redialInstalls mem redial up fit => exact alone mem redial up
  | @arrives j item there =>
    have arrived : (c.modifySession j fun s => { s with inbox := s.inbox ++ [item] }).Live i := by
      refine (live_modifySession ?_).mpr live
      exact fun _ _ => rfl
    exact absurd arrived dead
  | @delivers j s payload rest at_ going up head =>
    have popped : (c.modifySession j ({ · with inbox := rest })).Live i := by
      refine (live_modifySession ?_).mpr live
      exact fun _ _ => rfl
    have renewed : ((c.modifySession j ({ · with inbox := rest })).renewRead j).Live i := by
      refine (live_modifySession ?_).mpr popped
      exact fun _ _ => rfl
    exact absurd renewed dead
  | ends e own lives tame =>
    rw [h.live_unique live lives]
    exact .inl own
  | sends quiet => exact absurd (quiet.live.mpr live) dead
  | quiet look quiet => exact absurd (quiet.live.mpr live) dead
  | disconnectsAgain gone => exact absurd live dead
  | disconnectsIdle up idle => exact .inr (.inr (.inl rfl))
  | disconnects teardown up installed own => exact .inr (.inr (.inl rfl))
  | tornDown waiting close => exact .inr (.inr (.inr (.inl rfl)))

/-- A clash leaves a redial behind where the connection is connected or in error. -/
theorem not_respects_of_clash (h : Sound c) {a : Action} {c' : Connection} (m : Move c a c')
    (clash : Clash c c') : ¬ Respects c a c' := by
  rintro ⟨_, apart, _⟩
  obtain ⟨up, pending, d, mem, caller, gone⟩ := clash
  obtain ⟨r, there⟩ := List.exists_mem_of_ne_nil _ pending
  obtain ⟨mem', redial⟩ := mem_redials.mp there
  rcases m.holds_dial h mem caller with ⟨d', kept, same, _⟩ | ended
  · exact gone (List.mem_map.mpr ⟨d', kept, same⟩)
  · have stays := mem_redials.mpr ⟨ended.redials up r mem' redial, redial⟩
    rw [apart (ended.state up)] at stays
    cases stays

/-- On every run, each step keeps to what it owes the caller if and only if on every step no dial of
a caller comes to its end while a redial is pending. -/
theorem respects_along (settings : ConnectionSettings) (as : List Action) :
    Along Respects (new settings) as ↔ Along (fun c _ c' => ¬ Clash c c') (new settings) as := by
  have from_lone (as : List Action) : ∀ c : Connection, Sound c → Lone c →
      (Along Respects c as ↔ Along (fun c _ c' => ¬ Clash c c') c as) := by
    induction as with
    | nil => exact fun _ _ _ => Iff.rfl
    | cons a as ih =>
      intro c h l
      constructor
      · intro along c' stepped
        have m := move_of_step h stepped
        obtain ⟨respects, rest⟩ := along c' stepped
        have calm : ¬ Clash c c' := fun clash => not_respects_of_clash h m clash respects
        exact ⟨calm, (ih c' (h.move m) (l.move h m calm)).mp rest⟩
      · intro along c' stepped
        have m := move_of_step h stepped
        obtain ⟨calm, rest⟩ := along c' stepped
        have l' := l.move h m calm
        exact ⟨⟨l'.one, l'.state, fun _ => l.entitled h m⟩, (ih c' (h.move m) l').mpr rest⟩
  exact from_lone as (new settings) (sound_new settings) (.of_nil rfl)

/-- What holds of every step of a run holds of the last. -/
theorem along_last {P : Connection → Action → Connection → Prop} {as : List Action} {a : Action}
    {e e' : Connection} (along : Along P c (as ++ [a])) (run : c.after as = some e)
    (stepped : e.step a = some e') : P e a e' := by
  induction as generalizing c with
  | nil =>
    cases run
    exact (along e' stepped).1
  | cons b as ih =>
    rw [after_cons] at run
    obtain ⟨next, first, rest⟩ := Option.bind_eq_some_iff.mp run
    exact ih (along next first).2 rest

/-- A caller connects again while a redial waits in its backoff. -/
def overtakenRedial : List Action :=
  [.connect, .dial 0 (.ok ()), .arrive 0 .ended, .lookReader 0, .connect, .dial 2 (.ok ()),
    .advance 60000000000]

/-- When the backoff is over, the redial ends the session of the caller. -/
theorem redial_ends_live_session :
    ¬ Along Respects (new plain) (overtakenRedial ++ [.lookDialer 1]) := by
  intro along
  obtain ⟨e, run, _, outcome⟩ := @reachable_of_run plain overtakenRedial
    (fun e => e.fates = [true, false] ∧ e.dialers.all (!·.byCaller) = true ∧
      (e.step (.lookDialer 1)).map (·.fates) = some [true, true]) (by decide +kernel)
  obtain ⟨fates, redials, looked⟩ := of_decide_eq_true outcome
  obtain ⟨e', stepped, fates'⟩ := Option.map_eq_some_iff.mp looked
  have live : e.Live 1 := by
    rw [live_iff_fates, fates]
    rfl
  have dead : ¬ e'.Live 1 := by
    rw [live_iff_fates, fates']
    exact nofun
  have entitled := (along_last along run stepped).2.2 1 live dead
  rcases entitled with own | connect | disconnect | teardown | ⟨d, mem, _, caller⟩
  · cases own
  · cases connect
  · cases disconnect
  · cases teardown
  · have redial := List.all_eq_true.mp redials d mem
    rw [caller] at redial
    cases redial

end StationPool.Connection
