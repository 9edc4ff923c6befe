import StationPool.Proofs.Connection.Steps

/-!
# Soundness

Every reachable connection is sound: at most one session lives, it is the newest, and until the
connection goes down it is the installed one; dials have numbers of their own; and every call has
one, too. The invariant is kept by the pieces that moves are made of (`Sound.begin`,
`Sound.vacate`, `Sound.install`, …), hence by every move (`Sound.move`), hence along every run
(`Reachable.sound`).
-/

namespace StationPool.Connection

variable {c : Connection} {i : Nat}

/-! ## Entries and calls -/

/-- Nothing but a call is a request. -/
theorem requests_note {w : Happening} (plain : w.request? = none) :
    requests (c.note w).history = requests c.history := by
  simp only [note, requests, List.filterMap_cons, plain]

/-- An entry that is no call. -/
theorem Sound.note (h : Sound c) {w : Happening} (plain : w.request? = none) :
    Sound (c.note w) := by
  have same := requests_note (c := c) plain
  exact { h with
    calls := by rw [same]; exact h.calls
    called := by rw [same]; exact h.called
    callers := by rw [same]; exact h.callers
    tickets := by rw [same]; exact h.tickets
    teardown := by rw [same]; exact h.teardown }

/-- A call has a number of its own, which no call and no dial has had before. -/
theorem Sound.begin (h : Sound c) (request : Request) : Sound (c.begin request) := by
  have fresh : c.fresh ∉ (requests c.history).map (·.1) := by
    intro mem
    obtain ⟨q, asked, number⟩ := List.mem_map.mp mem
    have := h.called q asked
    omega
  refine { h with
    issued := fun d mem => Nat.lt_succ_of_lt (h.issued d mem)
    calls := List.nodup_cons.mpr ⟨fresh, h.calls⟩
    called := ?_
    callers := fun d mem caller => List.mem_cons_of_mem _ (h.callers d mem caller)
    tickets := ?_
    teardown := ?_ }
  · intro q asked
    rcases List.mem_cons.mp asked with rfl | before
    · exact Nat.lt_succ_self _
    · exact Nat.lt_succ_of_lt (h.called q before)
  · intro s mem b waits
    obtain ⟨frame, asked⟩ := h.tickets s mem b waits
    exact ⟨frame, List.mem_cons_of_mem _ asked⟩
  · intro t waiting
    obtain ⟨gone, asked⟩ := h.teardown t waiting
    exact ⟨gone, List.mem_cons_of_mem _ asked⟩

/-- The end of a call changes nothing that has to be sound. -/
theorem Sound.answer (h : Sound c) (call : Nat) (outcome : Outcome) :
    Sound (c.answer call outcome) := h.note rfl

/-- Nor does what the observer is told. -/
theorem Sound.tell (h : Sound c) (session : Option Nat) (what : Observation) :
    Sound (c.tell session what) := h.note rfl

/-- Nor does an error that is kept. -/
theorem Sound.fail (h : Sound c) (session : Option Nat) (e : ConnectionError) :
    Sound (c.fail session e) := by
  have kept : Sound { c with lastError := some e } := { h with }
  exact kept.tell session _

/-- A connection may enter every state, but the closed one only once it is going down. -/
theorem Sound.enter (h : Sound c) (next : Lifecycle)
    (closing : next = .closed → c.cancelled = true) : Sound (c.enter next) := by
  refine { h with closed := ?_ }
  intro closed
  rw [enter_state] at closed
  cases state : c.state with
  | closed => exact h.closed state
  | _ => rw [state] at closed; exact closing closed

/-! ## Dials -/

/-- A dial that goes leaves the others with numbers of their own. -/
theorem Sound.dropDialer (h : Sound c) (number : Nat) : Sound (c.dropDialer number) := by
  have kept {d : Dialer} (mem : d ∈ (c.dropDialer number).dialers) : d ∈ c.dialers :=
    (List.mem_filter.mp mem).1
  exact { h with
    numbers := (List.filter_sublist.map _).nodup h.numbers
    issued := fun d mem => h.issued d (kept mem)
    sleeping := fun d mem => h.sleeping d (kept mem)
    dialable := fun d mem => h.dialable d (kept mem)
    callers := fun d mem => h.callers d (kept mem) }

/-- A dropped dial is gone. -/
theorem not_mem_dropDialer (number : Nat) :
    number ∉ (c.dropDialer number).dialers.map (·.number) := by
  intro mem
  obtain ⟨d, kept, same⟩ := List.mem_map.mp mem
  have other := (List.mem_filter.mp kept).2
  simp [same] at other

/-- A dial that comes has a number that was given out and that no other dial has, and it is not
asleep; one of a caller answers a connect of that number. Unless it still waits for files, there is
a request to make. -/
theorem Sound.addDialer (h : Sound c) {number : Nat} {byCaller : Bool} {stage : Stage}
    (new : number ∉ c.dialers.map (·.number)) (issued : number < c.fresh)
    (asked : byCaller = true → (number, .connect) ∈ requests c.history)
    (awake : ∀ due, stage ≠ .sleeping due)
    (fit : byCaller = true ∧ stage = .loading ∨ Dialable c.settings) :
    Sound (c.addDialer number byCaller stage) := by
  have split {d : Dialer} (mem : d ∈ (c.addDialer number byCaller stage).dialers) :
      d ∈ c.dialers ∨ d = ⟨number, byCaller, stage⟩ :=
    (List.mem_append.mp mem).imp_right List.mem_singleton.mp
  refine { h with
    numbers := ?_
    issued := fun d mem => (split mem).elim (h.issued d) fun same => same ▸ issued
    sleeping := fun d mem => (split mem).elim (h.sleeping d) fun same due asleep => by
      rw [same] at asleep
      exact absurd asleep (awake due)
    dialable := fun d mem => (split mem).elim (h.dialable d) fun same => same ▸ fit
    callers := fun d mem => (split mem).elim (h.callers d) fun same => same ▸ asked }
  have numbers : (c.addDialer number byCaller stage).dialers.map (·.number) =
      c.dialers.map (·.number) ++ [number] := List.map_append
  rw [numbers]
  exact List.nodup_append.mpr ⟨h.numbers, List.nodup_singleton _, fun a old b added same =>
    new ((List.mem_singleton.mp added) ▸ same ▸ old)⟩

/-- Where the connection is not going down and there is a request to make, a redial with a new
number may be put to sleep. -/
theorem Sound.scheduleReconnect (h : Sound c) (up : c.cancelled = false)
    (fit : Dialable c.settings) : Sound c.scheduleReconnect := by
  by_cases spent : c.settings.maxReconnectAttempts ≤ c.attempts
  · rw [scheduleReconnect_of_spent spent]
    have kept : Sound { c with lastError := some (.reconnectExhausted c.attempts) } := { h with }
    exact (kept.enter .error nofun).tell none _
  · rw [scheduleReconnect_of_left spent (h.unclosed up)]
    generalize c.now + _ = due
    have split {d : Dialer} (mem : d ∈ c.dialers ++ [⟨c.fresh, false, .sleeping due⟩]) :
        d ∈ c.dialers ∨ d = ⟨c.fresh, false, .sleeping due⟩ :=
      (List.mem_append.mp mem).imp_right List.mem_singleton.mp
    refine { h with
      closed := nofun
      numbers := ?_
      issued := ?_
      sleeping := fun d mem => (split mem).elim (h.sleeping d) fun same _ _ => by rw [same]
      dialable := fun _ _ => .inr fit
      callers := ?_
      called := fun q asked => Nat.lt_succ_of_lt (h.called q asked) }
    · rw [List.map_append]
      refine List.nodup_append.mpr ⟨h.numbers, List.nodup_singleton _, ?_⟩
      rintro a old b added rfl
      obtain ⟨d, mem, number⟩ := List.mem_map.mp old
      have issued := h.issued d mem
      rw [number, List.mem_singleton.mp added] at issued
      exact Nat.lt_irrefl _ issued
    · intro d mem
      rcases split mem with old | rfl
      · exact Nat.lt_succ_of_lt (h.issued d old)
      · exact Nat.lt_succ_self _
    · intro d mem caller
      rcases split mem with old | rfl
      · exact h.callers d old caller
      · cases caller

/-! ## Sessions -/

/-- The sessions after a change are those of before but for the one that was changed. -/
theorem mem_modifySession {f : Session → Session} {s' : Session}
    (mem : s' ∈ (c.modifySession i f).sessions) :
    s' ∈ c.sessions ∨ ∃ s, c.sessions[i]? = some s ∧ s' = f s := by
  obtain ⟨j, at_⟩ := List.mem_iff_getElem?.mp mem
  rw [modifySession, List.getElem?_modify] at at_
  obtain ⟨s, before, rfl⟩ := Option.map_eq_some_iff.mp at_
  by_cases own : i = j
  · subst own
    exact .inr ⟨s, before, if_pos rfl⟩
  · rw [if_neg own]
    exact .inl (List.mem_of_getElem? before)

/-- A session in which nothing ends. -/
theorem Sound.modifySession (h : Sound c) {f : Session → Session}
    (keeps : ∀ s, c.sessions[i]? = some s → (f s).ended = s.ended)
    (change : ∀ s, c.sessions[i]? = some s →
      (s.Awake → (f s).Awake) ∧ (f s).Ticketed (requests c.history)) :
    Sound (c.modifySession i f) := by
  have length : (c.modifySession i f).sessions.length = c.sessions.length :=
    List.length_modify f c.sessions i
  have live {j : Nat} : (c.modifySession i f).Live j ↔ c.Live j := live_modifySession keeps
  refine { h with
    slot_live := fun j installed => live.mpr (h.slot_live j installed)
    newest := fun j lives => by rw [length]; exact h.newest j (live.mp lives)
    installed := fun up j lives => h.installed up j (live.mp lives)
    awake := ?_
    reached := ?_
    tickets := ?_ }
  · intro s' mem
    rcases mem_modifySession mem with old | ⟨s, at_, rfl⟩
    · exact h.awake s' old
    · exact (change s at_).1 (h.awake s (List.mem_of_getElem? at_))
  · intro some_
    exact h.reached fun none_ => some_ (List.eq_nil_of_length_eq_zero (by rw [length, none_]; rfl))
  · intro s' mem
    rcases mem_modifySession mem with old | ⟨s, at_, rfl⟩
    · exact h.tickets s' old
    · exact (change s at_).2

/-- After the session that lives is over, none lives. -/
theorem Sound.not_live_vacate (h : Sound c) (live : c.Live i) (j : Nat) :
    ¬ (c.vacate i).Live j := by
  rintro ⟨s', at_, going⟩
  have found : (c.sessions.modify i Session.finish)[j]? = some s' := at_
  rw [List.getElem?_modify] at found
  obtain ⟨s, before, rfl⟩ := Option.map_eq_some_iff.mp found
  by_cases own : i = j
  · rw [if_pos own] at going
    cases going
  · rw [if_neg own] at going
    exact own (h.live_unique live ⟨s, before, going⟩)

/-- The installed session is taken out and over, so that none is installed and none goes on. -/
theorem Sound.vacate (h : Sound c) (live : c.Live i) : Sound (c.vacate i) := by
  have finished {s' : Session} (mem : s' ∈ (c.vacate i).sessions) :
      s' ∈ c.sessions ∨ ∃ s, c.sessions[i]? = some s ∧ s' = s.finish :=
    mem_modifySession (f := Session.finish) mem
  refine { h with
    slot_live := nofun
    slot_up := nofun
    newest := fun j lives => absurd lives (h.not_live_vacate live j)
    installed := fun _ j lives => absurd lives (h.not_live_vacate live j)
    awake := ?_
    reached := ?_
    tickets := ?_ }
  · intro s' mem
    rcases finished mem with old | ⟨s, _, rfl⟩
    · exact h.awake s' old
    · exact nofun
  · obtain ⟨s, at_, _⟩ := live
    exact fun _ => h.reached (List.ne_nil_of_mem (List.mem_of_getElem? at_))
  · intro s' mem
    rcases finished mem with old | ⟨s, at_, rfl⟩
    · exact h.tickets s' old
    · exact h.tickets s (List.mem_of_getElem? at_)

/-- The installed session gives way, if there is one. -/
theorem Sound.retireCurrent (h : Sound c) : Sound c.retireCurrent := by
  cases installed : c.slot with
  | none =>
    rw [retireCurrent_of_empty installed]
    exact h
  | some i =>
    have live := h.slot_live i installed
    rw [retireCurrent_of_slot installed live]
    exact (h.vacate live).tell _ _

/-- The installed session gives way to a dial that begins. -/
theorem Sound.giveWay (h : Sound c) : Sound c.giveWay := by
  rw [giveWay_eq]
  exact h.retireCurrent.enter .connecting nofun

/-- A session is installed where none is. -/
theorem Sound.install_of_empty (h : Sound c) (up : c.cancelled = false)
    (fit : Dialable c.settings) (empty : c.slot = none) : Sound c.install := by
  have none_lives (j : Nat) : ¬ c.Live j := fun live => by
    have installed := h.installed up j live
    rw [empty] at installed
    cases installed
  rw [Connection.install_of_empty empty (h.unclosed up)]
  have at_newest {j : Nat} {s : Session} (at_ : (c.sessions ++ [c.newSession])[j]? = some s)
      (going : s.ended = false) : j = c.sessions.length := by
    rcases Nat.lt_or_ge j c.sessions.length with old | new
    · rw [List.getElem?_append_left old] at at_
      exact absurd ⟨s, at_, going⟩ (none_lives j)
    · have bound := (List.getElem?_eq_some_iff.mp at_).1
      rw [List.length_append, List.length_singleton] at bound
      omega
  refine { h with
    slot_live := ?_
    slot_up := fun _ _ => up
    newest := ?_
    installed := ?_
    closed := nofun
    awake := ?_
    reached := fun _ => fit
    tickets := ?_ }
  · rintro j ⟨⟩
    exact ⟨c.newSession, List.getElem?_concat_length, rfl⟩
  · rintro j ⟨s, at_, going⟩
    show _ = (c.sessions ++ [c.newSession]).length
    rw [at_newest at_ going, List.length_append, List.length_singleton]
  · rintro _ j ⟨s, at_, going⟩
    rw [at_newest at_ going]
  · intro s mem
    rcases List.mem_append.mp mem with old | new
    · exact h.awake s old
    · rw [List.mem_singleton.mp new]
      exact fun _ => nofun
  · intro s mem
    rcases List.mem_append.mp mem with old | new
    · exact h.tickets s old
    · rw [List.mem_singleton.mp new]
      exact nofun

/-- A session that gives way closes nothing. -/
theorem Sound.retireCurrent_unclosed (h : Sound c) (up : c.cancelled = false) :
    c.retireCurrent.state ≠ .closed := by
  rw [beside_retireCurrent.state]
  exact h.unclosed up

/-- To install a session is to let the installed one give way, and to take the empty slot. -/
theorem Sound.install_eq (h : Sound c) (up : c.cancelled = false) :
    c.install = c.retireCurrent.install := by
  cases installed : c.slot with
  | none => rw [retireCurrent_of_empty installed]
  | some i => exact install_of_slot installed (h.slot_live i installed) (h.unclosed up)

/-- A session is installed in the place of the one before: it is the newest and the only one that
goes on. -/
theorem Sound.install (h : Sound c) (up : c.cancelled = false) (fit : Dialable c.settings) :
    Sound c.install := by
  have beside := beside_retireCurrent (c := c)
  rw [h.install_eq up]
  refine h.retireCurrent.install_of_empty ?_ ?_ retireCurrent_slot
  · rw [beside.cancelled]
    exact up
  · rw [beside.settings]
    exact fit

/-- Where a session was installed the connection is connected; the dials and the calls are as they
were. -/
theorem Sound.install_frame (h : Sound c) (up : c.cancelled = false) :
    c.install.state = .connected ∧ c.install.dialers = c.dialers ∧
      requests c.install.history = requests c.history := by
  rw [h.install_eq up,
    Connection.install_of_empty retireCurrent_slot (h.retireCurrent_unclosed up)]
  exact ⟨rfl, beside_retireCurrent.dialers, retireCurrent_requests⟩

/-- What follows the end of a session leaves the connection sound: it is closed if it is going down,
and else a redial is put to sleep or the attempts are spent. -/
theorem Sound.settleEnd (h : Sound c) (fit : Dialable c.settings) : Sound c.settleEnd := by
  unfold Connection.settleEnd
  cases up : c.cancelled with
  | true =>
    rw [if_pos rfl]
    exact h.enter .closed fun _ => up
  | false =>
    rw [if_neg Bool.false_ne_true]
    exact h.scheduleReconnect up fit

/-- The observer is told of the end of a session, with its error if it had one. -/
theorem Sound.afterEnd (h : Sound c) (fit : Dialable c.settings) (e : Option ConnectionError) :
    Sound (c.afterEnd i e) := by
  have entered := h.enter .disconnected nofun
  cases e with
  | none =>
    rw [afterEnd_none]
    exact (entered.tell _ _).settleEnd fit
  | some e =>
    rw [afterEnd_some]
    exact ((entered.fail _ e).tell _ _).settleEnd fit

/-- To end the session that lives is to vacate the slot, and what follows it. -/
theorem Sound.endSession_eq (h : Sound c) (live : c.Live i) (e : Option ConnectionError) :
    c.endSession i e = (c.vacate i).afterEnd i e := by
  cases up : c.cancelled with
  | false => exact endSession_of_slot (h.installed up i live) up live
  | true => exact endSession_of_empty (h.empty up) live

/-- There was a request for the session that goes on, so there is one for the next dial. -/
theorem Live.dialable (live : c.Live i) (h : Sound c) : Dialable c.settings := by
  obtain ⟨s, at_, _⟩ := live
  exact h.reached (List.ne_nil_of_mem (List.mem_of_getElem? at_))

/-- The end of a session that goes on leaves the connection sound, with or without an error. -/
theorem Sound.endSession (h : Sound c) (live : c.Live i) (e : Option ConnectionError) :
    Sound (c.endSession i e) := by
  rw [h.endSession_eq live]
  exact (h.vacate live).afterEnd (live.dialable h) e

/-- The end of a session marks it as over and changes nothing else about it. -/
theorem Sound.finished_of_end (h : Sound c) {s s' : Session} (at_ : c.sessions[i]? = some s)
    (going : s.ended = false) {e : Option ConnectionError}
    (at' : (c.endSession i e).sessions[i]? = some s') : s' = s.finish := by
  rw [h.endSession_eq ⟨s, at_, going⟩, (afterEnd_frame e).1] at at'
  have finished : (c.sessions.modify i Session.finish)[i]? = some s' := at'
  rw [List.getElem?_modify_eq, at_] at finished
  exact (Option.some.inj finished).symm

/-- A task ends its session, and may change it once more. -/
theorem Sound.ends (h : Sound c) (live : c.Live i) {g : Session → Session} (tame : Tame c i g)
    (e : Option ConnectionError) : Sound ((c.endSession i e).modifySession i g) := by
  have ended := h.endSession live e
  have requests : requests (c.endSession i e).history = requests c.history := by
    rw [h.endSession_eq live]
    exact (afterEnd_frame e).2.2
  obtain ⟨s, at_, going⟩ := live
  obtain ⟨near, ticketed⟩ := tame s at_
  refine ended.modifySession ?_ ?_
  · intro s' at'
    rw [h.finished_of_end at_ going at']
    exact near.ended
  · intro s' at'
    rw [h.finished_of_end at_ going at', requests]
    refine ⟨?_, ticketed⟩
    intro _ lives
    rw [near.ended] at lives
    cases lives

/-- To retire a session ends it, if it lives. -/
theorem Sound.retire (h : Sound c) (gone : c.cancelled = true) (j : Nat) : Sound (c.retire j) := by
  by_cases live : c.Live j
  · rw [retire_of_live live]
    have vacated := (h.vacate live).tell (some j) (.disconnected none)
    have same : c.vacate j = c.closeBooks j := by
      unfold Connection.vacate
      rw [← h.empty gone]
      rfl
    rw [same] at vacated
    exact vacated
  · rw [retire_of_over live]
    exact h

/-- A connection that is going down may close down and answer. -/
theorem Sound.closeDown (h : Sound c) (gone : c.cancelled = true) (call : Nat) :
    Sound (c.closeDown call) := by
  have kept : Sound { c with counters := { c.counters with disconnectedAt := true } } :=
    { h with }
  exact (kept.enter .closed fun _ => gone).answer call (.ok ())

/-- The first disconnect: nothing is installed any more. -/
theorem Sound.cancel (h : Sound c) {teardown : Option Teardown}
    (own : ∀ t, teardown = some t → (t.call, .disconnect) ∈ requests c.history) :
    Sound { c with cancelled := true, slot := none, teardown } :=
  { h with
    slot_live := nofun
    slot_up := nofun
    installed := nofun
    closed := fun _ => rfl
    teardown := fun t waiting => ⟨rfl, own t waiting⟩ }

/-- So may the disconnect that has waited for the tasks. -/
theorem Sound.finishTeardown (h : Sound c) (gone : c.cancelled = true) (t : Teardown) :
    Sound (c.finishTeardown t) := by
  have cleared : Sound { c with teardown := none } := { h with teardown := nofun }
  refine (cleared.retire gone t.session).closeDown ?_ t.call
  unfold Connection.retire
  split
  · exact gone
  · split <;> exact gone

/-! ## Quiet steps -/

/-- What a quiet step writes down is no call. -/
theorem Minor.request? {asked : List (Nat × Request)} {w : Happening} (minor : Minor asked w) :
    w.request? = none := by
  cases w <;> first | rfl | exact minor.elim

/-- A quiet step makes no call. -/
theorem Quiet.requests {c c' : Connection} (q : Quiet c c') :
    requests c'.history = requests c.history := by
  obtain ⟨new, grown, minor⟩ := q.history
  rw [grown, Connection.requests, List.filterMap_append, List.filterMap_eq_nil_iff.mpr,
    List.nil_append]
  · rfl
  · exact fun e mem => (minor e mem).request?

/-- In a quiet step no session begins or ends. -/
theorem Quiet.live {c c' : Connection} (q : Quiet c c') {j : Nat} : c'.Live j ↔ c.Live j := by
  constructor
  · rintro ⟨s', at', going⟩
    obtain ⟨s, at_, near, _⟩ := q.sessions j s' at'
    exact ⟨s, at_, near.ended.symm.trans going⟩
  · rintro ⟨s, at_, going⟩
    have bound : j < c'.sessions.length := by
      rw [q.length]
      exact (List.getElem?_eq_some_iff.mp at_).1
    obtain ⟨s₀, at₀, near, _⟩ := q.sessions j _ (List.getElem?_eq_getElem bound)
    rw [at_] at at₀
    cases at₀
    exact ⟨_, List.getElem?_eq_getElem bound, near.ended.trans going⟩

/-- A quiet step leaves the connection sound: what it changes is inside the sessions and in entries
that nothing sound depends on. -/
theorem Sound.quiet (h : Sound c) {c' : Connection} (q : Quiet c c') : Sound c' where
  slot_live j installed := q.live.mpr (h.slot_live j (q.slot ▸ installed))
  slot_up j installed := q.cancelled.trans (h.slot_up j (q.slot ▸ installed))
  newest j lives := (h.newest j (q.live.mp lives)).trans q.length.symm
  installed up j lives := q.slot.trans (h.installed (q.cancelled ▸ up) j (q.live.mp lives))
  closed closed := q.cancelled.trans (h.closed (q.state ▸ closed))
  awake s' mem := by
    obtain ⟨j, at'⟩ := List.mem_iff_getElem?.mp mem
    obtain ⟨s, at_, _, awake⟩ := q.sessions j s' at'
    exact awake (h.awake s (List.mem_of_getElem? at_))
  numbers := by rw [q.dialers]; exact h.numbers
  issued := by rw [q.dialers, q.fresh]; exact h.issued
  sleeping := by rw [q.dialers]; exact h.sleeping
  dialable := by rw [q.dialers, q.settings]; exact h.dialable
  reached some_ := by
    rw [q.settings]
    refine h.reached fun none_ => some_ (List.eq_nil_of_length_eq_zero ?_)
    rw [q.length, none_]
    rfl
  calls := by rw [q.requests]; exact h.calls
  called := by rw [q.requests, q.fresh]; exact h.called
  callers := by rw [q.dialers, q.requests]; exact h.callers
  tickets := by rw [q.requests]; exact q.tickets
  teardown := by rw [q.teardown, q.requests, q.cancelled]; exact h.teardown

/-! ## Every move -/

/-- Where a dial begins, nothing is installed, and the connection is connecting. -/
theorem Sound.giveWay_vacant (h : Sound c) (up : c.cancelled = false) :
    c.giveWay.slot = none ∧ c.giveWay.state = .connecting := by
  rw [giveWay_eq]
  exact ⟨retireCurrent_slot, enter_of_open (h.retireCurrent_unclosed up) .connecting⟩

/-- A dial of a caller that fails leaves the connection in its error state and answers. -/
theorem Sound.dialError (h : Sound c) (call : Nat) (e : ConnectionError) :
    Sound (c.dialError call e) :=
  ((h.fail none e).enter .error nofun).answer call _

/-- A dial that finds the connection going down answers its caller, if it has one. -/
theorem Sound.dialClosed (h : Sound c) (number : Nat) (byCaller : Bool) :
    Sound (c.dialClosed number byCaller) := by
  unfold Connection.dialClosed
  split
  · exact h.answer number _
  · exact h

/-- A dial at its handshake is not asleep. -/
theorem handshaking_awake (deadline due : Nat) : Stage.handshaking deadline ≠ .sleeping due := nofun

/-- The dial that a call begins takes the number of the call. -/
theorem Sound.connecting (h : Sound c) {stage : Stage} (awake : ∀ due, stage ≠ .sleeping due)
    (fit : stage = .loading ∨ Dialable c.settings) :
    Sound ((c.begin .connect).giveWay.addDialer c.fresh true stage) := by
  refine (h.begin .connect).giveWay.addDialer ?_ ?_ ?_ awake ?_
  · rw [giveWay_frame.2.2.1]
    intro mem
    obtain ⟨d, mem, number⟩ := List.mem_map.mp mem
    have issued := h.issued d mem
    omega
  · rw [giveWay_frame.2.2.2]
    exact Nat.lt_succ_self _
  · intro _
    rw [giveWay_requests]
    exact List.mem_cons_self
  · rw [giveWay_frame.1]
    exact fit.imp_left fun loading => ⟨rfl, loading⟩

/-- The dial that a backoff was for keeps its number. -/
theorem Sound.redialing (h : Sound c) {d : Dialer} (mem : d ∈ c.dialers)
    (redial : d.byCaller = false) {stage : Stage} (awake : ∀ due, stage ≠ .sleeping due) :
    Sound ((c.dropDialer d.number).giveWay.addDialer d.number false stage) := by
  refine (h.dropDialer d.number).giveWay.addDialer ?_ ?_ nofun awake ?_
  · rw [giveWay_frame.2.2.1]
    exact not_mem_dropDialer d.number
  · rw [giveWay_frame.2.2.2]
    exact h.issued d mem
  · rw [giveWay_frame.1]
    exact .inr (h.fit mem (.inl redial))

/-- Every move leaves a sound connection sound. This is the one place where the moves are gone
through for it; all that is sound along runs follows. -/
theorem Sound.move (h : Sound c) {a : Action} {c' : Connection} (m : Move c a c') : Sound c' := by
  cases m with
  | refused gone => exact (h.begin _).answer _ _
  | unfit e up bad => exact (h.begin _).giveWay.dialError _ e
  | loads up => exact h.connecting (fun _ => nofun) (.inl rfl)
  | dials deadline up fit => exact (h.connecting (handshaking_awake _) (.inr fit)).note rfl
  | redialLoads mem redial up => exact h.redialing mem redial (fun _ => nofun)
  | redialDials deadline mem redial up => exact (h.redialing mem redial (handshaking_awake _)).note rfl
  | loaded deadline mem up fit =>
    refine ((h.dropDialer _).addDialer (not_mem_dropDialer _) (h.issued _ mem) ?_
      (handshaking_awake _) (.inr fit)).note rfl
    exact h.callers _ mem
  | dialClosed own mem gone => exact (h.dropDialer _).dialClosed _ _
  | callerFails e own mem caller up => exact (h.dropDialer _).dialError _ e
  | redialFails e own mem redial up =>
    exact ((h.dropDialer _).fail none e).scheduleReconnect up (h.fit mem (.inl redial))
  | callerInstalls mem caller up fit => exact ((h.dropDialer _).install up fit).answer _ _
  | redialInstalls mem redial up fit => exact (h.dropDialer _).install up fit
  | arrives item there =>
    have arrived (i : Nat) :
        Sound (c.modifySession i fun s => { s with inbox := s.inbox ++ [item] }) :=
      h.modifySession (fun _ _ => rfl) fun s at_ => ⟨id, h.tickets s (List.mem_of_getElem? at_)⟩
    exact (arrived _).note rfl
  | @delivers i s payload rest at_ going up head =>
    have popped : Sound (c.modifySession i ({ · with inbox := rest })) :=
      h.modifySession (fun _ _ => rfl) fun s at_ => ⟨id, h.tickets s (List.mem_of_getElem? at_)⟩
    have renewed : Sound ((c.modifySession i ({ · with inbox := rest })).renewRead i) :=
      popped.modifySession (fun _ _ => rfl) fun s at_ =>
        ⟨fun _ _ => nofun, popped.tickets s (List.mem_of_getElem? at_)⟩
    have counted (counters : Counters) (metrics : Metrics) :
        Sound { (c.modifySession i ({ · with inbox := rest })).renewRead i with
          counters, metrics } := { renewed with }
    exact (counted _ _).tell _ _
  | ends e own live tame => exact h.ends live tame e
  | sends quiet => exact (h.begin _).quiet quiet
  | quiet look quiet => exact h.quiet quiet
  | disconnectsAgain gone => exact (h.begin _).answer _ _
  | disconnectsIdle up idle =>
    have begun := h.begin .disconnect
    exact (begun.cancel fun t waiting => (begun.teardown t waiting).2).closeDown rfl _
  | disconnects teardown up installed own =>
    refine (h.begin .disconnect).cancel ?_
    intro t waiting
    rw [own t waiting]
    exact List.mem_cons_self
  | @tornDown t g waiting close =>
    obtain ⟨gone, _⟩ := h.teardown _ waiting
    have down := h.finishTeardown gone t
    refine down.modifySession (fun s _ => (close s).ended) ?_
    intro s at_
    have ticketed := down.tickets s (List.mem_of_getElem? at_)
    refine ⟨?_, (close s).ticketed ticketed⟩
    intro _ lives
    rw [(close s).ended] at lives
    exact absurd ⟨s, at_, lives⟩ (not_live_retire (c := { c with teardown := none }))

/-! ## Every run -/

/-- A connection that was never used is sound, whatever its settings and its clock. -/
theorem sound_new (settings : ConnectionSettings) {horizon : Horizon} :
    Sound (new settings horizon) where
  slot_live := nofun
  slot_up := nofun
  newest := nofun
  installed := nofun
  closed := nofun
  awake := nofun
  numbers := List.nodup_nil
  issued := nofun
  sleeping := nofun
  dialable := nofun
  reached := fun some_ => absurd rfl some_
  calls := List.nodup_nil
  called := nofun
  callers := nofun
  tickets := nofun
  teardown := nofun

/-- Every step leaves a sound connection sound. -/
theorem Sound.step (h : Sound c) {a : Action} {c' : Connection} (stepped : c.step a = some c') :
    Sound c' := h.move (move_of_step h stepped)

/-- Every reachable connection is sound. -/
theorem Reachable.sound {settings : ConnectionSettings} (reachable : Reachable settings c) :
    Sound c := by
  induction reachable with
  | new => exact sound_new settings
  | step a _ stepped ih => exact ih.step stepped

end StationPool.Connection
