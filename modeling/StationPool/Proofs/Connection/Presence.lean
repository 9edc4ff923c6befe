import StationPool.Proofs.Connection.Soundness

/-!
# The state and the installed session

A connection reports a state of its own beside the session that is installed. That it is connected
is reported of a live session only. The converse fails: a dial that fails while another has
installed a session leaves the connection in error, or redialing, with a session that goes on.
`overtaken` reads off the history whether this has happened; nothing else parts the two wherever a
connection comes to rest.
-/

namespace StationPool.Connection

variable {c : Connection} {i : Nat}

/-- What an entry says of the dials since the last session was installed: one was installed, or one
has failed. -/
def Happening.mark? : Happening → Option Bool
  | .observed _ .connected => some false
  | .observed none (.failed _) => some true
  | _ => none

/-- A dial has failed since the last session was installed. -/
def overtaken (history : List Entry) : Bool :=
  (history.findSome? (·.what.mark?)).getD false

/-- Entries that tell neither of a session installed nor of a dial failed leave the last of these
two as it was. -/
theorem overtaken_append {new old : List Entry} (plain : ∀ e ∈ new, e.what.mark? = none) :
    overtaken (new ++ old) = overtaken old := by
  have silent : new.findSome? (·.what.mark?) = none := List.findSome?_eq_none_iff.mpr plain
  rw [overtaken, List.findSome?_append, silent, Option.none_or, overtaken]

/-- One such entry does. -/
theorem overtaken_note {w : Happening} (plain : w.mark? = none) :
    overtaken (c.note w).history = overtaken c.history :=
  @overtaken_append [⟨c.now, w⟩] c.history fun _ mem => List.mem_singleton.mp mem ▸ plain

/-- The state is the one that the installed session and the dials since have led to. -/
structure Matched (c : Connection) : Prop where
  live : c.state = .connected → ∃ i, c.Live i
  shown : ∀ i, c.slot = some i →
    c.state = .connected ∧ overtaken c.history = false ∨
    (c.state = .error ∨ c.state = .reconnecting) ∧ overtaken c.history = true

namespace Matched

/-- No session is installed, and none is reported. -/
theorem vacant (empty : c.slot = none) (apart : c.state ≠ .connected) : Matched c where
  live connected := absurd connected apart
  shown i installed := by
    rw [empty] at installed
    cases installed

/-- A note that tells of neither keeps the match. -/
theorem note (m : Matched c) {w : Happening} (plain : w.mark? = none) : Matched (c.note w) where
  live := m.live
  shown i installed := by
    rw [overtaken_note plain]
    exact m.shown i installed

/-- A change to a session that does not end it keeps the match. -/
theorem modifySession (m : Matched c) {f : Session → Session}
    (keeps : ∀ s, c.sessions[i]? = some s → (f s).ended = s.ended) :
    Matched (c.modifySession i f) where
  live connected := by
    obtain ⟨j, live⟩ := m.live connected
    exact ⟨j, (live_modifySession keeps).mpr live⟩
  shown := m.shown

/-- A dial has failed, and the connection is in error or redials. -/
theorem failed (failure : c.state = .error ∨ c.state = .reconnecting)
    (told : overtaken c.history = true) : Matched c where
  live connected := by
    rw [connected] at failure
    rcases failure with error | reconnecting <;> contradiction
  shown _ _ := .inr ⟨failure, told⟩

end Matched

/-- To schedule a redial leaves the state as an error or as reconnecting, if it was not closed. -/
theorem scheduleReconnect_state (unclosed : c.state ≠ .closed) :
    c.scheduleReconnect.state = .error ∨ c.scheduleReconnect.state = .reconnecting := by
  by_cases spent : c.settings.maxReconnectAttempts ≤ c.attempts
  · rw [scheduleReconnect_of_spent spent]
    exact .inl (enter_of_open unclosed .error)
  · rw [scheduleReconnect_of_left spent unclosed]
    exact .inr rfl

/-- To schedule a redial does not install a session. -/
theorem scheduleReconnect_overtaken (unclosed : c.state ≠ .closed)
    (told : overtaken c.history = true) : overtaken c.scheduleReconnect.history = true := by
  by_cases spent : c.settings.maxReconnectAttempts ≤ c.attempts
  · rw [scheduleReconnect_of_spent spent]
    rfl
  · rw [scheduleReconnect_of_left spent unclosed]
    exact told

/-- After a session has ended by one of its tasks, the connection is closed, in error or redials. -/
theorem settleEnd_state (unclosed : c.cancelled = false → c.state ≠ .closed) :
    c.settleEnd.state ≠ .connected := by
  unfold settleEnd
  cases up : c.cancelled with
  | true =>
    rw [if_pos rfl, enter_closed_state]
    exact nofun
  | false =>
    rw [if_neg Bool.false_ne_true]
    intro connected
    rcases scheduleReconnect_state (unclosed up) with error | reconnecting
    · rw [error] at connected
      cases connected
    · rw [reconnecting] at connected
      cases connected

/-- After the end of a session the state is not connected. -/
theorem afterEnd_state (unclosed : c.cancelled = false → c.state ≠ .closed)
    (e : Option ConnectionError) : (c.afterEnd i e).state ≠ .connected := by
  have entered (up : c.cancelled = false) : (c.enter .disconnected).state ≠ .closed := by
    rw [enter_of_open (unclosed up)]
    exact nofun
  cases e with
  | none => exact settleEnd_state entered
  | some e => exact settleEnd_state entered

/-- A session that was just installed is shown. -/
theorem install_shown (h : Sound c) (up : c.cancelled = false) :
    overtaken c.install.history = false ∧ c.install.slot.isSome = true := by
  rw [h.install_eq up, install_of_empty retireCurrent_slot (h.retireCurrent_unclosed up)]
  exact ⟨rfl, rfl⟩

/-- A quiet step keeps the match. -/
theorem Quiet.matched {c' : Connection} (q : Quiet c c') (m : Matched c) : Matched c' where
  live connected := by
    obtain ⟨i, live⟩ := m.live (q.state ▸ connected)
    exact ⟨i, q.live.mpr live⟩
  shown i installed := by
    obtain ⟨new, grown, minor⟩ := q.history
    have plain : ∀ e ∈ new, e.what.mark? = none := by
      intro e mem
      have minor := minor e mem
      cases what : e.what with
      | observed s what' => rw [what] at minor; exact minor.elim
      | _ => rfl
    rw [q.state, grown, overtaken_append plain]
    exact m.shown i (q.slot ▸ installed)

/-- A call that begins keeps the match. -/
theorem Matched.begin (m : Matched c) (request : Request) : Matched (c.begin request) := by
  have kept : Matched { c with fresh := c.fresh + 1 } := { m with }
  exact kept.note rfl

/-- A dial succeeds. -/
theorem Matched.install (h : Sound c) (up : c.cancelled = false) (fit : Dialable c.settings) :
    Matched c.install := by
  have connected := (h.install_frame up).1
  obtain ⟨fresh, installed⟩ := install_shown h up
  obtain ⟨i, slot⟩ := Option.isSome_iff_exists.mp installed
  exact ⟨fun _ => ⟨i, (h.install up fit).slot_live i slot⟩, fun _ _ => .inl ⟨connected, fresh⟩⟩

/-- Every move keeps the match between the state and what led to it. -/
theorem Matched.move (m : Matched c) (h : Sound c) {a : Action} {c' : Connection}
    (move : Move c a c') : Matched c' := by
  have opened := (h.begin .connect).giveWay_vacant
  have reopened (d : Dialer) := (h.dropDialer d.number).giveWay_vacant
  have apart {c : Connection} (connecting : c.state = .connecting) : c.state ≠ .connected := by
    rw [connecting]
    exact nofun
  cases move with
  | refused gone => exact (m.begin _).note rfl
  | unfit e up bad =>
    obtain ⟨empty, connecting⟩ := opened up
    refine .vacant empty ?_
    have unclosed : (c.begin .connect).giveWay.state ≠ .closed := by
      rw [connecting]
      exact nofun
    intro connected
    have failed := (enter_of_open unclosed .error).symm.trans connected
    cases failed
  | loads up => exact .vacant (opened up).1 (apart (opened up).2)
  | dials deadline up fit => exact .vacant (opened up).1 (apart (opened up).2)
  | @redialLoads d mem redial up => exact .vacant (reopened d up).1 (apart (reopened d up).2)
  | @redialDials d deadline mem redial up =>
    exact .vacant (reopened d up).1 (apart (reopened d up).2)
  | @loaded d deadline mem up fit =>
    have kept : Matched ((c.dropDialer d.number).addDialer d.number d.byCaller
      (.handshaking deadline)) := { m with }
    exact kept.note rfl
  | @dialClosed d a own mem gone =>
    have kept : Matched (c.dropDialer d.number) := { m with }
    unfold Connection.dialClosed
    split
    · exact kept.note rfl
    · exact kept
  | @callerFails d a e own mem caller up =>
    have error : ((c.dropDialer d.number).dialError d.number e).state = .error :=
      enter_of_open (c := (c.dropDialer d.number).fail none e) (h.unclosed up) .error
    exact .failed (.inl error) rfl
  | @redialFails d a e own mem redial up =>
    have unclosed : ((c.dropDialer d.number).fail none e).state ≠ .closed := h.unclosed up
    refine .failed (scheduleReconnect_state unclosed) ?_
    exact scheduleReconnect_overtaken unclosed rfl
  | @callerInstalls d mem caller up fit =>
    exact (Matched.install (h.dropDialer d.number) up fit).note rfl
  | @redialInstalls d mem redial up fit => exact .install (h.dropDialer d.number) up fit
  | @arrives i item there => 
    have arrived : Matched (c.modifySession i fun s => { s with inbox := s.inbox ++ [item] }) :=
      m.modifySession fun _ _ => rfl
    exact arrived.note rfl
  | @delivers i s payload rest at_ going up head =>
    have popped : Matched (c.modifySession i ({ · with inbox := rest })) :=
      m.modifySession fun _ _ => rfl
    have renewed : Matched ((c.modifySession i ({ · with inbox := rest })).renewRead i) :=
      popped.modifySession fun _ _ => rfl
    have counted (counters : Counters) (metrics : Metrics) :
        Matched { (c.modifySession i ({ · with inbox := rest })).renewRead i with
          counters, metrics } := { renewed with }
    exact (counted _ _).note rfl
  | @ends i a g e own live tame =>
    have apart : ((c.vacate i).afterEnd i e).state ≠ .connected :=
      afterEnd_state (c := c.vacate i) h.unclosed e
    rw [h.endSession_eq live]
    exact .vacant (afterEnd_frame e).2.1 apart
  | sends quiet => exact quiet.matched (m.begin _)
  | quiet look quiet => exact quiet.matched m
  | disconnectsAgain gone => exact (m.begin _).note rfl
  | disconnectsIdle up idle =>
    refine .vacant rfl ?_
    intro connected
    have closed := enter_closed_state.symm.trans connected
    cases closed
  | disconnects teardown up installed own => exact ⟨m.live, nofun⟩
  | @tornDown t g waiting close =>
    refine .vacant (retire_slot.trans (h.empty (h.teardown t waiting).1)) ?_
    intro connected
    have closed := enter_closed_state.symm.trans connected
    cases closed

/-- In every reachable state the state is the one that the session and the dials since led to. -/
theorem Reachable.matched {settings : ConnectionSettings} (reachable : Reachable settings c) :
    Matched c := by
  induction reachable with
  | new => exact .vacant rfl nofun
  | step a before stepped ih => exact ih.move before.sound (move_of_step before.sound stepped)

/-! ## At rest -/

/-- The reader of a session that lives notices that the connection is going down. -/
theorem reader_notices (h : Sound c) (live : c.Live i) (gone : c.cancelled = true) :
    (c.step (.lookReader i)).isSome = true := by
  obtain ⟨s, at_, going⟩ := live
  have awake := h.awake s (List.mem_of_getElem? at_) going
  have cut : c.isCut s = true := by rw [isCut, gone, Bool.true_or]
  have looked : c.step (.lookReader i) = c.lookReader i s := by
    rw [step, at_, Option.bind_some]
  rw [looked, lookReader]
  cases point : s.reader with
  | stopped => exact absurd point awake
  | waiting deadline => simp only [cut, if_true, Option.isSome_some]

/-- Every session is among those whose tasks look. -/
theorem mem_numbered (there : i < c.sessions.length) :
    (i, c.sessions[i]) ∈ (List.range c.sessions.length).zip c.sessions := by
  refine List.mem_iff_getElem.mpr ⟨i, ?_, ?_⟩
  · rw [List.length_zip, List.length_range, Nat.min_self]
    exact there
  · rw [List.getElem_zip, List.getElem_range]

/-- The reader of a session can be looked at as long as there is the session. -/
theorem lookReader_mem_looks (there : i < c.sessions.length) : .lookReader i ∈ c.looks := by
  unfold looks
  refine List.mem_append_left _ (List.mem_append_right _ (List.mem_flatMap.mpr ?_))
  exact ⟨_, mem_numbered there, List.mem_append_left _ List.mem_cons_self⟩

/-- A push that waits can be looked at. -/
theorem lookSend_mem_looks {s : Session} (at_ : c.sessions[i]? = some s) {b : Blocked Frame}
    (mem : b ∈ s.queue.blocked) : .lookSend i b.ticket ∈ c.looks := by
  obtain ⟨there, rfl⟩ := List.getElem?_eq_some_iff.mp at_
  unfold looks
  refine List.mem_append_left _ (List.mem_append_right _ (List.mem_flatMap.mpr ?_))
  exact ⟨_, mem_numbered there, List.mem_append_right _ (List.mem_map.mpr ⟨b, mem, rfl⟩)⟩

/-- Where a connection comes to rest, no look is possible. -/
theorem no_look_of_settled (settled : c.isSettled = true) {a : Action} (mem : a ∈ c.looks) :
    c.step a = none :=
  Option.isNone_iff_eq_none.mp (List.all_eq_true.mp settled a mem)

/-- Where a connection comes to rest, no session outlives a disconnect. -/
theorem up_of_settled (h : Sound c) (settled : c.isSettled = true) (live : c.Live i) :
    c.cancelled = false := by
  cases gone : c.cancelled with
  | false => rfl
  | true =>
    have there : i < c.sessions.length := by
      obtain ⟨s, at_, _⟩ := live
      exact (List.getElem?_eq_some_iff.mp at_).1
    have stays := no_look_of_settled settled (lookReader_mem_looks there)
    have looks := reader_notices h live gone
    rw [stays] at looks
    cases looks

/-- Where a connection comes to rest, it is reported as connected if and only if the slot holds a
session that lives, exactly when no dial has failed since that session was installed. A connection
that is reported as connected has a live session; and one with a live session is reported as
connected, unless a dial has failed since, and then it is in error or redials. -/
theorem state_matches_slot {settings : ConnectionSettings} (reachable : Reachable settings c)
    (settled : c.isSettled = true) :
    ((c.state = .connected ↔ ∃ i, c.slot = some i ∧ c.Live i) ↔
      ((∃ i, c.slot = some i ∧ c.Live i) → overtaken c.history = false)) ∧
    (c.state = .connected → ∃ i, c.slot = some i ∧ c.Live i) ∧
    ∀ i, c.slot = some i → c.Live i ∧
      (overtaken c.history = true → c.state = .error ∨ c.state = .reconnecting) := by
  have h := reachable.sound
  have m := reachable.matched
  have present (connected : c.state = .connected) : ∃ i, c.slot = some i ∧ c.Live i := by
    obtain ⟨i, live⟩ := m.live connected
    exact ⟨i, h.installed (up_of_settled h settled live) i live, live⟩
  refine ⟨⟨?_, ?_⟩, present, ?_⟩
  · intro agrees held
    obtain ⟨i, installed, _⟩ := held
    rcases m.shown i installed with ⟨_, fresh⟩ | ⟨other, _⟩
    · exact fresh
    · rw [agrees.mpr ⟨i, installed, h.slot_live i installed⟩] at other
      rcases other with error | reconnecting <;> contradiction
  · intro fresh
    refine ⟨present, fun held => ?_⟩
    obtain ⟨i, installed, live⟩ := held
    rcases m.shown i installed with ⟨connected, _⟩ | ⟨_, told⟩
    · exact connected
    · rw [fresh ⟨i, installed, live⟩] at told
      cases told
  · intro i installed
    refine ⟨h.slot_live i installed, fun told => ?_⟩
    rcases m.shown i installed with ⟨_, fresh⟩ | ⟨other, _⟩
    · rw [told] at fresh
      cases fresh
    · exact other

/-- A caller connects. -/
theorem state_matches_slot_of_dial : ∃ c, (new plain).after [.connect, .dial 0 (.ok ())] = some c ∧
    c.isSettled = true ∧ c.state = .connected ∧ c.Live 0 := by
  obtain ⟨c, run, reachable, outcome⟩ := @reachable_of_run plain [.connect, .dial 0 (.ok ())]
    (fun c => c.isSettled = true ∧ c.state = .connected ∧ c.slot = some 0) (by decide +kernel)
  obtain ⟨settled, connected, installed⟩ := of_decide_eq_true outcome
  obtain ⟨live, _⟩ := (state_matches_slot reachable settled).2.2 0 installed
  exact ⟨c, run, settled, connected, live⟩

/-- Two callers dial at once: the first dial installs a session, the second fails. -/
def overlap : List Action :=
  [.connect, .connect, .dial 0 (.ok ()), .dial 1 (.error (.webSocket .connectionClosed))]

/-- The connection comes to rest in error, and the session goes on. -/
theorem overlap_parts_state_from_slot : ¬ ∀ c, (new plain).after overlap = some c →
    c.isSettled = true → (c.state = .connected ↔ ∃ i, c.slot = some i ∧ c.Live i) := by
  intro agrees
  obtain ⟨c, run, _, outcome⟩ := @reachable_of_run plain overlap
    (fun c => c.isSettled = true ∧ c.state = .error ∧ c.slot = some 0 ∧ c.fates = [false])
    (by decide +kernel)
  obtain ⟨settled, error, installed, fates⟩ := of_decide_eq_true outcome
  have live : c.Live 0 := by
    rw [live_iff_fates, fates]
    rfl
  have connected := (agrees c run settled).mpr ⟨0, installed, live⟩
  rw [error] at connected
  cases connected

end StationPool.Connection
