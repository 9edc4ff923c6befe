import StationPool.Proofs.Connection.Carriage
import StationPool.Proofs.Connection.Redials
import StationPool.Proofs.Connection.Sinking

/-!
# Farewells

Whether a connection that is disconnected goes without a word of an error. The reader, the keeper and
the dials look at the cancellation before they look at anything else, and what they find then is no
error. The writer does not while a frame of it is on its way: where the socket fails or is too slow
before another task has ended the session, that error is kept and told (`FailsWriting`). Nothing else
breaks the silence, and after it nothing restores it (`farewell_gentle_iff`).
-/

namespace StationPool.Connection

variable {c c' d : Connection} {a : Action} {i : Nat} {s : Session} {as : List Action}

/-! ## Blame -/

/-- The error that the observer is told of. -/
def Happening.blame? : Happening → Option ConnectionError
  | .observed _ (.failed e) | .observed _ (.disconnected (some e)) => some e
  | _ => none

/-- The errors that the observer was told of, the last first. -/
def blames (history : List Entry) : List ConnectionError := history.filterMap (·.what.blame?)

/-- No error was kept or told since. -/
structure Gentle (c c' : Connection) : Prop where
  lastError : c'.lastError = c.lastError
  blames : blames c'.history = blames c.history

/-- The writer of a session that is not over fails at the frame that the socket has. -/
inductive FailsWriting (c : Connection) : Action → Prop where
  | socket {i deadline : Nat} {s : Session} {origin : Origin} {frame : Frame}
      (at_ : c.sessions[i]? = some s) (going : s.ended = false)
      (point : s.writer = .writing origin frame deadline) (e : WebSocketError) :
      FailsWriting c (.socket i (.error e))
  | late {i deadline : Nat} {s : Session} {origin : Origin} {frame : Frame}
      (at_ : c.sessions[i]? = some s) (going : s.ended = false)
      (point : s.writer = .writing origin frame deadline) (due : deadline ≤ c.now) :
      FailsWriting c (.lookWriter i)

namespace Gentle

/-- Nothing done is nothing told. -/
theorem refl (c : Connection) : Gentle c c := ⟨rfl, rfl⟩

/-- Two steps that tell of no error tell of none together. -/
theorem trans (first : Gentle c d) (second : Gentle d c') : Gentle c c' :=
  ⟨second.lastError.trans first.lastError, second.blames.trans first.blames⟩

/-- A change to a session tells nothing. -/
theorem modifySession (gentle : Gentle c c') (f : Session → Session) :
    Gentle c (c'.modifySession i f) :=
  ⟨gentle.lastError, gentle.blames⟩

/-- A quiet step tells of no error. -/
theorem of_quiet (quiet : Quiet c c') : Gentle c c' := by
  obtain ⟨new, grown, minor⟩ := quiet.history
  refine ⟨quiet.lastError, ?_⟩
  rw [grown, Connection.blames, List.filterMap_append]
  refine (congrArg (· ++ _) (List.filterMap_eq_nil_iff.mpr fun e mem => ?_)).trans
    (List.nil_append _)
  have minor := minor e mem
  cases what : e.what with
  | observed session told =>
    rw [what] at minor
    exact minor.elim
  | _ => rfl

/-- A session that is retired is told without an error. -/
theorem retire (c : Connection) (i : Nat) : Gentle c (c.retire i) := by
  by_cases live : c.Live i
  · rw [retire_of_live live]
    exact ⟨rfl, rfl⟩
  · rw [retire_of_over live]
    exact refl c

/-- To wait for tasks tells nothing. -/
theorem awaitTasks (c : Connection) (call i : Nat) (grace : Option Duration) :
    Gentle c (c.awaitTasks call i grace) := by
  cases grace <;> exact ⟨rfl, rfl⟩

/-- The first disconnect, and every other, begins without a word. -/
theorem disconnect (c : Connection) : Gentle c c.disconnect := by
  unfold Connection.disconnect
  dsimp only
  split
  · exact ⟨rfl, rfl⟩
  · split
    · exact ⟨rfl, rfl⟩
    · have gone : Gentle c { c.begin .disconnect with cancelled := true, slot := none } :=
        ⟨rfl, rfl⟩
      exact gone.trans (awaitTasks _ _ _ _)

/-- A session ends without an error. -/
theorem endSession (empty : c.slot = none) (gone : c.cancelled = true) (i : Nat) :
    Gentle c (c.endSession i none) := by
  by_cases live : c.Live i
  · have closes : ((c.vacate i).afterEnd i none) =
        (((c.vacate i).enter .disconnected).tell (some i) (.disconnected none)).enter .closed :=
      if_pos gone
    rw [endSession_of_empty empty live, closes]
    exact ⟨rfl, rfl⟩
  · rw [endSession_of_over live]
    exact refl c

end Gentle

/-! ## Steps -/

/-- A connection that is going down is told of no error by a step that is none of its tasks. -/
theorem Move.gentle (m : Move c a c') (gone : c.cancelled = true) (other : a.task? = none) :
    Gentle c c' := by
  have not_up {p : Prop} (up : c.cancelled = false) : p := by
    rw [gone] at up
    cases up
  cases m with
  | refused _ => exact ⟨rfl, rfl⟩
  | unfit _ up _ => exact not_up up
  | loads up => exact not_up up
  | dials _ up _ => exact not_up up
  | redialLoads _ _ up => exact not_up up
  | redialDials _ _ _ up => exact not_up up
  | loaded _ _ up _ => exact not_up up
  | dialClosed own mem _ =>
    unfold Connection.dialClosed
    split <;> exact ⟨rfl, rfl⟩
  | callerFails _ _ _ _ up => exact not_up up
  | redialFails _ _ _ _ up => exact not_up up
  | callerInstalls _ _ up _ => exact not_up up
  | redialInstalls _ _ up _ => exact not_up up
  | arrives item there => exact ⟨rfl, rfl⟩
  | delivers _ _ up _ => exact not_up up
  | ends e own live tame =>
    rw [other] at own
    cases own
  | @sends frame _ quiet =>
    have begun : Gentle c (c.begin (.send frame)) := ⟨rfl, rfl⟩
    exact begun.trans (.of_quiet quiet)
  | quiet look quiet => exact .of_quiet quiet
  | disconnectsAgain _ => exact ⟨rfl, rfl⟩
  | disconnectsIdle up _ => exact not_up up
  | disconnects _ up _ _ => exact not_up up
  | @tornDown t g waiting close =>
    have retired := Gentle.retire { c with teardown := none } t.session
    exact ⟨retired.lastError, retired.blames⟩

/-- The writer fails, and the error is kept and told. -/
theorem blames_failWriting (empty : c.slot = none) (gone : c.cancelled = true) (live : c.Live i)
    (e : ConnectionError) : blames (c.failWriting i e).history = e :: e :: blames c.history := by
  have closes : ((c.vacate i).afterEnd i (some e)) =
      ((((c.vacate i).enter .disconnected).fail (some i) e).tell (some i)
        (.disconnected (some e))).enter .closed := if_pos gone
  rw [failWriting, endSession_of_empty empty live, closes]
  rfl

/-- The writer of a session that is over fails unheard. -/
theorem gentle_failWriting (dead : ¬ c.Live i) (e : ConnectionError) :
    Gentle c (c.failWriting i e) := by
  rw [failWriting, endSession_of_over dead]
  exact (Gentle.refl c).modifySession _

/-- A reader that looks after a disconnect began tells of no error, whatever it finds. -/
theorem gentle_lookReader (empty : c.slot = none) (gone : c.cancelled = true)
    (looked : c.lookReader i s = some c') : Gentle c c' := by
  have cut : c.isCut s = true := by rw [isCut, gone, Bool.true_or]
  unfold lookReader at looked
  split at looked
  · cases looked
  · rw [if_pos cut] at looked
    cases looked
    have stopped := (Gentle.refl c).modifySession (i := i) ({ · with reader := .stopped })
    exact stopped.trans (.endSession (c := c.modifySession i _) empty gone i)

/-- A keeper that looks after a disconnect began stops without an error. -/
theorem gentle_lookKeeper (gone : c.cancelled = true) (looked : c.lookKeeper i s = some c') :
    Gentle c c' := by
  have cut : c.isCut s = true := by rw [isCut, gone, Bool.true_or]
  unfold lookKeeper at looked
  split at looked
  · cases looked
  · rw [if_pos cut] at looked
    cases looked
    exact (Gentle.refl c).modifySession _
  · rw [if_pos cut] at looked
    cases looked
    exact (Gentle.refl c).modifySession _

/-- A writer that looks after a disconnect began tells of no error, unless it fails at the frame
that the socket has. -/
theorem gentle_lookWriter (empty : c.slot = none) (gone : c.cancelled = true)
    (at_ : c.sessions[i]? = some s) (looked : c.lookWriter i s = some c')
    (fine : ¬ FailsWriting c (.lookWriter i)) : Gentle c c' := by
  have cut : c.isCut s = true := by rw [isCut, gone, Bool.true_or]
  unfold lookWriter at looked
  split at looked
  · cases looked
  · rw [if_pos cut] at looked
    cases looked
    exact (Gentle.endSession empty gone i).modifySession _
  · rename_i origin frame deadline point
    split at looked
    · rename_i due
      cases looked
      refine gentle_failWriting ?_ _
      rintro ⟨s', at', going⟩
      cases at_.symm.trans at'
      exact fine (.late at_ going point due)
    · cases looked
  · split at looked
    · cases looked
      exact (Gentle.refl c).modifySession _
    · cases looked

/-- A socket that answers after a disconnect began leads to no error, unless it fails at the frame
it has. -/
theorem gentle_socketAnswered {result : Except WebSocketError Unit}
    (at_ : c.sessions[i]? = some s) (answered : c.socketAnswered i s result = some c')
    (fine : ¬ FailsWriting c (.socket i result)) : Gentle c c' := by
  unfold socketAnswered at answered
  split at answered
  · rename_i origin frame deadline _
    cases answered
    refine Gentle.modifySession ?_ _
    unfold Connection.wrote
    dsimp only
    split <;> exact ⟨rfl, rfl⟩
  · rename_i point
    cases answered
    refine gentle_failWriting ?_ _
    rintro ⟨s', at', going⟩
    cases at_.symm.trans at'
    exact fine (.socket at_ going point _)
  · cases answered
    exact (Gentle.refl c).modifySession _
  · cases answered

/-- Where a writer fails the observer hears of it. -/
theorem FailsWriting.loud (fails : FailsWriting c a) (empty : c.slot = none)
    (gone : c.cancelled = true) (stepped : c.step a = some c') :
    blames c'.history ≠ blames c.history := by
  have told {i : Nat} (live : c.Live i) (e : ConnectionError) :
      blames (c.failWriting i e).history ≠ blames c.history := by
    rw [blames_failWriting empty gone live]
    intro same
    have length := congrArg List.length same
    simp only [List.length_cons] at length
    omega
  cases fails with
  | @socket i deadline s origin frame at_ going point e =>
    have answered : c.failWriting i (.webSocket e) = c' := by
      simpa [step, at_, socketAnswered, point] using stepped
    exact answered ▸ told ⟨s, at_, going⟩ _
  | @late i deadline s origin frame at_ going point due =>
    have looked : c.failWriting i (.writeTimeout c.settings.writeTimeout) = c' := by
      simpa [step, at_, lookWriter, point, due] using stepped
    exact looked ▸ told ⟨s, at_, going⟩ _

/-- A step of a connection that is going down is gentle, unless a writer fails in it. -/
theorem gentle_step_iff (h : Sound c) (gone : c.cancelled = true) (stepped : c.step a = some c') :
    Gentle c c' ↔ ¬ FailsWriting c a := by
  have empty := h.empty gone
  constructor
  · exact fun gentle fails => fails.loud empty gone stepped gentle.blames
  · intro fine
    cases a with
    | lookReader i =>
      obtain ⟨s, at_, looked⟩ := Option.bind_eq_some_iff.mp stepped
      exact gentle_lookReader empty gone looked
    | lookWriter i =>
      obtain ⟨s, at_, looked⟩ := Option.bind_eq_some_iff.mp stepped
      exact gentle_lookWriter empty gone at_ looked fine
    | socket i result =>
      obtain ⟨s, at_, answered⟩ := Option.bind_eq_some_iff.mp stepped
      exact gentle_socketAnswered at_ answered fine
    | lookKeeper i =>
      obtain ⟨s, at_, looked⟩ := Option.bind_eq_some_iff.mp stepped
      exact gentle_lookKeeper gone looked
    | _ => exact (move_of_step h stepped).gentle gone rfl

/-! ## Runs -/

/-- Errors that were told stay told. -/
theorem blames_of_grown (grown : ∃ later, c'.history = later ++ c.history) :
    ∃ more, blames c'.history = more ++ blames c.history := by
  obtain ⟨later, grown⟩ := grown
  rw [grown]
  exact ⟨blames later, List.filterMap_append⟩

/-- A run is gentle where none of its steps is one in which a writer fails: what was told once is not
taken back. -/
theorem gentle_after_iff (h : Sound c) (gone : c.cancelled = true) (run : c.after as = some c') :
    Gentle c c' ↔ Along (fun c a _ => ¬ FailsWriting c a) c as := by
  induction as generalizing c with
  | nil =>
    cases run
    exact iff_of_true (.refl _) trivial
  | cons a as ih =>
    rw [after_cons] at run
    obtain ⟨next, stepped, rest⟩ := Option.bind_eq_some_iff.mp run
    have sound := h.step stepped
    have later := ih sound ((Sunk.refl h gone).step stepped).cancelled rest
    have first := gentle_step_iff h gone stepped
    constructor
    · intro gentle next' stepped'
      cases stepped.symm.trans stepped'
      obtain ⟨more, grown⟩ := blames_of_grown (((Sunk.refl h gone).step stepped).grown.imp
        fun _ => And.left)
      obtain ⟨more', grown'⟩ := blames_of_grown (sound.grown_after rest)
      have none_ : more' ++ more = [] := by
        have same := gentle.blames
        rw [grown', grown, ← List.append_assoc] at same
        exact List.self_eq_append_left.mp same.symm
      obtain ⟨rfl, rfl⟩ := List.append_eq_nil_iff.mp none_
      have fine : ¬ FailsWriting c a := fun fails =>
        fails.loud (h.empty gone) gone stepped grown
      exact ⟨fine, later.mp ⟨gentle.lastError.trans (first.mpr fine).lastError.symm, grown'⟩⟩
    · intro along
      obtain ⟨fine, rest'⟩ := along next stepped
      exact (first.mpr fine).trans (later.mpr rest')

/-! ## Frames that are on their way -/

/-- Once no writer gives a frame to its socket any more, one that waits for the socket has waited
before. -/
theorem Passage.writing {call : Nat} {x y : Transit} (passage : Passage a call x y)
    (held : ∀ j, a = .lookWriter j → y.handed = x.handed) {l' : Lane} {origin : Origin}
    {frame : Frame} {deadline : Nat} (after : y.lanes[i]? = some l')
    (point : l'.writer = .writing origin frame deadline) :
    ∃ l, x.lanes[i]? = some l ∧ l.writer = .writing origin frame deadline := by
  have same {j : Nat} {k k' : Lane} (at_ : x.lanes[j]? = some k)
      (after : (x.lanes.set j k')[i]? = some l')
      (kept : ∀ o f d, k'.writer = .writing o f d → k.writer = .writing o f d) :
      ∃ l, x.lanes[i]? = some l ∧ l.writer = .writing origin frame deadline := by
    by_cases own : j = i
    · subst own
      rw [List.getElem?_set_self (List.getElem?_eq_some_iff.mp at_).1] at after
      cases after
      exact ⟨k, at_, kept _ _ _ point⟩
    · rw [List.getElem?_set_ne own] at after
      exact ⟨l', after, point⟩
  cases passage with
  | calm => exact ⟨l', after, point⟩
  | opens =>
    rcases Nat.lt_or_ge i x.lanes.length with old | new
    · rw [List.getElem?_append_left old] at after
      exact ⟨l', after, point⟩
    · rw [List.getElem?_append_right new] at after
      obtain rfl : {} = l' := List.mem_singleton.mp (List.mem_of_getElem? after) |>.symm
      cases point
  | joins at_ own => exact same at_ after fun _ _ _ => id
  | passes at_ own there => exact same at_ after fun _ _ _ => id
  | admits at_ waits there own => exact same at_ after fun _ _ _ => id
  | leaves ticket at_ => exact same at_ after fun _ _ _ => id
  | asks at_ own => exact same at_ after fun _ _ _ => id
  | pings deadline' at_ own idle waits => exact absurd (held _ own) (List.cons_ne_self _ _)
  | hands deadline' at_ own idle none_ first => exact absurd (held _ own) (List.cons_ne_self _ _)
  | takes at_ writing => exact same at_ after nofun
  | closes deadline' at_ idle => exact same at_ after nofun
  | stops at_ => exact same at_ after nofun

/-- A frame that is on its way while the connection is going down was so before. -/
theorem writing_of_step (gone : c.cancelled = true) (stepped : c.step a = some c') {s' : Session}
    {origin : Origin} {frame : Frame} {deadline : Nat} (after : c'.sessions[i]? = some s')
    (point : s'.writer = .writing origin frame deadline) :
    ∃ s, c.sessions[i]? = some s ∧ s.writer = .writing origin frame deadline := by
  have held (j : Nat) (own : a = .lookWriter j) : c'.transit.handed = c.transit.handed := by
    subst own
    obtain ⟨s, at_, -⟩ := Option.bind_eq_some_iff.mp stepped
    exact handed_of_cut at_ (by rw [isCut, gone, Bool.true_or]) stepped
  obtain ⟨l, at_, before⟩ := (passage_of_step stepped).writing held (lane_at after) point
  have at_ : (c.sessions.map Session.lane)[i]? = some l := at_
  rw [List.getElem?_map] at at_
  obtain ⟨s, there, rfl⟩ := Option.map_eq_some_iff.mp at_
  exact ⟨s, there, before⟩

/-- A writer can fail only at a frame that the socket has. -/
theorem FailsWriting.burden (fails : FailsWriting c a) :
    ∃ i, c.Live i ∧ ∃ s origin frame deadline,
      c.sessions[i]? = some s ∧ s.writer = .writing origin frame deadline := by
  cases fails with
  | socket at_ going point e => exact ⟨_, ⟨_, at_, going⟩, _, _, _, _, at_, point⟩
  | late at_ going point due => exact ⟨_, ⟨_, at_, going⟩, _, _, _, _, at_, point⟩

/-- Where the writer of the newest session has no frame on its way when the connection goes down, no
writer fails after that. -/
theorem along_of_unburdened (h : Sound c) (gone : c.cancelled = true)
    (last : i + 1 = c.sessions.length)
    (free : ∀ s, c.sessions[i]? = some s → ∀ origin frame deadline,
      s.writer ≠ .writing origin frame deadline) (as : List Action) :
    Along (fun c a _ => ¬ FailsWriting c a) c as := by
  induction as generalizing c with
  | nil => trivial
  | cons a as ih =>
    intro next stepped
    have winds := (move_of_step h stepped).winds h gone
    refine ⟨fun fails => ?_, ?_⟩
    · obtain ⟨j, live, s, origin, frame, deadline, at_, point⟩ := fails.burden
      have newest := h.newest j live
      obtain rfl : j = i := by omega
      exact free s at_ origin frame deadline point
    · refine ih (h.step stepped) winds.cancelled (last.trans winds.length.symm) ?_
      intro s' after origin frame deadline point
      obtain ⟨s, at_, before⟩ := writing_of_step gone stepped after point
      exact free s at_ origin frame deadline before

/-- To call a disconnect leaves the sessions to their tasks. -/
theorem disconnect_sessions (c : Connection) : c.disconnect.sessions = c.sessions := by
  have awaits (c : Connection) (call i : Nat) (grace : Option Duration) :
      (c.awaitTasks call i grace).sessions = c.sessions := by
    cases grace <;> rfl
  unfold disconnect
  dsimp only
  split
  · rfl
  · split
    · rfl
    · exact awaits _ _ _ _

/-- After a disconnect, in whatever order the calls, the tasks, the socket and the clock go on: no
error is kept or told, and no session is told as lost to one, exactly as long as the writer of a
session that is not over does not fail at the frame that its socket has. With a session that lives
this is so in every order if and only if no frame of it is on its way when disconnect is called. -/
theorem farewell_gentle_iff {settings : ConnectionSettings} (reachable : Reachable settings c) :
    (∀ as c', c.disconnect.after as = some c' →
      (Gentle c c' ↔ Along (fun c a _ => ¬ FailsWriting c a) c.disconnect as)) ∧
    ∀ (i : Nat) (s : Session), c.sessions[i]? = some s → s.ended = false →
      ((∀ as c', c.disconnect.after as = some c' → Gentle c c') ↔
        ∀ origin frame deadline, s.writer ≠ .writing origin frame deadline) := by
  have h := reachable.sound
  have sound : Sound c.disconnect := h.step (a := .disconnect) rfl
  have gone : c.disconnect.cancelled = true := h.ages_disconnect.2
  have begun := Gentle.disconnect c
  have along_iff (as : List Action) (c' : Connection) (run : c.disconnect.after as = some c') :
      Gentle c c' ↔ Along (fun c a _ => ¬ FailsWriting c a) c.disconnect as := by
    rw [← gentle_after_iff sound gone run]
    refine ⟨fun gentle => ?_, begun.trans⟩
    exact ⟨gentle.lastError.trans begun.lastError.symm, gentle.blames.trans begun.blames.symm⟩
  refine ⟨along_iff, fun i s at_ going => ⟨fun all origin frame deadline point => ?_, ?_⟩⟩
  · have at' : c.disconnect.sessions[i]? = some s := disconnect_sessions c ▸ at_
    have fails : FailsWriting c.disconnect (.socket i (.error .connectionClosed)) :=
      .socket at' going point _
    obtain ⟨c', stepped⟩ :
        ∃ c', c.disconnect.step (.socket i (.error .connectionClosed)) = some c' := by
      simp [step, at', socketAnswered, point]
    have run : c.disconnect.after [.socket i (.error .connectionClosed)] = some c' := by
      rw [after_cons, stepped, Option.bind_some]
      rfl
    exact ((along_iff _ c' run).mp (all _ c' run) c' stepped).1 fails
  · intro free as c' run
    refine (along_iff as c' run).mpr (along_of_unburdened (i := i) sound gone ?_ ?_ as)
    · exact disconnect_sessions c ▸ h.newest i ⟨s, at_, going⟩
    · intro s' at'
      rw [disconnect_sessions, at_] at at'
      cases at'
      exact free

/-- A session without a frame on its way. -/
theorem idle_session_gentle_farewell :
    ∃ c, (new plain).after [.connect, .dial 0 (.ok ())] = some c ∧ c.Live 0 ∧
      ∀ as c', c.disconnect.after as = some c' → Gentle c c' := by
  obtain ⟨c, run, reachable, outcome⟩ := @reachable_of_run plain [.connect, .dial 0 (.ok ())]
    (fun c => c.sessions[0]?.map (fun s => decide (s.ended = false ∧ s.writer = .idle)) = some true)
    (by decide +kernel)
  obtain ⟨s, at_, outcome⟩ := Option.map_eq_some_iff.mp (of_decide_eq_true outcome)
  obtain ⟨going, idle⟩ := of_decide_eq_true outcome
  refine ⟨c, run, ⟨s, at_, going⟩, ((farewell_gentle_iff reachable).2 0 s at_ going).mpr ?_⟩
  rw [idle]
  exact nofun

/-- A frame is on its way when disconnect is called, and the socket fails at it before another task
has seen the cancellation. -/
theorem lost_frame_spoils_farewell :
    ¬ ∀ settings c, Reachable settings c →
      ∀ (i : Nat) (s : Session), c.sessions[i]? = some s → s.ended = false →
        ∀ as c', c.disconnect.after as = some c' → Gentle c c' := by
  intro keeps
  obtain ⟨c, -, reachable, outcome⟩ := @reachable_of_run plain
    [.connect, .dial 0 (.ok ()), .send (.data [1]), .lookWriter 0]
    (fun c => c.sessions[0]?.map (fun s => decide (s.ended = false)) = some true ∧
      (c.disconnect.after [.socket 0 (.error .connectionClosed)]).map
        (fun c' => decide (c'.lastError ≠ c.lastError)) = some true) (by decide +kernel)
  obtain ⟨lives, fails⟩ := of_decide_eq_true outcome
  obtain ⟨s, at_, going⟩ := Option.map_eq_some_iff.mp lives
  obtain ⟨c', run, differs⟩ := Option.map_eq_some_iff.mp fails
  exact of_decide_eq_true differs
    (keeps plain c reachable 0 s at_ (of_decide_eq_true going) _ c' run).lastError

end StationPool.Connection
