import StationPool.Proofs.Connection.Lines
import StationPool.Proofs.Connection.Schedule

/-!
# What becomes of a send

A send waits in the line of the session that it found, or has ended once: accepted by that session,
or with an error and accepted by none (`Fate`). How it ends has a reason at the moment when it does
(`Reason`), whatever connects, losses, disconnects and other sends do beside it
(`sends_end_for_a_reason`).

A send reads the state first and the installed session after it. A disconnect takes the session out
at once, and the state stays until a task has ended it; a send in between is told that the connection
is not connected, and that it is connected (`disconnect_contradicts_state`).
-/

namespace StationPool.Connection

open SendQueue (Ordered grant mem_grant_of_granted mem_of_grant grant_bare)

variable {settings : ConnectionSettings} {c c' : Connection} {i j : Nat} {s : Session}
  {a : Action} {d d' : Desk} {x : Sending} {b : Blocked Frame}

/-! ## Standing in a line -/

/-- A push stands in the line of a session. -/
def Stands (lines : List (List (Blocked Frame))) (i : Nat) (b : Blocked Frame) : Prop :=
  ∃ line, lines[i]? = some line ∧ b ∈ line

variable {ls ls' : List (List (Blocked Frame))} {line line' : List (Blocked Frame)}

/-- Where the line of one session is replaced, a push stands in the new line or in that of another
session. -/
theorem stands_set (at_ : ls[i]? = some line) :
    Stands (ls.set i line') j b ↔ i = j ∧ b ∈ line' ∨ i ≠ j ∧ Stands ls j b := by
  obtain ⟨bound, -⟩ := List.getElem?_eq_some_iff.mp at_
  by_cases own : i = j
  · subst own
    simp [Stands, bound]
  · simp [Stands, own]

/-- Whoever stood in a line before a slot was given stands there still, with the slot that it had.
-/
theorem mem_grant_of_mem (mem : b ∈ line) :
    ∃ b' ∈ grant line, b'.bare = b.bare ∧ (b.granted = true → b'.granted = true) := by
  cases granted : b.granted with
  | true => exact ⟨b, mem_grant_of_granted mem granted, rfl, fun _ => granted⟩
  | false =>
    have there : b.bare ∈ (grant line).map Blocked.bare :=
      (grant_bare line).symm ▸ List.mem_map_of_mem mem
    obtain ⟨b', mem', same⟩ := List.mem_map.mp there
    exact ⟨b', mem', same, nofun⟩

/-- The pushes of some calls stand where they stood. -/
structure Keeps (ls ls' : List (List (Blocked Frame))) (calls : Nat → Prop) : Prop where
  stays : ∀ i b, Stands ls i b → calls b.ticket →
    ∃ b', Stands ls' i b' ∧ b'.bare = b.bare ∧ (b.granted = true → b'.granted = true)
  stood : ∀ i b, Stands ls' i b → calls b.ticket → ∃ b', Stands ls i b' ∧ b'.bare = b.bare

/-- Lines that stay as they are keep all pushes. -/
theorem keeps_refl (calls : Nat → Prop) : Keeps ls ls calls :=
  ⟨fun _ b stands _ => ⟨b, stands, rfl, id⟩, fun _ b stands _ => ⟨b, stands, rfl⟩⟩

/-- One line changes. -/
theorem keeps_set {calls : Nat → Prop} (at_ : ls[i]? = some line)
    (stays : ∀ b ∈ line, calls b.ticket →
      ∃ b' ∈ line', b'.bare = b.bare ∧ (b.granted = true → b'.granted = true))
    (stood : ∀ b ∈ line', calls b.ticket → ∃ b' ∈ line, b'.bare = b.bare) :
    Keeps ls (ls.set i line') calls := by
  constructor
  · intro j b stands own
    by_cases here : i = j
    · subst here
      obtain ⟨line₀, at₀, mem⟩ := stands
      cases at_.symm.trans at₀
      obtain ⟨b', mem', same, granted⟩ := stays b mem own
      exact ⟨b', (stands_set at_).mpr (.inl ⟨rfl, mem'⟩), same, granted⟩
    · exact ⟨b, (stands_set at_).mpr (.inr ⟨here, stands⟩), rfl, id⟩
  · intro j b stands own
    rcases (stands_set at_).mp stands with ⟨rfl, mem⟩ | ⟨-, old⟩
    · obtain ⟨b', mem', same⟩ := stood b mem own
      exact ⟨b', ⟨line, at_, mem'⟩, same⟩
    · exact ⟨b, old, rfl⟩

/-- Beside the sends every push stays where it stands: a new line is empty, and a slot that becomes
free goes to a push without moving it. -/
theorem Shift.keeps (shift : Shift ls ls') (calls : Nat → Prop) : Keeps ls ls' calls := by
  cases shift with
  | stays => exact keeps_refl calls
  | opens =>
    constructor
    · rintro i b ⟨line, at_, mem⟩ -
      have bound := (List.getElem?_eq_some_iff.mp at_).1
      exact ⟨b, ⟨line, (List.getElem?_append_left bound).trans at_, mem⟩, rfl, id⟩
    · rintro i b ⟨line, at_, mem⟩ -
      rw [List.getElem?_append] at at_
      split at at_
      · exact ⟨b, ⟨line, at_, mem⟩, rfl⟩
      · rw [List.mem_singleton.mp (List.mem_of_getElem? at_)] at mem
        cases mem
  | grants at_ =>
    exact keeps_set at_ (fun b mem _ => mem_grant_of_mem mem) fun b mem _ => mem_of_grant mem

/-- A push joins a line. -/
theorem keeps_join (at_ : ls[i]? = some line) (b : Blocked Frame) :
    Keeps ls (ls.set i (line ++ [b])) (· ≠ b.ticket) := by
  refine keeps_set at_ (fun b' mem _ => ?_) fun b' mem other => ?_
  · exact ⟨b', List.mem_append_left _ mem, rfl, id⟩
  · rcases List.mem_append.mp mem with old | new
    · exact ⟨b', old, rfl⟩
    · exact absurd (congrArg Blocked.ticket (List.mem_singleton.mp new)) other

/-- A push has left a line. -/
def Left (line line' : List (Blocked Frame)) (ticket : Nat) : Prop :=
  line' = line.filter (·.ticket != ticket) ∨ line' = grant (line.filter (·.ticket != ticket))

/-- A push that is still in line after another left was there before, and is not the one that left.
-/
theorem Left.stood {ticket : Nat} (left : Left line line' ticket) (mem : b ∈ line') :
    b.ticket ≠ ticket ∧ ∃ b' ∈ line, b'.bare = b.bare := by
  have filtered {b : Blocked Frame} (mem : b ∈ line.filter (·.ticket != ticket)) :
      b ∈ line ∧ b.ticket ≠ ticket := by
    obtain ⟨old, other⟩ := List.mem_filter.mp mem
    exact ⟨old, bne_iff_ne.mp other⟩
  rcases left with rfl | rfl
  · obtain ⟨old, other⟩ := filtered mem
    exact ⟨other, b, old, rfl⟩
  · obtain ⟨b', mem', same⟩ := mem_of_grant mem
    obtain ⟨old, other⟩ := filtered mem'
    exact ⟨Blocked.ticket_of_bare same ▸ other, b', old, same⟩

/-- Where one push leaves, those of all other calls stay. The first of them may have its slot now.
-/
theorem Left.keeps {ticket : Nat} (left : Left line line' ticket) (at_ : ls[i]? = some line) :
    Keeps ls (ls.set i line') (· ≠ ticket) := by
  refine keeps_set at_ (fun b mem other => ?_) fun b mem _ => (left.stood mem).2
  have kept : b ∈ line.filter (·.ticket != ticket) :=
    List.mem_filter.mpr ⟨mem, bne_iff_ne.mpr other⟩
  rcases left with rfl | rfl
  · exact ⟨b, kept, rfl, id⟩
  · exact mem_grant_of_mem kept

/-! ### The order of the lines -/

/-- A line that a push left is in order. -/
theorem Left.ordered {ticket : Nat} (left : Left line line' ticket) (order : Ordered line) :
    Ordered line' := by
  have filtered : Ordered (line.filter (·.ticket != ticket)) := order.sublist List.filter_sublist
  rcases left with rfl | rfl
  · exact filtered
  · exact filtered.grant

/-- Lines in order stay so where one of them is replaced by a line in order. -/
theorem ordered_set (order : ∀ line ∈ ls, Ordered line) (own : Ordered line') :
    ∀ line ∈ ls.set i line', Ordered line := by
  intro line mem
  rcases List.mem_or_eq_of_mem_set mem with old | rfl
  · exact order line old
  · exact own

/-- Beside the sends all lines stay in order. -/
theorem Shift.ordered (shift : Shift ls ls') (order : ∀ line ∈ ls, Ordered line) :
    ∀ line ∈ ls', Ordered line := by
  cases shift with
  | stays => exact order
  | opens =>
    intro line mem
    rcases List.mem_append.mp mem with old | new
    · exact order line old
    · rw [List.mem_singleton.mp new]
      exact .nil
  | grants at_ => exact ordered_set order (order _ (List.mem_of_getElem? at_)).grant

/-! ## Fates -/

/-- What has become of a send. -/
inductive Fate (settings : ConnectionSettings) (d : Desk) (x : Sending) : Prop where
  /-- It waits in the line of the session that it found. -/
  | waits {i : Nat} {b : Blocked Frame} (found : x.session = some i) (stands : Stands d.lines i b)
      (own : b.bare = x.push settings.sendTimeout)
      (unanswered : d.outcomes.filter (·.1 == x.call) = [])
      (unaccepted : d.accepted.filter (·.call == x.call) = [])
  /-- The session that it found accepted it, and none did again. -/
  | accepted {i : Nat} (found : x.session = some i)
      (once : d.outcomes.filter (·.1 == x.call) = [(x.call, .ok ())])
      (there : d.accepted.filter (·.call == x.call) = [⟨i, x.call, x.frame⟩])
      (gone : ∀ i b, Stands d.lines i b → b.ticket ≠ x.call)
  /-- It failed, and no session accepted it. -/
  | failed {e : ConnectionError} (once : d.outcomes.filter (·.1 == x.call) = [(x.call, .error e)])
      (nowhere : d.accepted.filter (·.call == x.call) = [])
      (gone : ∀ i b, Stands d.lines i b → b.ticket ≠ x.call)

/-- New entries that a filter drops leave its result as it was. -/
theorem filter_of_others {α : Type} {new old : List α} {p : α → Bool}
    (others : ∀ y ∈ new, p y = false) : (new ++ old).filter p = old.filter p := by
  have none_ : new.filter p = [] :=
    List.filter_eq_nil_iff.mpr fun y mem => by rw [others y mem]; exact Bool.false_ne_true
  rw [List.filter_append, none_, List.nil_append]

/-- A step that has to do with others. -/
theorem Fate.kept (fate : Fate settings d x) {calls : Nat → Prop}
    (keeps : Keeps d.lines d'.lines calls) (own : calls x.call)
    (outcomes : d'.outcomes.filter (·.1 == x.call) = d.outcomes.filter (·.1 == x.call))
    (accepted : d'.accepted.filter (·.call == x.call) = d.accepted.filter (·.call == x.call)) :
    Fate settings d' x := by
  have gone' (gone : ∀ i b, Stands d.lines i b → b.ticket ≠ x.call) :
      ∀ i b, Stands d'.lines i b → b.ticket ≠ x.call := by
    intro i b stands same
    obtain ⟨b', stood, bare⟩ := keeps.stood i b stands (same ▸ own)
    exact gone i b' stood ((Blocked.ticket_of_bare bare).trans same)
  cases fate with
  | waits found stands mine unanswered unaccepted =>
    have ticket : Blocked.ticket _ = x.call := congrArg Blocked.ticket mine
    obtain ⟨b', stands', bare, -⟩ := keeps.stays _ _ stands (ticket.symm ▸ own)
    exact .waits found stands' (bare.trans mine) (outcomes.trans unanswered)
      (accepted.trans unaccepted)
  | accepted found once there gone =>
    exact .accepted found (outcomes.trans once) (accepted.trans there) (gone' gone)
  | failed once nowhere gone =>
    exact .failed (outcomes.trans once) (accepted.trans nowhere) (gone' gone)

/-- The answer that ends a send, and who accepts its frame then. -/
inductive Conclusion (x : Sending) : Outcome → List Acceptance → Prop where
  | failed (e : ConnectionError) : Conclusion x (.error e) []
  | accepted {i : Nat} (found : x.session = some i) : Conclusion x (.ok ()) [⟨i, x.call, x.frame⟩]

/-- A send that ends is accepted under its own number only. -/
theorem Conclusion.own {o : Outcome} {accs : List Acceptance} (conclusion : Conclusion x o accs) :
    ∀ k ∈ accs, k.call = x.call := by
  cases conclusion with
  | failed => nofun
  | accepted => exact List.forall_mem_singleton.mpr rfl

/-- A send that is answered for the first time. -/
theorem Conclusion.fate {o : Outcome} {accs : List Acceptance} (conclusion : Conclusion x o accs)
    (outcomes : d'.outcomes = (x.call, o) :: d.outcomes) (accepted : d'.accepted = accs ++ d.accepted)
    (unanswered : d.outcomes.filter (·.1 == x.call) = [])
    (unaccepted : d.accepted.filter (·.call == x.call) = [])
    (gone : ∀ i b, Stands d'.lines i b → b.ticket ≠ x.call) : Fate settings d' x := by
  have first {α : Type} {l : List α} {p : α → Bool} {y : α} (none_ : l.filter p = [])
      (own : p y = true) : (y :: l).filter p = [y] := by rw [List.filter_cons_of_pos own, none_]
  have once : d'.outcomes.filter (·.1 == x.call) = [(x.call, o)] := by
    rw [outcomes]
    exact first unanswered (beq_self_eq_true _)
  cases conclusion with
  | failed e => exact .failed once (accepted ▸ unaccepted) gone
  | @accepted i found =>
    refine .accepted found once ?_ gone
    rw [accepted]
    exact first unaccepted (beq_self_eq_true _)

/-- What is known of the sends at a desk. -/
structure Tracked (settings : ConnectionSettings) (d : Desk) : Prop where
  once : (d.sendings.map (·.call)).Nodup
  ordered : ∀ line ∈ d.lines, Ordered line
  /-- Whoever stands in a line is a send that found this session. -/
  known : ∀ i b, Stands d.lines i b →
    ∃ x ∈ d.sendings, x.session = some i ∧ b.bare = x.push settings.sendTimeout
  fates : ∀ x ∈ d.sendings, Fate settings d x

/-- A send is told by the number of its call. -/
theorem Tracked.same (t : Tracked settings d) {y : Sending} (mem : x ∈ d.sendings)
    (mem' : y ∈ d.sendings) (call : x.call = y.call) : x = y :=
  List.inj_on_of_nodup_map t.once mem mem' call

/-- A send that was called is among the requests. -/
theorem asked_of_sending {history : List Entry} (mem : x ∈ sendings history) :
    (x.call, .send x.frame) ∈ requests history := by
  obtain ⟨⟨moment, what⟩, there, is⟩ := List.mem_filterMap.mp mem
  cases what with
  | called call request state session =>
    cases request with
    | send frame =>
      cases is
      exact List.mem_filterMap.mpr ⟨_, there, rfl⟩
    | _ => cases is
  | _ => cases is

/-- Whoever stands in a line waits, and has not been answered. -/
theorem Tracked.waiting (t : Tracked settings d) (stands : Stands d.lines i b) :
    ∃ x ∈ d.sendings, x.session = some i ∧ b.bare = x.push settings.sendTimeout ∧
      x.call = b.ticket ∧ d.outcomes.filter (·.1 == x.call) = [] ∧
      d.accepted.filter (·.call == x.call) = [] := by
  obtain ⟨x, mem, found, own⟩ := t.known i b stands
  have ticket : b.ticket = x.call := congrArg Blocked.ticket own
  refine ⟨x, mem, found, own, ticket.symm, ?_⟩
  cases t.fates x mem with
  | waits _ _ _ unanswered unaccepted => exact ⟨unanswered, unaccepted⟩
  | accepted _ _ _ gone => exact absurd ticket (gone i b stands)
  | failed _ _ gone => exact absurd ticket (gone i b stands)

/-- A send stands in one line. -/
theorem Tracked.place (t : Tracked settings d) {b' : Blocked Frame} (stands : Stands d.lines i b)
    (stands' : Stands d.lines j b') (same : b.ticket = b'.ticket) : i = j := by
  obtain ⟨x, mem, found, own⟩ := t.known i b stands
  obtain ⟨y, mem', found', own'⟩ := t.known j b' stands'
  have ticket : b.ticket = x.call := congrArg Blocked.ticket own
  have ticket' : b'.ticket = y.call := congrArg Blocked.ticket own'
  cases t.same mem mem' (ticket.symm.trans (same.trans ticket'))
  exact Option.some.inj (found.symm.trans found')

/-! ### Steps -/

/-- A step is about one send, a new one or an old one. -/
structure Concerns (d d' : Desk) (y : Sending) : Prop where
  sendings : d'.sendings = y :: d.sendings ∧ (∀ x ∈ d.sendings, x.call ≠ y.call) ∨
    d'.sendings = d.sendings ∧ y ∈ d.sendings
  keeps : Keeps d.lines d'.lines (· ≠ y.call)
  outcomes : ∃ outs, d'.outcomes = outs ++ d.outcomes ∧ ∀ o ∈ outs, o.1 = y.call
  accepted : ∃ accs, d'.accepted = accs ++ d.accepted ∧ ∀ k ∈ accs, k.call = y.call

/-- The sends after a step about one send are that one and those before. -/
theorem Concerns.mem {y : Sending} (turn : Concerns d d' y) :
    x ∈ d'.sendings ↔ x = y ∨ x ∈ d.sendings := by
  rcases turn.sendings with ⟨called, -⟩ | ⟨same, mem⟩
  · rw [called, List.mem_cons]
  · rw [same]
    exact ⟨.inr, fun here => here.elim (· ▸ mem) id⟩

/-- A step about one send keeps what is known of all of them: the others have the fate they had, by
`Keeps`, and the fate of its own is given. -/
theorem Tracked.turn (t : Tracked settings d) {y : Sending} (turn : Concerns d d' y)
    (ordered : ∀ line ∈ d'.lines, Ordered line)
    (stood : ∀ i b, Stands d'.lines i b → b.ticket = y.call →
      y.session = some i ∧ b.bare = y.push settings.sendTimeout)
    (fate : Fate settings d' y) : Tracked settings d' where
  once := by
    rcases turn.sendings with ⟨called, fresh⟩ | ⟨same, -⟩
    · rw [called]
      refine List.nodup_cons.mpr ⟨fun mem => ?_, t.once⟩
      obtain ⟨x, old, call⟩ := List.mem_map.mp mem
      exact fresh x old call
    · rw [same]
      exact t.once
  ordered := ordered
  known i b stands := by
    by_cases own : b.ticket = y.call
    · exact ⟨y, turn.mem.mpr (.inl rfl), stood i b stands own⟩
    · obtain ⟨b', stands', same⟩ := turn.keeps.stood i b stands own
      obtain ⟨x, mem, found, push⟩ := t.known i b' stands'
      exact ⟨x, turn.mem.mpr (.inr mem), found, same.symm.trans push⟩
  fates x mem := by
    by_cases own : x = y
    · exact own ▸ fate
    · have old : x ∈ d.sendings := (turn.mem.mp mem).resolve_left own
      have other : x.call ≠ y.call := by
        rcases turn.sendings with ⟨-, fresh⟩ | ⟨-, there⟩
        · exact fresh x old
        · exact fun call => own (t.same old there call)
      obtain ⟨outs, outcomes, theirs⟩ := turn.outcomes
      obtain ⟨accs, accepted, theirs'⟩ := turn.accepted
      refine (t.fates x old).kept turn.keeps other ?_ ?_
      · rw [outcomes]
        exact filter_of_others fun o mem => beq_false_of_ne (theirs o mem ▸ Ne.symm other)
      · rw [accepted]
        exact filter_of_others fun k mem => beq_false_of_ne (theirs' k mem ▸ Ne.symm other)

/-- What is there before a call is of other calls. -/
structure Unused (d : Desk) (call : Nat) : Prop where
  earlier : ∀ x ∈ d.sendings, x.call < call
  outcomes : d.outcomes.filter (·.1 == call) = []
  accepted : d.accepted.filter (·.call == call) = []

/-- The number of the next call is used by no send. -/
theorem Reachable.unused (reachable : Reachable settings c) : Unused c.desk c.fresh := by
  have before {call : Nat} {request : Request} (asked : (call, request) ∈ requests c.history) :
      call < c.fresh := reachable.sound.called _ asked
  constructor
  · exact fun x mem => before (asked_of_sending mem)
  · refine List.filter_eq_nil_iff.mpr fun x mem => ?_
    obtain ⟨request, asked⟩ := reachable.answered x mem
    simpa using Nat.ne_of_lt (before asked)
  · refine List.filter_eq_nil_iff.mpr fun k mem => ?_
    simpa using Nat.ne_of_lt (before (reachable.owned.accepted k mem))

/-- A push that stands in a line was made by an earlier call than the next. -/
theorem Unused.stands {call : Nat} (unused : Unused d call) (t : Tracked settings d)
    (stands : Stands d.lines i b) : b.ticket < call := by
  obtain ⟨x, mem, -, own⟩ := t.known i b stands
  have ticket : b.ticket = x.call := congrArg Blocked.ticket own
  exact ticket ▸ unused.earlier x mem

/-- No push of the next call stands in a line yet. -/
theorem Unused.absent {call : Nat} (unused : Unused d call) (t : Tracked settings d) :
    ∀ i b, Stands d.lines i b → b.ticket ≠ call :=
  fun _ _ stands => Nat.ne_of_lt (unused.stands t stands)

/-- Who has left a line stands in none. -/
theorem Tracked.gone (t : Tracked settings d) (at_ : d.lines[i]? = some line) (mem : b ∈ line)
    (left : Left line line' b.ticket) :
    ∀ j b', Stands (d.lines.set i line') j b' → b'.ticket ≠ b.ticket := by
  intro j b' stands
  rcases (stands_set at_).mp stands with ⟨-, new⟩ | ⟨apart, old⟩
  · exact (left.stood new).1
  · exact fun same => apart (t.place ⟨line, at_, mem⟩ old same.symm)

/-- A step that no send is called in or answered. -/
theorem Tracked.aside (t : Tracked settings d) (shift : Shift d.lines ls)
    {outs : List (Nat × Outcome)} (others : ∀ x ∈ d.sendings, ∀ o ∈ outs, o.1 ≠ x.call) :
    Tracked settings { d with lines := ls, outcomes := outs ++ d.outcomes } := by
  have keeps : Keeps d.lines ls fun _ => True := shift.keeps _
  refine ⟨t.once, shift.ordered t.ordered, fun i b stands => ?_, fun x mem => ?_⟩
  · obtain ⟨b', stands', same⟩ := keeps.stood i b stands trivial
    obtain ⟨x, mem, found, push⟩ := t.known i b' stands'
    exact ⟨x, mem, found, same.symm.trans push⟩
  · refine (t.fates x mem).kept keeps trivial (filter_of_others fun o there => ?_) rfl
    exact beq_false_of_ne (others x mem o there)

/-- A send ends when it is called. -/
theorem Tracked.ends (t : Tracked settings d) (unused : Unused d x.call) {o : Outcome}
    {accs : List Acceptance} (conclusion : Conclusion x o accs) :
    Tracked settings { d with
      sendings := x :: d.sendings
      outcomes := (x.call, o) :: d.outcomes
      accepted := accs ++ d.accepted } := by
  have absent := unused.absent t
  refine t.turn (y := x) ⟨.inl ⟨rfl, fun y mem => Nat.ne_of_lt (unused.earlier y mem)⟩,
    keeps_refl _, ⟨[(x.call, o)], rfl, List.forall_mem_singleton.mpr rfl⟩,
    ⟨accs, rfl, conclusion.own⟩⟩ t.ordered (fun i b stands own => absurd own (absent i b stands)) ?_
  exact conclusion.fate rfl rfl unused.outcomes unused.accepted absent

/-- A send joins the line of the session that it finds. -/
theorem Tracked.joins (t : Tracked settings d) (unused : Unused d x.call)
    (found : x.session = some i) (at_ : d.lines[i]? = some line) :
    Tracked settings { d with
      lines := d.lines.set i (line ++ [x.push settings.sendTimeout])
      sendings := x :: d.sendings } := by
  have absent := unused.absent t
  refine t.turn (y := x) ⟨.inl ⟨rfl, fun y mem => Nat.ne_of_lt (unused.earlier y mem)⟩,
    keeps_join at_ _, ⟨[], rfl, nofun⟩, ⟨[], rfl, nofun⟩⟩ ?_ ?_ ?_
  · refine ordered_set t.ordered (List.pairwise_append.mpr ⟨t.ordered line
      (List.mem_of_getElem? at_), List.pairwise_singleton _ _, fun b mem b' last => ?_⟩)
    rw [List.mem_singleton.mp last]
    exact ⟨unused.stands t ⟨line, at_, mem⟩, nofun⟩
  · intro j b stands mine
    rcases (stands_set at_).mp stands with ⟨rfl, mem⟩ | ⟨-, old⟩
    · rcases List.mem_append.mp mem with old | last
      · exact absurd mine (absent _ b ⟨line, at_, old⟩)
      · rw [List.mem_singleton.mp last]
        exact ⟨found, rfl⟩
    · exact absurd mine (absent j b old)
  · refine .waits (b := x.push settings.sendTimeout) found ((stands_set at_).mpr (.inl ⟨rfl, ?_⟩))
      rfl unused.outcomes unused.accepted
    exact List.mem_append_right _ (List.mem_singleton_self _)

/-- A send leaves its line with an answer. -/
theorem Tracked.leaves (t : Tracked settings d) (at_ : d.lines[i]? = some line) (mem : b ∈ line)
    (left : Left line line' b.ticket) {o : Outcome} {accs : List Acceptance}
    (conclusion : ∀ x, x.session = some i → b.bare = x.push settings.sendTimeout →
      Conclusion x o accs) :
    Tracked settings { d with
      lines := d.lines.set i line'
      outcomes := (b.ticket, o) :: d.outcomes
      accepted := accs ++ d.accepted } := by
  obtain ⟨x, there, found, mine, call, unanswered, unaccepted⟩ := t.waiting ⟨line, at_, mem⟩
  have gone : ∀ j b', Stands (d.lines.set i line') j b' → b'.ticket ≠ x.call :=
    call.symm ▸ t.gone at_ mem left
  have concludes := conclusion x found mine
  refine t.turn (y := x) ⟨.inr ⟨rfl, there⟩, call.symm ▸ left.keeps at_,
    ⟨[(b.ticket, o)], rfl, List.forall_mem_singleton.mpr call.symm⟩, ⟨accs, rfl, concludes.own⟩⟩
    (ordered_set t.ordered (left.ordered (t.ordered line (List.mem_of_getElem? at_))))
    (fun j b' stands own => absurd own (gone j b' stands)) ?_
  exact concludes.fate (call ▸ rfl) rfl unanswered unaccepted gone

/-- Every step keeps what is known of the sends. The cases are those of `Service`, one for each way
in which a send begins, ends or stands aside. -/
theorem Tracked.step (t : Tracked settings c.desk) (reachable : Reachable settings c)
    (stepped : c.step a = some c') : Tracked settings c'.desk := by
  have unused := reachable.unused
  have service := service_of_step reachable stepped
  generalize c'.desk = d' at service
  cases service with
  | aside _ shift others =>
    exact t.aside shift fun x mem o there same => others o there x.frame (same ▸ asked_of_sending mem)
  | @refuses frame e reason => exact t.ends (x := c.sending frame) unused (.failed e)
  | @takes frame i installed => exact t.ends (x := c.sending frame) unused (.accepted installed)
  | @queues frame i line installed at_ =>
    rw [reachable.settings_eq]
    exact t.joins (x := c.sending frame) unused installed at_
  | @declines i line line' b e at_ mem left reason =>
    exact t.leaves at_ mem left fun x found own => .failed e
  | @admits i line b at_ mem =>
    have accepts (x : Sending) (found : x.session = some i)
        (own : b.bare = x.push settings.sendTimeout) :
        Conclusion x (.ok ()) [⟨i, b.ticket, b.item⟩] := by
      have ticket : b.ticket = x.call := congrArg Blocked.ticket own
      have item : b.item = x.frame := congrArg Blocked.item own
      rw [ticket, item]
      exact .accepted found
    exact t.leaves at_ mem (.inl rfl) accepts

/-- A new connection has no sends. -/
theorem tracked_new : Tracked settings (new settings).desk where
  once := .nil
  ordered := nofun
  known i b stands := by
    obtain ⟨line, at_, -⟩ := stands
    cases at_
  fates := nofun

/-- In every reachable state all sends have their fate. -/
theorem Reachable.tracked (reachable : Reachable settings c) : Tracked settings c.desk := by
  induction reachable with
  | new => exact tracked_new
  | step a before stepped ih => exact ih.step before stepped

/-! ## Reasons -/

/-- Why a send ends with an error in a step of a connection. -/
inductive Reason (c : Connection) (x : Sending) : ConnectionError → Prop where
  /-- The connection was not connected at the call. -/
  | unconnected (away : x.state ≠ .connected) : Reason c x (.notConnected x.state)
  /-- It was, and so it is told; but a disconnect has taken the session out, and no task has ended
  it. -/
  | takenOut (shown : x.state = .connected) (gone : c.cancelled = true) (live : ∃ i, c.Live i) :
      Reason c x (.notConnected x.state)
  /-- Its time is over, its session goes on, and it was given no slot. -/
  | full {i : Nat} (found : x.session = some i) (live : c.Live i) (up : c.cancelled = false)
      (without : ∀ j b, Stands c.lines j b → b.ticket = x.call → b.granted = false)
      (late : x.moment + c.settings.sendTimeout.nanos ≤ c.now) :
      Reason c x (.queueFull c.settings.sendTimeout)
  /-- Its session is over, or the connection is going down. -/
  | closed {i : Nat} (found : x.session = some i) (ended : c.Live i → c.cancelled = true) :
      Reason c x .closed

/-- A send that is refused at its call is told a reason: the state that it found, also where a
disconnect has taken the session out, or a queue without room where there is no time to wait. -/
theorem Refused.reason {frame : Frame} {e : ConnectionError} (refused : Refused c e)
    (new : ∀ i b, Stands c.lines i b → b.ticket ≠ c.fresh) : Reason c (c.sending frame) e := by
  cases refused with
  | unconnected away => exact .unconnected (x := c.sending frame) away
  | takenOut shown gone live => exact .takenOut (x := c.sending frame) shown gone live
  | hurried installed live up instant =>
    refine .full installed live up (fun j b stands own => absurd own (new j b stands)) ?_
    rw [instant]
    exact Nat.le_refl c.now

/-- A send that gives up waiting is told a reason as well: its session is over or cut, or its
time is up. It still is the push that stands in the line. -/
theorem Declined.reason {e : ConnectionError} (t : Tracked settings c.desk)
    (settings_eq : c.settings = settings) (at_ : c.lines[i]? = some line) (mem : b ∈ line)
    (found : x.session = some i) (mine : b.bare = x.push settings.sendTimeout)
    (declined : Declined c i b e) : Reason c x e := by
  have ticket : b.ticket = x.call := congrArg Blocked.ticket mine
  have timeout : b.timeout = settings.sendTimeout := congrArg Blocked.timeout mine
  have deadline : b.deadline = x.moment + settings.sendTimeout.nanos :=
    congrArg Blocked.deadline mine
  cases declined with
  | closed ended => exact .closed found ended
  | late live up without due =>
    rw [timeout, ← settings_eq]
    refine .full found live up (fun j b' stands own => ?_) ?_
    · have here : i = j := t.place ⟨line, at_, mem⟩ stands (ticket.trans own.symm)
      subst here
      obtain ⟨line', at', mem'⟩ := stands
      cases at_.symm.trans at'
      have order : Ordered line := t.ordered line (List.mem_of_getElem? at_)
      rwa [order.unique mem' mem (own.trans ticket.symm)]
    · rw [settings_eq, ← deadline]
      exact due

/-- A send that ends with an error has a reason when it does. -/
theorem reason_of_step (reachable : Reachable settings c) (stepped : c.step a = some c')
    (mem : x ∈ sendings c'.history) {e : ConnectionError}
    (ended : (x.call, .error e) ∈ outcomes c'.history) :
    (x.call, .error e) ∈ outcomes c.history ∨ Reason c x e := by
  have t := reachable.tracked
  have unused := reachable.unused
  have fresh {x : Sending} (mem : x ∈ sendings c.history) : x.call ≠ c.fresh :=
    Nat.ne_of_lt (unused.earlier x mem)
  have service := service_of_step reachable stepped
  have mem : x ∈ c'.desk.sendings := mem
  have ended : (x.call, .error e) ∈ c'.desk.outcomes := ended
  generalize c'.desk = d' at service mem ended
  cases service with
  | @aside a lines outs _ shift others =>
    rcases List.mem_append.mp ended with new | old
    · exact absurd (asked_of_sending mem) (others _ new x.frame)
    · exact .inl old
  | @refuses frame e' reason =>
    rcases List.mem_cons.mp ended with now | old
    · obtain ⟨call, same⟩ := Prod.mk.inj now
      cases same
      rcases List.mem_cons.mp mem with rfl | earlier
      · exact .inr (reason.reason fun i b stands => Nat.ne_of_lt (unused.stands t stands))
      · exact absurd call (fresh earlier)
    · exact .inl old
  | takes =>
    rcases List.mem_cons.mp ended with now | old
    · cases (Prod.mk.inj now).2
    · exact .inl old
  | queues => exact .inl ended
  | @declines i line line' b e' at_ stood left reason =>
    rcases List.mem_cons.mp ended with now | old
    · obtain ⟨call, same⟩ := Prod.mk.inj now
      cases same
      obtain ⟨y, there, found, mine, own, -⟩ := t.waiting ⟨line, at_, stood⟩
      cases t.same mem there (call.trans own.symm)
      exact .inr (reason.reason t reachable.settings_eq at_ stood found mine)
    · exact .inl old
  | admits =>
    rcases List.mem_cons.mp ended with now | old
    · cases (Prod.mk.inj now).2
    · exact .inl old

/-! ## The whole wait -/

/-- Whoever waits waits on after a step, with the slot that it had, or is answered. -/
theorem stays_or_answered (reachable : Reachable settings c) (stepped : c.step a = some c')
    (stands : Stands c.lines i b) :
    (∃ b', Stands c'.lines i b' ∧ b'.bare = b.bare ∧ (b.granted = true → b'.granted = true)) ∨
      ∃ o, (b.ticket, o) ∈ outcomes c'.history := by
  have service := service_of_step reachable stepped
  show (∃ b', Stands c'.desk.lines i b' ∧ b'.bare = b.bare ∧
    (b.granted = true → b'.granted = true)) ∨ ∃ o, (b.ticket, o) ∈ c'.desk.outcomes
  generalize c'.desk = d' at service
  cases service with
  | aside _ shift _ => exact .inl ((shift.keeps fun _ => True).stays i b stands trivial)
  | refuses reason => exact .inl ⟨b, stands, rfl, id⟩
  | takes installed => exact .inl ⟨b, stands, rfl, id⟩
  | queues installed at_ =>
    have earlier := reachable.unused.stands reachable.tracked stands
    exact .inl ((keeps_join at_ _).stays i b stands (Nat.ne_of_lt earlier))
  | @declines j line line' b' e at_ mem left reason =>
    have left : Left line line' b'.ticket := left
    by_cases own : b.ticket = b'.ticket
    · exact .inr ⟨.error e, own ▸ List.mem_cons_self⟩
    · exact .inl ((left.keeps at_).stays i b stands own)
  | @admits j line b' at_ mem =>
    have left : Left line (line.filter (·.ticket != b'.ticket)) b'.ticket := .inl rfl
    by_cases own : b.ticket = b'.ticket
    · exact .inr ⟨.ok (), own ▸ List.mem_cons_self⟩
    · exact .inl ((left.keeps at_).stays i b stands own)

/-- A send that was given a slot, or whose session is cut, or that was answered: it is told of no
full queue any more. -/
structure Released (settings : ConnectionSettings) (x : Sending) (i : Nat) (c : Connection) :
    Prop where
  reachable : Reachable settings c
  called : x ∈ sendings c.history
  found : x.session = some i
  never : ∀ limit, (x.call, .error (.queueFull limit)) ∉ outcomes c.history
  released : c.cancelled = true ∨ (∃ s, c.sessions[i]? = some s ∧ s.ended = true) ∨
    (∃ b, Stands c.lines i b ∧ b.ticket = x.call ∧ b.granted = true) ∨
    ∃ o, (x.call, o) ∈ outcomes c.history

/-- A send is answered once. -/
theorem Reachable.answered_once (reachable : Reachable settings c) (mem : x ∈ sendings c.history)
    {o o' : Outcome} (ended : (x.call, o) ∈ outcomes c.history)
    (ended' : (x.call, o') ∈ outcomes c.history) : o = o' := by
  have among {o : Outcome} (ended : (x.call, o) ∈ outcomes c.history) :
      (x.call, o) ∈ c.desk.outcomes.filter (·.1 == x.call) :=
    List.mem_filter.mpr ⟨ended, beq_self_eq_true _⟩
  have one {o : Outcome} {answer : Nat × Outcome}
      (once : c.desk.outcomes.filter (·.1 == x.call) = [answer])
      (ended : (x.call, o) ∈ outcomes c.history) : (x.call, o) = answer :=
    List.mem_singleton.mp (once ▸ among ended)
  cases reachable.tracked.fates x mem with
  | waits _ _ _ unanswered _ => exact absurd (among ended) (unanswered ▸ List.not_mem_nil)
  | accepted _ once _ _ => exact (Prod.mk.inj ((one once ended).trans (one once ended').symm)).2
  | failed once _ _ => exact (Prod.mk.inj ((one once ended).trans (one once ended').symm)).2

/-- A send that was released stays released, so that no later look can find its queue full. -/
theorem Released.step (r : Released settings x i c) (stepped : c.step a = some c') :
    Released settings x i c' := by
  have h := r.reachable.sound
  have later := r.reachable.step a stepped
  have beats := (move_of_step h stepped).beats h
  have kept {o : Outcome} (ended : (x.call, o) ∈ outcomes c.history) :
      (x.call, o) ∈ outcomes c'.history := outcomes_of_grown beats.grown ended
  have called : x ∈ sendings c'.history := by
    obtain ⟨new, grown⟩ := beats.grown
    have grown : c'.history = new ++ c.history := grown
    rw [grown, sendings, List.filterMap_append]
    exact List.mem_append_right _ r.called
  refine ⟨later, called, r.found, fun limit ended => ?_, ?_⟩
  · rcases reason_of_step r.reachable stepped called ended with old | reason
    · exact r.never limit old
    · cases reason with
      | full found live up without late =>
        cases r.found.symm.trans found
        rcases r.released with gone | ⟨s, at_, ended⟩ | ⟨b, stands, own, granted⟩ | ⟨o, answered⟩
        · exact absurd (up.symm.trans gone) Bool.false_ne_true
        · exact not_live_of_ended at_ ended live
        · exact absurd ((without i b stands own).symm.trans granted) Bool.false_ne_true
        · cases later.answered_once called (kept answered) ended
          exact r.never _ answered
  · rcases r.released with gone | ⟨s, at_, ended⟩ | ⟨b, stands, own, granted⟩ | ⟨o, answered⟩
    · exact .inl ((move_of_step h stepped).winds h gone).cancelled
    · exact .inr (.inl (over_of_step h stepped at_ ended))
    · rcases stays_or_answered r.reachable stepped stands with ⟨b', stands', same, keeps⟩ | ended
      · have ticket := Blocked.ticket_of_bare same
        exact .inr (.inr (.inl ⟨b', stands', ticket.trans own, keeps granted⟩))
      · exact .inr (.inr (.inr (own ▸ ended)))
    · exact .inr (.inr (.inr ⟨o, kept answered⟩))

/-- A call to send is found among the sends. -/
theorem sending_of_asked {history : List Entry} {call : Nat} {frame : Frame}
    (asked : (call, .send frame) ∈ requests history) : ∃ x ∈ sendings history, x.call = call := by
  obtain ⟨⟨moment, what⟩, there, is⟩ := List.mem_filterMap.mp asked
  cases what with
  | called call' request state session =>
    cases is
    exact ⟨⟨call, frame, moment, state, session⟩, List.mem_filterMap.mpr ⟨_, there, rfl⟩, rfl⟩
  | _ => cases is

/-- Whoever was accepted was answered, with success and once. -/
theorem Reachable.answered_of_accepted (reachable : Reachable settings c) {k : Acceptance}
    (mem : k ∈ acceptances c.history) :
    (outcomes c.history).filter (·.1 == k.call) = [(k.call, .ok ())] := by
  obtain ⟨x, called, same⟩ := sending_of_asked (reachable.owned.accepted k mem)
  have among : k ∈ c.desk.accepted.filter (·.call == x.call) :=
    List.mem_filter.mpr ⟨mem, beq_iff_eq.mpr same.symm⟩
  cases reachable.tracked.fates x called with
  | waits _ _ _ _ unaccepted => exact absurd among (unaccepted ▸ List.not_mem_nil)
  | accepted _ once _ _ => exact same ▸ once
  | failed _ nowhere _ => exact absurd among (nowhere ▸ List.not_mem_nil)

/-- No full queue is told to a push that has a slot, or whose session is cut. -/
theorem Reachable.released (reachable : Reachable settings c) (at_ : c.sessions[i]? = some s)
    (mem : b ∈ s.queue.blocked) (spared : c.isCut s = true ∨ b.granted = true)
    {as : List Action} (run : c.after as = some c') (limit : Duration) :
    (b.ticket, .error (.queueFull limit)) ∉ outcomes c'.history := by
  have stands : Stands c.lines i b := ⟨_, line_at at_, mem⟩
  obtain ⟨x, called, found, -, call, unanswered, -⟩ := reachable.tracked.waiting stands
  have start : Released settings x i c := by
    refine ⟨reachable, called, found, fun limit ended => ?_, ?_⟩
    · exact List.filter_eq_nil_iff.mp unanswered _ ended (beq_self_eq_true _)
    · rcases spared with cut | granted
      · rcases Bool.or_eq_true_iff.mp cut with gone | ended
        · exact .inl gone
        · exact .inr (.inl ⟨s, at_, ended⟩)
      · exact .inr (.inr (.inl ⟨b, stands, call.symm, granted⟩))
  have end_ : Released settings x i c' := after_induction (fun r => r.step) start run
  exact call ▸ end_.never limit

/-- A send is told that the connection is not connected, and that it is, exactly while a disconnect
has taken the session out and no task has ended it. -/
theorem Reachable.contradicted_iff (reachable : Reachable settings c) (frame : Frame) :
    (c.fresh, .error (.notConnected .connected)) ∈ outcomes (c.send frame).history ↔
      c.state = .connected ∧ c.cancelled = true := by
  have service := service_of_send reachable frame
  have none_ : ∀ o, (c.fresh, o) ∉ outcomes c.history := fun o old =>
    List.filter_eq_nil_iff.mp reachable.unused.outcomes _ old (beq_self_eq_true _)
  show _ ∈ (c.send frame).desk.outcomes ↔ _
  generalize (c.send frame).desk = d' at service
  constructor
  · intro ended
    cases service with
    | aside own => cases own
    | refuses reason =>
      rcases List.mem_cons.mp ended with now | old
      · have told := Except.error.inj (Prod.mk.inj now).2
        cases reason with
        | unconnected away => exact absurd (ConnectionError.notConnected.inj told).symm away
        | takenOut shown gone live => exact ⟨shown, gone⟩
        | hurried => cases told
      · exact absurd old (none_ _)
    | takes =>
      rcases List.mem_cons.mp ended with now | old
      · cases (Prod.mk.inj now).2
      · exact absurd old (none_ _)
    | queues => exact absurd ended (none_ _)
  · rintro ⟨shown, gone⟩
    have vacant {i : Nat} (installed : c.slot = some i) : False := by
      cases (reachable.sound.empty gone).symm.trans installed
    cases service with
    | aside own => cases own
    | refuses reason =>
      cases reason with
      | unconnected away => exact absurd shown away
      | takenOut => exact shown ▸ List.mem_cons_self
      | hurried installed => exact (vacant installed).elim
    | takes installed => exact (vacant installed).elim
    | queues installed => exact (vacant installed).elim

/-- Where a connection comes to rest, nobody waits at a session that is cut. -/
theorem line_empty_of_settled (settled : c.isSettled = true) (at_ : c.sessions[i]? = some s)
    (cut : c.isCut s = true) : s.queue.blocked = [] := by
  cases line : s.queue.blocked with
  | nil => rfl
  | cons b rest =>
    have mem : b ∈ s.queue.blocked := line ▸ List.mem_cons_self
    have stays := no_look_of_settled settled (lookSend_mem_looks at_ mem)
    have looked : c.step (.lookSend i b.ticket) = c.lookSend i s b.ticket := by
      rw [step, at_, Option.bind_some]
    rw [looked, lookSend] at stays
    cases found : s.queue.waiting? b.ticket with
    | none => exact absurd (beq_self_eq_true b.ticket) (List.find?_eq_none.mp found b mem)
    | some b' =>
      simp only [SendQueue.resume, found, cut, Bool.true_or, if_true] at stays
      cases stays

/-- Whatever connects, losses, disconnects and other sends do beside a send, and in whatever order:

* it waits in the line of the session that was installed at the call, or it has ended once: accepted
  once, by the queue of that session, or with an error and by no queue;
* an error has its reason when it is told (`Reason`); and whoever has a slot, or waits at a session
  that is cut, is told of no full queue in any run from there;
* that the connection is not connected and in the state `connected` is told exactly while a
  disconnect has taken the session out and no task has ended it;
* what a socket was given from its queue is a beginning of what the queue accepted, and whoever was
  accepted has been told of success, so that no socket is ever given the frame of a send that failed;
* and where the connection comes to rest, nobody waits at a session that is over. -/
theorem sends_end_for_a_reason (reachable : Reachable settings c) :
    (∀ x ∈ sendings c.history, Fate settings c.desk x) ∧
    (∀ a c', c.step a = some c' → ∀ x ∈ sendings c'.history, ∀ e,
      (x.call, .error e) ∈ outcomes c'.history →
      (x.call, .error e) ∈ outcomes c.history ∨ Reason c x e) ∧
    (∀ (i : Nat) s b, c.sessions[i]? = some s → b ∈ s.queue.blocked →
      c.isCut s = true ∨ b.granted = true →
      ∀ as c', c.after as = some c' → ∀ limit,
        (b.ticket, .error (.queueFull limit)) ∉ outcomes c'.history) ∧
    (∀ frame, (c.fresh, .error (.notConnected .connected)) ∈ outcomes (c.send frame).history ↔
      c.state = .connected ∧ c.cancelled = true) ∧
    (∀ i, queued (c.account i).handed <+: (c.account i).accepted) ∧
    (∀ k ∈ acceptances c.history,
      (outcomes c.history).filter (·.1 == k.call) = [(k.call, .ok ())]) ∧
    (c.isSettled = true → ∀ (i : Nat) s, c.sessions[i]? = some s → c.isCut s = true →
      s.queue.blocked = []) := by
  refine ⟨reachable.tracked.fates, ?_, ?_, reachable.contradicted_iff, fun i => ?_, ?_, ?_⟩
  · exact fun a c' stepped x called e ended => reason_of_step reachable stepped called ended
  · exact fun i s b at_ mem spared as c' run => reachable.released at_ mem spared run
  · cases at_ : c.sessions[i]? with
    | some s => exact (reachable.carries.lanes i s.lane (lane_at at_)).conveyed.given
    | none =>
      have beyond : c.transit.lanes.length ≤ i := by
        simpa [transit] using List.getElem?_eq_none_iff.mp at_
      have none_ : c.account i = ⟨[], [], []⟩ := reachable.carries.nowhere i beyond
      rw [none_]
      exact List.nil_prefix
  · exact fun k mem => reachable.answered_of_accepted mem
  · exact fun settled i s at_ cut => line_empty_of_settled settled at_ cut

/-- Settings with room for one frame. -/
def narrow : ConnectionSettings := { plain with sendQueueCapacity := 1 }

/-- A send is accepted, two wait; one of them is given a slot, and then the session is lost. -/
def crowded : List Action :=
  [.connect, .dial 0 (.ok ()), .send (.data [1]), .send (.data [2]), .send (.data [3]),
    .lookWriter 0, .lookSend 0 2, .socket 0 (.ok ()), .arrive 0 .close, .lookReader 0,
    .lookWriter 0, .lookKeeper 0, .lookSend 0 3]

/-- Of two sends that wait, one is given a slot and accepted, and the other is told that its session
is closed. No session is over with a push left in its line. -/
theorem sends_end_for_a_reason_when_crowded : ∃ c, (new narrow).after crowded = some c ∧
    outcomes c.history = [(3, .error .closed), (2, .ok ()), (1, .ok ()), (0, .ok ())] ∧
    (∀ x ∈ sendings c.history, Fate narrow c.desk x) ∧
    c.isSettled = true ∧ ∀ (i : Nat) s, c.sessions[i]? = some s → c.isCut s = true →
      s.queue.blocked = [] := by
  obtain ⟨c, run, reachable, outcome⟩ := @reachable_of_run narrow crowded
    (fun c => c.isSettled = true ∧
      outcomes c.history = [(3, .error .closed), (2, .ok ()), (1, .ok ()), (0, .ok ())])
    (by decide +kernel)
  obtain ⟨settled, ended⟩ := of_decide_eq_true outcome
  obtain ⟨fates, -, -, -, -, -, rest⟩ := sends_end_for_a_reason reachable
  exact ⟨c, run, ended, fates, settled, rest settled⟩

/-- A send right after a disconnect is told that the connection is not connected, and in the state
`connected`. -/
theorem disconnect_contradicts_state : ¬ ∀ (settings : ConnectionSettings) (c : Connection)
    (frame : Frame) (state : Lifecycle), Reachable settings c →
    (c.fresh, .error (.notConnected state)) ∈ outcomes (c.send frame).history →
    state = c.state ∧ state ≠ .connected := by
  intro honest
  obtain ⟨c, run, reachable, outcome⟩ := @reachable_of_run plain
    [.connect, .dial 0 (.ok ()), .disconnect]
    (fun c => (c.fresh, .error (.notConnected .connected)) ∈ outcomes (c.send (.data [1])).history)
    (by decide +kernel)
  have told := of_decide_eq_true outcome
  exact (honest plain c (.data [1]) .connected reachable told).2 rfl

end StationPool.Connection
