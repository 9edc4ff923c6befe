import StationPool.Proofs.Connection.Beats

/-!
# What the observer may rely on

The observer of a connection is told of the sessions in turns: each is told as connected when it is
installed and as disconnected when it ends, one after the other. What it is given in between are the
messages of that session, as they arrived. Two invariants of the beats say so, one of the turns
(`Turning`) and one of the messages (`Passing`); both hold along every run.
-/

namespace StationPool.Connection

/-- The turns that a session has had. -/
def turnsOf (ended : Bool) (i : Nat) : List Turn :=
  if ended then [.up (some i), .down (some i)] else [.up (some i)]

/-- A session goes up after another is down, and goes down after it is up. The last turn stands
first. -/
def Alternating : List Turn → Prop
  | [] => True
  | .up _ :: rest => (∀ turn, rest.head? = some turn → ∃ s, turn = .down s) ∧ Alternating rest
  | .down s :: rest => rest.head? = some (.up s) ∧ Alternating rest

/-- The turns are those of the sessions, in order, and a message is told in the turn of its
session. -/
structure Turning (fates : List Bool) (history : List Entry) : Prop where
  newest : ∀ i, fates[i]? = some false → i + 1 = fates.length
  alternating : Alternating (turns history)
  latest : ∀ i, fates[i]? = some false → (turns history).head? = some (.up (some i))
  rested : false ∉ fates → ∀ turn, (turns history).head? = some turn → ∃ s, turn = .down s
  turns : (turns history).reverse = fates.zipIdx.flatMap fun p => turnsOf p.1 p.2
  nodup : (Connection.turns history).Nodup
  within : ∀ moment s payload earlier,
    ⟨moment, .observed s (.message payload)⟩ :: earlier <:+ history →
      ∃ i, s = some i ∧ (Connection.turns earlier).head? = some (.up (some i))
  caused : ∀ moment s e earlier,
    ⟨moment, .observed s (.disconnected (some e))⟩ :: earlier <:+ history →
      ∃ rest, earlier = ⟨moment, .observed s (.failed e)⟩ :: rest

/-- What was passed on of a session and what waits in its inbox are what arrived. -/
structure Passing (inboxes : List (List Bytes)) (history : List Entry) : Prop where
  passed : ∀ i unread, inboxes[i]? = some unread →
    (messages history i).reverse ++ unread = (arrivals history i).reverse
  untold : ∀ i, inboxes.length ≤ i → messages history i = [] ∧ arrivals history i = []

variable {fates : List Bool} {history : List Entry} {i : Nat}

/-! ## The turns -/

/-- Of every session it is told that it is up, and of those that are over that they are down. -/
theorem Turning.mem (h : Turning fates history) : 
    (.up (some i) ∈ Connection.turns history ↔ i < fates.length) ∧
    (.down (some i) ∈ Connection.turns history ↔ fates[i]? = some true) := by
  have listed (turn : Turn) : turn ∈ Connection.turns history ↔
      ∃ ended j, fates[j]? = some ended ∧ turn ∈ turnsOf ended j := by
    rw [← List.mem_reverse, h.turns, List.mem_flatMap]
    constructor
    · rintro ⟨⟨ended, j⟩, at_, mem⟩
      exact ⟨ended, j, List.mem_zipIdx_iff_getElem?.mp at_, mem⟩
    · rintro ⟨ended, j, at_, mem⟩
      exact ⟨(ended, j), List.mem_zipIdx_iff_getElem?.mpr at_, mem⟩
  rw [listed, listed]
  refine ⟨⟨?_, ?_⟩, ⟨?_, ?_⟩⟩
  · rintro ⟨ended, j, at_, mem⟩
    have own : i = j := by cases ended <;> simpa [turnsOf] using mem
    rw [own]
    exact (List.getElem?_eq_some_iff.mp at_).1
  · intro bound
    exact ⟨_, i, List.getElem?_eq_getElem bound, by cases fates[i] <;> simp [turnsOf]⟩
  · rintro ⟨ended, j, at_, mem⟩
    cases ended with
    | false => simp [turnsOf] at mem
    | true =>
      have own : i = j := by simpa [turnsOf] using mem
      rw [own]
      exact at_
  · intro at_
    exact ⟨true, i, at_, by simp [turnsOf]⟩

/-- An entry that is no turn, and if a message then one of the session that lives. -/
theorem Turning.entry (h : Turning fates history) {e : Entry} (plain : e.what.turn? = none)
    (message : ∀ s payload, e.what = .observed s (.message payload) →
      ∃ i, s = some i ∧ fates[i]? = some false) : Turning fates (e :: history) := by
  have same : Connection.turns (e :: history) = Connection.turns history := by
    simp only [Connection.turns, List.filterMap_cons, plain]
  refine { h with
    alternating := by rw [same]; exact h.alternating
    latest := by rw [same]; exact h.latest
    rested := by rw [same]; exact h.rested
    turns := by rw [same]; exact h.turns
    nodup := by rw [same]; exact h.nodup
    within := ?_
    caused := ?_ }
  · intro moment s payload earlier suffix_
    rcases List.suffix_cons_iff.mp suffix_ with here | before
    · obtain ⟨rfl, rfl⟩ := List.cons.inj here
      obtain ⟨i, rfl, live⟩ := message s payload rfl
      exact ⟨i, rfl, h.latest i live⟩
    · exact h.within moment s payload earlier before
  · intro moment s err earlier suffix_
    rcases List.suffix_cons_iff.mp suffix_ with here | before
    · obtain ⟨rfl, rfl⟩ := List.cons.inj here
      cases plain
    · exact h.caused moment s err earlier before

/-- A session is installed where none lives. -/
theorem Turning.up (h : Turning fates history) (dead : false ∉ fates) (moment : Nat) :
    Turning (fates ++ [false])
      (⟨moment, .observed (some fates.length) .connected⟩ :: history) := by
  have own {j : Nat} (at_ : (fates ++ [false])[j]? = some false) : j = fates.length := by
    rcases Nat.lt_or_ge j fates.length with old | new
    · rw [List.getElem?_append_left old] at at_
      exact absurd (List.mem_of_getElem? at_) dead
    · have bound := (List.getElem?_eq_some_iff.mp at_).1
      rw [List.length_append, List.length_singleton] at bound
      omega
  refine { newest := ?_, alternating := ⟨h.rested dead, h.alternating⟩, latest := ?_, rested := ?_,
           turns := ?_, nodup := ?_, within := ?_, caused := ?_ }
  · intro j at_
    rw [own at_, List.length_append, List.length_singleton]
  · intro j at_
    rw [own at_]
    rfl
  · intro absent
    exact absurd (List.mem_append_right _ List.mem_cons_self) absent
  · have told : Connection.turns (⟨moment, .observed (some fates.length) .connected⟩ :: history) =
        .up (some fates.length) :: Connection.turns history := rfl
    rw [told, List.reverse_cons, h.turns, List.zipIdx_append, List.flatMap_append, Nat.zero_add]
    rfl
  · refine List.nodup_cons.mpr ⟨fun told => ?_, h.nodup⟩
    exact Nat.lt_irrefl _ (h.mem.1.mp told)
  · intro m s payload earlier suffix_
    rcases List.suffix_cons_iff.mp suffix_ with here | before
    · cases here
    · exact h.within m s payload earlier before
  · intro m s e earlier suffix_
    rcases List.suffix_cons_iff.mp suffix_ with here | before
    · cases here
    · exact h.caused m s e earlier before

/-- The session that lives ends. -/
theorem Turning.down (h : Turning fates history) (at_ : fates[i]? = some false) (moment : Nat)
    (error : Option ConnectionError)
    (cause : ∀ e, error = some e →
      ∃ rest, history = ⟨moment, .observed (some i) (.failed e)⟩ :: rest) :
    Turning (fates.set i true)
      (⟨moment, .observed (some i) (.disconnected error)⟩ :: history) := by
  have dead (j : Nat) : (fates.set i true)[j]? ≠ some false := by
    intro lives
    rw [List.getElem?_set] at lives
    split at lives
    · split at lives <;> cases lives
    · have := h.newest i at_
      have := h.newest j lives
      omega
  refine { newest := fun j lives => absurd lives (dead j)
           alternating := ⟨h.latest i at_, h.alternating⟩
           latest := fun j lives => absurd lives (dead j)
           rested := ?_, turns := ?_, nodup := ?_, within := ?_, caused := ?_ }
  · rintro _ turn ⟨⟩
    exact ⟨_, rfl⟩
  · obtain ⟨before, rfl, rfl⟩ : ∃ before, fates = before ++ [false] ∧ before.length = i := by
      obtain ⟨bound, live⟩ := List.getElem?_eq_some_iff.mp at_
      refine ⟨fates.take i, ?_, by rw [List.length_take]; omega⟩
      have split := List.take_append_getElem bound
      rw [live, h.newest i at_, List.take_length] at split
      exact split.symm
    have told : Connection.turns
        (⟨moment, .observed (some before.length) (.disconnected error)⟩ :: history) =
        .down (some before.length) :: Connection.turns history := rfl
    have ended : (before ++ [false]).set before.length true = before ++ [true] := by
      rw [List.set_append_right _ _ (Nat.le_refl _), Nat.sub_self]
      rfl
    rw [told, List.reverse_cons, h.turns, ended, List.zipIdx_append, List.zipIdx_append,
      List.flatMap_append, List.flatMap_append, Nat.zero_add, List.append_assoc]
    rfl
  · refine List.nodup_cons.mpr ⟨fun told => ?_, h.nodup⟩
    have gone := h.mem.2.mp told
    rw [at_] at gone
    cases gone
  · intro m s payload earlier suffix_
    rcases List.suffix_cons_iff.mp suffix_ with here | before
    · cases here
    · exact h.within m s payload earlier before
  · intro m s e earlier suffix_
    rcases List.suffix_cons_iff.mp suffix_ with here | before
    · cases here
      exact cause e rfl
    · exact h.caused m s e earlier before

/-! ## The messages -/

variable {inboxes : List (List Bytes)}

/-- An entry that is neither a message nor an arrival. -/
theorem Passing.entry (h : Passing inboxes history) {e : Entry}
    (plain : ∀ i, e.what.message? i = none ∧ e.what.arrival? i = none) :
    Passing inboxes (e :: history) := by
  have same (j : Nat) : messages (e :: history) j = messages history j ∧
      arrivals (e :: history) j = arrivals history j := by
    simp only [messages, arrivals, List.filterMap_cons, (plain j).1, (plain j).2, and_self]
  refine ⟨?_, ?_⟩
  · intro j unread at_
    rw [(same j).1, (same j).2]
    exact h.passed j unread at_
  · intro j beyond
    rw [(same j).1, (same j).2]
    exact h.untold j beyond

/-- Nothing waits for a session when it is installed. -/
theorem Passing.up (h : Passing inboxes history) : Passing (inboxes ++ [[]]) history := by
  refine ⟨?_, ?_⟩
  · intro j unread at_
    rcases Nat.lt_or_ge j inboxes.length with old | new
    · rw [List.getElem?_append_left old] at at_
      exact h.passed j unread at_
    · rw [List.getElem?_append_right new] at at_
      obtain ⟨none_, none_'⟩ := h.untold j new
      have empty : unread = [] := List.mem_singleton.mp (List.mem_of_getElem? at_)
      rw [none_, none_', empty]
      rfl
  · intro j beyond
    rw [List.length_append] at beyond
    exact h.untold j (by omega)

/-- A message that arrives for a session waits behind those that arrived before. -/
theorem Passing.arrives (h : Passing inboxes history) {unread : List Bytes}
    (at_ : inboxes[i]? = some unread) (moment : Nat) (item : Inbound) :
    Passing (inboxes.set i (unread ++ item.payload?.toList))
      (⟨moment, .arrived i item⟩ :: history) := by
  obtain ⟨bound, _⟩ := List.getElem?_eq_some_iff.mp at_
  have own : arrivals (⟨moment, .arrived i item⟩ :: history) i =
      item.payload?.toList ++ arrivals history i := by
    simp only [arrivals, List.filterMap_cons, Happening.arrival?, if_true]
    cases item.payload? <;> rfl
  have other {j : Nat} (foreign : i ≠ j) :
      arrivals (⟨moment, .arrived i item⟩ :: history) j = arrivals history j := by
    simp only [arrivals, List.filterMap_cons, Happening.arrival?, if_neg foreign]
  refine ⟨?_, ?_⟩
  · intro j unread' at_'
    by_cases same : i = j
    · subst same
      rw [List.getElem?_set_self bound] at at_'
      obtain rfl := Option.some.inj at_'
      have passed := h.passed i unread at_
      have single : item.payload?.toList.reverse = item.payload?.toList := by
        cases item.payload? <;> rfl
      rw [own, List.reverse_append, single, ← passed, List.append_assoc]
      rfl
    · rw [List.getElem?_set_ne same] at at_'
      rw [other same]
      exact h.passed j unread' at_'
  · intro j beyond
    rw [List.length_set] at beyond
    rw [other (by omega)]
    exact h.untold j beyond

/-- The message that is passed on is the first of those that wait, so that messages are passed on in
the order in which they arrived. -/
theorem Passing.delivers (h : Passing inboxes history) {payload : Bytes} {unread : List Bytes}
    (at_ : inboxes[i]? = some (payload :: unread)) (moment : Nat) :
    Passing (inboxes.set i unread)
      (⟨moment, .observed (some i) (.message payload)⟩ :: history) := by
  obtain ⟨bound, _⟩ := List.getElem?_eq_some_iff.mp at_
  have own : messages (⟨moment, .observed (some i) (.message payload)⟩ :: history) i =
      payload :: messages history i := by
    simp only [messages, List.filterMap_cons, Happening.message?, if_true]
  have other {j : Nat} (foreign : i ≠ j) :
      messages (⟨moment, .observed (some i) (.message payload)⟩ :: history) j =
        messages history j := by
    simp only [messages, List.filterMap_cons, Happening.message?, if_neg foreign]
  refine ⟨?_, ?_⟩
  · intro j unread' at_'
    by_cases same : i = j
    · subst same
      rw [List.getElem?_set_self bound] at at_'
      obtain rfl := Option.some.inj at_'
      have passed := h.passed i _ at_
      rw [own, List.reverse_cons, List.append_assoc]
      exact passed
    · rw [List.getElem?_set_ne same] at at_'
      rw [other same]
      exact h.passed j unread' at_'
  · intro j beyond
    rw [List.length_set] at beyond
    rw [other (by omega)]
    exact h.untold j beyond

/-! ## Every run -/

/-- The observer's part of a scene: the turns and the messages. -/
def Kept (x : Scene) : Prop :=
  Turning (x.faces.map (·.ended)) x.history ∧ Passing (x.faces.map (·.unread)) x.history

/-- Every beat keeps the turns and the messages in order. The five beats are the cases. -/
theorem kept_of_beat {x y : Scene} (kept : Kept x) (beat : Beat x y) : Kept y := by
  obtain ⟨turning, passing⟩ := kept
  have shown {α : Type} (f : Face → α) {faces : List Face} {i : Nat} {face : Face}
      (at_ : faces[i]? = some face) : (faces.map f)[i]? = some (f face) := by
    rw [List.getElem?_map, at_]
    rfl
  have same {α : Type} (f : Face → α) {faces : List Face} {i : Nat} {face face' : Face}
      (at_ : faces[i]? = some face) (eq : f face' = f face) :
      (faces.set i face').map f = faces.map f := by
    rw [List.map_set, eq]
    exact set_of_getElem? (shown f at_)
  cases beat with
  | aside e aside =>
    have plain : e.what.turn? = none ∧
        (∀ s payload, e.what ≠ .observed s (.message payload)) ∧
        ∀ i, e.what.message? i = none ∧ e.what.arrival? i = none := by
      cases what : e.what with
      | observed s what' =>
        cases what' with
        | failed e' => exact ⟨rfl, nofun, fun _ => ⟨by cases s <;> rfl, rfl⟩⟩
        | _ => rw [what] at aside; exact aside.elim
      | arrived i item => rw [what] at aside; exact aside.elim
      | _ => exact ⟨rfl, nofun, fun _ => ⟨rfl, rfl⟩⟩
    exact ⟨turning.entry plain.1 fun s payload what => absurd what (plain.2.1 s payload),
      passing.entry plain.2.2⟩
  | @installs faces history moment dead =>
    have absent : false ∉ faces.map (·.ended) := by
      intro mem
      obtain ⟨face, mem, going⟩ := List.mem_map.mp mem
      rw [dead face mem] at going
      cases going
    have up := turning.up absent moment
    rw [List.length_map] at up
    refine ⟨?_, ?_⟩
    · rw [List.map_append]
      exact up
    · rw [List.map_append]
      exact passing.up.entry fun _ => ⟨rfl, rfl⟩
  | @ends faces history i unread moment error at_ cause =>
    have inboxes : (faces.set i ⟨true, unread⟩).map (·.unread) = faces.map (·.unread) :=
      same (·.unread) at_ rfl
    refine ⟨?_, ?_⟩
    · rw [List.map_set]
      exact turning.down (shown (·.ended) at_) moment error cause
    · rw [inboxes]
      exact passing.entry fun _ => ⟨rfl, rfl⟩
  | @arrives faces history i face moment item at_ =>
    have fates : (faces.set i { face with unread := face.unread ++ item.payload?.toList }).map
        (·.ended) = faces.map (·.ended) :=
      same (·.ended) at_ rfl
    refine ⟨?_, ?_⟩
    · rw [fates]
      exact turning.entry rfl nofun
    · rw [List.map_set]
      exact passing.arrives (shown (·.unread) at_) moment item
  | @delivers faces history i payload unread moment at_ =>
    have fates : (faces.set i ⟨false, unread⟩).map (·.ended) = faces.map (·.ended) :=
      same (·.ended) at_ rfl
    refine ⟨?_, ?_⟩
    · rw [fates]
      refine turning.entry rfl ?_
      rintro s payload ⟨⟩
      exact ⟨_, rfl, shown (·.ended) at_⟩
    · rw [List.map_set]
      exact passing.delivers (shown (·.unread) at_) moment

/-- Beats, one after the other, keep them too. -/
theorem kept_of_beats {x y : Scene} (kept : Kept x) (beats : Beats x y) : Kept y := by
  induction beats with
  | refl => exact kept
  | tail _ beat ih => exact kept_of_beat ih beat

/-- In every reachable state the observer's part of the scene is in order. -/
theorem Reachable.kept {settings : ConnectionSettings} {c : Connection}
    (reachable : Reachable settings c) : Kept c.scene := by
  induction reachable with
  | new =>
    have no_suffix {e : Entry} {earlier : List Entry} (suffix_ : e :: earlier <:+ []) : False :=
      List.cons_ne_nil e earlier (List.suffix_nil.mp suffix_)
    exact ⟨⟨nofun, trivial, nofun, fun _ => nofun, rfl, List.nodup_nil,
      fun _ _ _ _ suffix_ => (no_suffix suffix_).elim,
      fun _ _ _ _ suffix_ => (no_suffix suffix_).elim⟩, ⟨nofun, fun _ _ => ⟨rfl, rfl⟩⟩⟩
  | step a before stepped ih =>
    exact kept_of_beats ih ((move_of_step before.sound stepped).beats before.sound)

/-- Which sessions are over can be read off the faces. -/
theorem fates_of_scene {c : Connection} : c.scene.faces.map (·.ended) = c.fates :=
  List.map_map

/-- Whatever callers, dials, tasks, sockets and the clock do, in whatever order: at most one session
lives. The observer is told of the sessions one after the other, of each that it is up and, once it
is over, that it is down; it is told so in the step in which the session is installed, and in the
step in which it ends. A message is told while its session is the last that went up; the messages
of a session are what arrived on its socket, in that order, up to what still waits in its inbox. And
a session that ends by an error is told as down right after the error. -/
theorem observer_sees_turns {settings : ConnectionSettings} {c : Connection}
    (reachable : Reachable settings c) :
    (∀ i j, c.Live i → c.Live j → i = j) ∧
    Alternating (turns c.history) ∧
    (turns c.history).reverse = c.fates.zipIdx.flatMap (fun p => turnsOf p.1 p.2) ∧
    (∀ a c', c.step a = some c' → ∃ new, c'.history = new ++ c.history ∧ ∀ i,
      (.up (some i) ∈ turns new ↔ c.sessions.length ≤ i ∧ i < c'.sessions.length) ∧
      (.down (some i) ∈ turns new ↔ c.fates[i]? ≠ some true ∧ c'.fates[i]? = some true)) ∧
    (∀ moment s payload earlier,
      ⟨moment, .observed s (.message payload)⟩ :: earlier <:+ c.history →
        ∃ i, s = some i ∧ (turns earlier).head? = some (.up (some i))) ∧
    (∀ i s, c.sessions[i]? = some s →
      (messages c.history i).reverse ++ s.unread = (arrivals c.history i).reverse) ∧
    (∀ moment s e earlier,
      ⟨moment, .observed s (.disconnected (some e))⟩ :: earlier <:+ c.history →
        ∃ rest, earlier = ⟨moment, .observed s (.failed e)⟩ :: rest) := by
  have sound := reachable.sound
  obtain ⟨turning, passing⟩ := reachable.kept
  have turning_of {c : Connection} (kept : Kept c.scene) : Turning c.fates c.history := by
    have turning := kept.1
    rw [fates_of_scene] at turning
    exact turning
  have here := turning_of reachable.kept
  refine ⟨fun i j => sound.live_unique, here.alternating, here.turns, ?_, here.within, ?_,
    here.caused⟩
  · intro a c' stepped
    have beats := (move_of_step sound stepped).beats sound
    have there := turning_of (kept_of_beats reachable.kept beats)
    obtain ⟨new, grown⟩ := beats.grown
    refine ⟨new, grown, fun i => ?_⟩
    have told : turns c'.history = turns new ++ turns c.history := by
      rw [← turns_append]
      exact congrArg turns grown
    have added (turn : Turn) :
        turn ∈ turns new ↔ turn ∉ turns c.history ∧ turn ∈ turns c'.history := by
      have apart := there.nodup
      rw [told] at apart ⊢
      rw [List.mem_append]
      constructor
      · intro mem
        exact ⟨fun before => List.disjoint_of_nodup_append apart mem before, .inl mem⟩
      · rintro ⟨absent, mem | before⟩
        · exact mem
        · exact absurd before absent
    rw [added, added, here.mem.1, here.mem.2, there.mem.1, there.mem.2, Nat.not_lt, fates, fates,
      List.length_map, List.length_map]
    exact ⟨Iff.rfl, Iff.rfl⟩
  · intro i s at_
    refine passing.passed i s.unread ?_
    rw [List.getElem?_map, face_at at_]
    rfl

/-- A session that passes a message on and is lost. -/
def lostSession : List Action :=
  [.connect, .dial 0 (.ok ()), .arrive 0 (.data [1]), .arrive 0 (.failed .connectionClosed),
    .lookReader 0, .lookReader 0]

/-- A session whose error comes behind its message: the observer is told of the message and of both
turns, so that the promise is empty in no part. -/
theorem observer_sees_lost_session : ∃ c, (new plain).after lostSession = some c ∧
    messages c.history 0 = [[1]] ∧ (turns c.history).reverse = [.up (some 0), .down (some 0)] := by
  obtain ⟨c, run, reachable, outcome⟩ := @reachable_of_run plain lostSession
    (fun c => c.fates = [true] ∧ messages c.history 0 = [[1]]) (by decide +kernel)
  obtain ⟨fates, passed⟩ := of_decide_eq_true outcome
  obtain ⟨_, _, turns, _⟩ := observer_sees_turns reachable
  rw [fates] at turns
  exact ⟨c, run, passed, turns⟩

end StationPool.Connection
