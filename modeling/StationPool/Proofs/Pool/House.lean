import StationPool.Proofs.Pool.Errands

/-!
# The house of a pool

What every reachable pool keeps of its calls and connections, whatever it is asked (`House`,
`Reachable.house`): who is registered is not going down and who is not registered is, each call that
waits waits once and has not ended, and no call waits for a connect that has ended.
-/

namespace StationPool.Pool

open Connection (requests)

variable {p p' : Pool} {left left' : List (Nat × Waiting)} {n k : Nat} {w : Waiting}

/-- The pool after a call was made, before anything is done for it. -/
def calling (p : Pool) (request : Request) : Pool :=
  { p with fresh := p.fresh + 1 }.note (.called p.fresh request)

/-- The pool after its first shutdown was called, before anything is done for it. -/
def shutting (p : Pool) : Pool := { p.calling .shutDown with shutDown := true }

/-- The call that is made is written down, before anything is done for it. -/
@[simp] theorem mem_history_calling {request : Request} {x : Happening} :
    x ∈ (p.calling request).history ↔ x = .called p.fresh request ∨ x ∈ p.history :=
  List.mem_cons

/-! ## Calls that wait and calls that go on -/

/-- The calls of a pool, some of which are about to go on, and its connections. -/
structure House (p : Pool) (left : List (Nat × Waiting)) : Prop extends Tended p where
  numbered : ∀ h ∈ p.history, h.caller < p.fresh
  once : ((left ++ p.waiting).map (·.1)).Nodup
  going : ∀ x ∈ left ++ p.waiting, x.1 < p.fresh ∧ ∀ result, .returned x.1 result ∉ p.history
  asked : ∀ n link id, (n, .connecting link id) ∈ left ++ p.waiting → p.Asked link
  /-- Nobody waits for a connect that has ended. -/
  unanswered : ∀ n link id, (n, .connecting link id) ∈ p.waiting → p.outcomeOf link = none
  flag : p.shutDown = true → ∃ n, .called n .shutDown ∈ p.history

/-- A call that goes on and does not wait. -/
structure Vacant (p : Pool) (left : List (Nat × Waiting)) (n : Nat) : Prop where
  made : n < p.fresh
  absent : ∀ x ∈ left ++ p.waiting, x.1 ≠ n
  going : ∀ result, .returned n result ∉ p.history

/-- A connection is registered that is not going down. -/
theorem Tended.registered {s : StationSettings} {c : Connection} (t : Tended p)
    (reg : Registers n s c p p') (real : ∃ settings, Connection.Reachable settings c)
    (up : c.cancelled = false) : Tended p' := by
  have below {id : String} {k : Nat} (mem : (id, k) ∈ p.registry.entries) :
      k < p.connections.length := t.bound k ⟨id, mem⟩
  have isDown_old {k : Nat} (bound : k < p.connections.length) : p'.isDown k = p.isDown k := by
    simp [isDown, reg.at_old bound]
  refine { real := ?real, bound := ?bound, single := ?single, up := ?up, down := ?down }
  case real =>
    intro d mem
    rw [reg.connections] at mem
    rcases List.mem_append.mp mem with mem | mem
    · exact t.real d mem
    · exact List.mem_singleton.mp mem ▸ real
  case bound =>
    rintro k ⟨id, mem⟩
    rw [reg.length]
    rcases reg.listed_cases mem with mem | ⟨-, rfl⟩
    · exact Nat.lt_succ_of_lt (below mem)
    · exact Nat.lt_succ_self _
  case single =>
    intro id id' k mem mem'
    rcases reg.listed_cases mem with mem | ⟨rfl, rfl⟩ <;>
      rcases reg.listed_cases mem' with mem' | ⟨rfl, same⟩
    · exact t.single mem mem'
    · exact absurd (same ▸ below mem) (Nat.lt_irrefl _)
    · exact absurd (below mem') (Nat.lt_irrefl _)
    · rfl
  case up =>
    rintro k ⟨id, mem⟩
    rcases reg.listed_cases mem with mem | ⟨-, rfl⟩
    · exact (isDown_old (below mem)).trans (t.up k ⟨id, mem⟩)
    · exact (isDown_at reg.at_new).trans up
  case down =>
    intro k bound
    rw [reg.length] at bound
    rcases Nat.lt_succ_iff_lt_or_eq.mp bound with bound | rfl
    · rcases t.down k bound with ⟨id, mem⟩ | down
      · exact .inl ⟨id, reg.registry ▸ List.mem_append_left _ mem⟩
      · exact .inr ((isDown_old bound).trans down)
    · exact .inl ⟨s.stationId, reg.registry ▸ List.mem_append_right _ (List.mem_singleton_self _)⟩

/-- The call made next has not returned. -/
theorem House.not_returned_fresh (h : House p left) (result : Except PoolError Unit) :
    .returned p.fresh result ∉ p.history :=
  fun mem => Nat.lt_irrefl _ (h.numbered _ mem)

/-- A call that does not wait stays so through an errand. -/
theorem Vacant.errand (free : Vacant p left n) (e : Errand p p') : Vacant p' left n where
  made := e.fresh ▸ free.made
  absent := e.waiting ▸ free.absent
  going result mem := free.going result (e.returned_iff.mp mem)

namespace House

/-- The pool drifts, and calls that wait may be about to go on. -/
theorem drifts (h : House p left) (d : Drifts p p')
    (same : left' ++ p'.waiting = left ++ p.waiting)
    (unanswered : ∀ n link id, (n, .connecting link id) ∈ p'.waiting → p'.outcomeOf link = none) :
    House p' left' where
  toTended := d.tended h.toTended
  numbered x mem := by
    rw [d.fresh]
    rcases d.old x mem with old | ⟨n, k, made, rfl⟩
    · exact h.numbered x old
    · exact made
  once := same ▸ h.once
  going x mem := by
    obtain ⟨made, going⟩ := h.going x (same ▸ mem)
    exact ⟨d.fresh ▸ made, fun result mem' => going result (d.returned_iff.mp mem')⟩
  asked n link id mem := d.asked h.toTended (h.asked n link id (same ▸ mem))
  unanswered := unanswered
  flag down := (h.flag (d.shutDown ▸ down)).imp fun _ => d.kept _

/-- An errand keeps the house: calls stay told apart, and those that wait for a connect wait for one
that has not ended. -/
theorem errand (h : House p left) (e : Errand p p') : House p' left := by
  refine h.drifts e.toDrifts (by rw [e.waiting]) fun n link id mem => ?_
  rw [e.waiting] at mem
  rw [e.outcomes link (h.asked n link id (List.mem_append_right left mem))]
  exact h.unanswered n link id mem

/-- A call that is about to go on. -/
theorem pop (h : House p ((n, w) :: left)) : House p left ∧ Vacant p left n := by
  obtain ⟨absent, once⟩ := List.nodup_cons.mp h.once
  obtain ⟨made, going⟩ := h.going _ List.mem_cons_self
  refine ⟨{ h with
    once
    going := fun y mem => h.going y (List.mem_cons_of_mem _ mem)
    asked := fun m link id mem => h.asked m link id (List.mem_cons_of_mem _ mem) },
    made, fun y mem same => absent ?_, going⟩
  exact List.mem_map.mpr ⟨y, mem, same⟩

/-- A call is about to go on. -/
theorem push (h : House p left) (free : Vacant p left n)
    (asked : ∀ link id, w = .connecting link id → p.Asked link) : House p ((n, w) :: left) where
  toTended := h.toTended
  numbered := h.numbered
  once := by
    refine List.nodup_cons.mpr ⟨fun mem => ?_, h.once⟩
    obtain ⟨x, there, same⟩ := List.mem_map.mp mem
    exact free.absent x there same
  going x mem := by
    rcases List.mem_cons.mp mem with rfl | mem
    · exact ⟨free.made, free.going⟩
    · exact h.going x mem
  asked m link id mem := by
    rcases List.mem_cons.mp mem with same | mem
    · cases same
      exact asked link id rfl
    · exact h.asked m link id mem
  unanswered := h.unanswered
  flag := h.flag

/-- A call waits. -/
theorem wait (h : House p left) (free : Vacant p left n)
    (expects : ∀ link id, w = .connecting link id → p.Asked link ∧ p.outcomeOf link = none) :
    House (p.wait n w) left := by
  have pushed := h.push free fun link id is => (expects link id is).1
  have perm : (left ++ (p.waiting ++ [(n, w)])).Perm ((n, w) :: (left ++ p.waiting)) := by
    rw [← List.append_assoc]
    exact List.perm_append_singleton _ _
  refine { h with
    once := (perm.map (·.1)).nodup_iff.mpr pushed.once
    going := fun x mem => pushed.going x (perm.subset mem)
    asked := fun m link id mem => pushed.asked m link id (perm.subset mem)
    unanswered := fun m link id mem => ?_ }
  rcases List.mem_append.mp mem with mem | mem
  · exact h.unanswered m link id mem
  · cases List.mem_singleton.mp mem
    exact (expects link id rfl).2

/-- A call ends. -/
theorem finish (h : House p left) (free : Vacant p left n) (result : Except PoolError Unit) :
    House (p.finish n result) left :=
  { h with
    numbered := List.forall_mem_cons.mpr ⟨free.made, h.numbered⟩
    going := fun x mem => by
      refine ⟨(h.going x mem).1, fun result' mem' => ?_⟩
      rcases List.mem_cons.mp mem' with same | mem'
      · cases same
        exact free.absent x mem rfl
      · exact (h.going x mem).2 result' mem'
    flag := fun down => (h.flag down).imp fun _ => List.mem_cons_of_mem _ }

/-- To serve a call that does not wait keeps the house. -/
theorem serves (h : House p left) (free : Vacant p left n) (serves : Serves n p p') :
    House p' left := by
  obtain ⟨mid, errand, rests⟩ := serves
  have h' := h.errand errand
  have free' := free.errand errand
  cases rests with
  | ends result => exact h'.finish free' result
  | waits w expects => exact h'.wait free' expects

/-- A call that goes on is served, whatever it waited for. -/
theorem serves_goOn (h : House p ((n, w) :: left)) : Serves n p (p.goOn n w) :=
  Pool.serves_goOn h.toTended (h.going _ List.mem_cons_self).1 fun link id is =>
    h.asked n link id (is ▸ List.mem_cons_self)

/-- A call that goes on leaves the house to those left. -/
theorem goOn (h : House p ((n, w) :: left)) : House (p.goOn n w) left :=
  h.pop.1.serves h.pop.2 h.serves_goOn

/-- When all that can have gone on, the house has none left. -/
theorem goOnEach (h : House p left) :
    House (left.foldl (fun p (n, w) => p.goOn n w) p) [] := by
  induction left generalizing p with
  | nil => exact h
  | cons x left ih => exact ih h.goOn

/-- All the calls that go on move the pool onward. -/
theorem onward_goOnEach (h : House p left) :
    Onward p (left.foldl (fun p (n, w) => p.goOn n w) p) := by
  induction left generalizing p with
  | nil => exact .refl p
  | cons x left ih => exact h.serves_goOn.onward.trans (ih h.goOn)

/-- A connection takes a step of its own. -/
theorem drifts_link (h : House p left) {a : Connection.Action} {c c' : Connection}
    (at_ : p.connections[k]? = some c) (look : a.request? = none) (stepped : c.step a = some c') :
    Drifts p { p with connections := p.connections.set k c', waiting := [] } := by
  have bound := (List.getElem?_eq_some_iff.mp at_).1
  refine .of_connections List.length_set (fun j d there => ?_) p.now []
  by_cases own : k = j
  · subst own
    cases at_.symm.trans there
    obtain ⟨settings, reachable⟩ := h.at_real at_
    refine ⟨[a], c', List.getElem?_set_self bound, ?_, ?_⟩
    · rw [Connection.after_cons, stepped, Option.bind_some]
      rfl
    · exact reachable.sound.cancelled_step stepped fun same => by cases same; cases look
  · exact ⟨[], d, (List.getElem?_set_ne own).trans there, rfl, rfl⟩

/-- A connection takes a step of its own, and all calls that wait are about to go on. -/
theorem link (h : House p []) {a : Connection.Action} {c c' : Connection}
    (at_ : p.connections[k]? = some c) (look : a.request? = none) (stepped : c.step a = some c') :
    House { p with connections := p.connections.set k c', waiting := [] } p.waiting :=
  h.drifts (h.drifts_link at_ look stepped) (List.append_nil _) nofun

/-- The clock moves on. -/
theorem errand_advance (p : Pool) (nanos : Nat) : Errand p { p with
    now := p.now + nanos
    connections := p.connections.map fun c => { c with now := c.now + nanos } } where
  toDrifts := by
    refine .of_connections (List.length_map _) (fun k c at_ => ?_) _ _
    refine ⟨[.advance nanos], { c with now := c.now + nanos }, ?_, rfl, rfl⟩
    rw [List.getElem?_map, at_, Option.map_some]
  waiting := rfl
  outcomes link asked := by
    obtain ⟨c, at_, -⟩ := asked
    simp only [outcomeOf, List.getElem?_map, at_, Option.map_some, Option.bind_some]
    rfl

/-! ### Beginnings -/

/-- A call is made. -/
theorem calling (h : House p []) (request : Request) :
    House (p.calling request) [] ∧ Vacant (p.calling request) [] p.fresh := by
  refine ⟨{ h with numbered := ?numbered, going := ?going, flag := ?flag },
    Nat.lt_succ_self _, ?absent, ?vacant⟩
  case numbered =>
    exact List.forall_mem_cons.mpr
      ⟨Nat.lt_succ_self _, fun x mem => Nat.lt_succ_of_lt (h.numbered x mem)⟩
  case going =>
    intro x mem
    obtain ⟨made, going⟩ := h.going x mem
    exact ⟨Nat.lt_succ_of_lt made, fun result => by simp [going result]⟩
  case flag =>
    exact fun down => (h.flag down).imp fun _ => List.mem_cons_of_mem _
  case absent =>
    exact fun x mem => Nat.ne_of_lt (h.going x mem).1
  case vacant =>
    exact fun result => by simp [h.not_returned_fresh result]

/-- A call registers a connection, and asks it to connect. -/
theorem registered (h : House p []) (free : Vacant p [] n) {s : StationSettings}
    (reg : Registers n s (p.newcomer s).connect p p') :
    House p' [] ∧ Vacant p' [] n ∧ p'.Asked (p.connections.length, (p.newcomer s).fresh) := by
  have newcomer := p.newcomer_reachable s
  have up : (p.newcomer s).connect.cancelled = false :=
    newcomer.sound.cancelled_step (a := .connect) rfl (by simp)
  have asked : ((p.newcomer s).fresh, .connect) ∈ requests (p.newcomer s).connect.history := by
    rw [(Connection.move_of_step newcomer.sound (a := .connect) rfl).requests newcomer.sound]
    exact List.mem_cons_self
  have returned_old {m : Nat} {result : Except PoolError Unit}
      (mem : .returned m result ∈ p'.history) : .returned m result ∈ p.history :=
    reg.old mem (by simp)
  refine ⟨{
    toTended := h.toTended.registered reg ⟨_, newcomer.step (a := .connect) rfl⟩ up
    numbered := ?numbered, once := reg.waiting ▸ h.once, going := ?going, asked := ?asked
    unanswered := ?unanswered, flag := ?flag }, ⟨reg.fresh ▸ free.made, ?absent, ?vacant⟩,
    ⟨_, reg.at_new, asked⟩⟩
  case numbered =>
    rw [reg.history, reg.fresh]
    exact List.forall_mem_cons.mpr ⟨free.made, h.numbered⟩
  case going =>
    rw [reg.waiting, reg.fresh]
    intro x mem
    exact (h.going x mem).imp_right fun going result mem' => going result (returned_old mem')
  case asked =>
    rw [reg.waiting]
    intro m link id mem
    obtain ⟨c, at_, asked⟩ := h.asked m link id mem
    exact ⟨c, (reg.at_old (List.getElem?_eq_some_iff.mp at_).1).trans at_, asked⟩
  case unanswered =>
    rw [reg.waiting]
    intro m link id mem
    obtain ⟨c, at_, -⟩ := h.asked m link id mem
    rw [outcomeOf, reg.at_old (List.getElem?_eq_some_iff.mp at_).1]
    exact h.unanswered m link id mem
  case flag =>
    intro down
    rw [reg.history]
    exact (h.flag (reg.shutDown ▸ down)).imp fun _ => List.mem_cons_of_mem _
  case absent =>
    rw [reg.waiting]
    exact free.absent
  case vacant =>
    exact fun result mem => free.going result (returned_old mem)

/-- A call does something for what it was asked, then rests. Only a pool that was not shut down
takes a station or is shut down. -/
theorem serves_begin (h : House p []) (request : Request)
    (plain : p.shutDown = true ∨ request ≠ .shutDown ∧ ∀ s, request ≠ .add s) :
    Serves p.fresh (p.calling request) (p.begin request) := by
  obtain ⟨h', free⟩ := h.calling request
  have t := h'.toTended
  cases request with
  | add s =>
    have down : p.shutDown = true := plain.resolve_right fun other => other.2 s rfl
    have refused : p.begin (.add s) =
        (p.calling (.add s)).finish p.fresh (.error (.connection .closed)) := if_pos down
    rw [refused]
    exact Rests.serves (.ends _)
  | remove id => exact serves_remove t free.made id
  | send id payload => exact serves_send t id payload
  | broadcast payload => exact serves_broadcastTo t payload 0 _ _
  | disconnectAll => exact serves_disconnectAll t free.made
  | shutDown =>
    have down : p.shutDown = true := plain.resolve_right fun other => other.1 rfl
    have again : p.begin .shutDown = (p.calling .shutDown).finish p.fresh (.ok ()) := if_pos down
    rw [again]
    exact Rests.serves (.ends _)
  | reconnect id => exact serves_reconnect t id

/-- The first shutdown is called. -/
theorem shutting (h : House p []) : House p.shutting [] ∧ Vacant p.shutting [] p.fresh := by
  obtain ⟨h', free⟩ := h.calling .shutDown
  exact ⟨{ h' with flag := fun _ => ⟨p.fresh, List.mem_cons_self⟩ }, { free with }⟩

/-- A call that begins keeps the house. -/
theorem begin (h : House p []) (request : Request) : House (p.begin request) [] := by
  obtain ⟨h', free⟩ := h.calling request
  -- Apart stand a new station, which is registered, and the first shutdown, which sets the flag.
  by_cases plain : p.shutDown = true ∨ request ≠ .shutDown ∧ ∀ s, request ≠ .add s
  · exact h'.serves free (h.serves_begin request plain)
  obtain ⟨up, special⟩ := not_or.mp plain
  cases request with
  | add s =>
    show House ((p.calling (.add s)).add p.fresh s) []
    rcases (p.calling (.add s)).add_cases p.fresh s with ⟨e, refused⟩ | ⟨p', reg, added⟩
    · rw [refused]
      exact h'.finish free _
    · obtain ⟨h'', free', asked⟩ := h'.registered free reg
      rw [added]
      exact h''.serves free' (serves_goOnConnecting h''.toTended free'.made asked)
  | shutDown =>
    have first : p.begin .shutDown = p.shutting.disconnectAll p.fresh := if_neg up
    obtain ⟨h'', free'⟩ := h.shutting
    rw [first]
    exact h''.serves free' (serves_disconnectAll h''.toTended free'.made)
  | _ => simp at special

/-! ### Steps -/

/-- Every step keeps the house. Behind a step of a connection or of the clock all calls that can go
on do so. -/
theorem step (h : House p []) {a : Action} (stepped : p.step a = some p') : House p' [] := by
  cases a with
  | call request =>
    rw [Pool.step, Option.some.injEq] at stepped
    exact stepped ▸ h.begin request
  | link k a =>
    obtain ⟨c, c', at_, look, there, rfl⟩ := linkStep_some stepped
    exact (h.link at_ look there).goOnEach
  | advance nanos =>
    cases stepped
    exact h.errand (errand_advance p nanos)

end House

/-- A run from a reachable pool leads to one. -/
theorem Reachable.after {base : String} {defaults : ConnectionSettings} {as : List Action}
    (reachable : Reachable base defaults p) (run : p.after as = some p') :
    Reachable base defaults p' :=
  after_induction (P := Reachable base defaults)
    (fun {_ a _} (_ : True) before stepped => .step a before stepped) (fun _ _ => trivial)
    reachable run

/-- In every reachable state the house is in order, and no call is about to go on. -/
theorem Reachable.house {base : String} {defaults : ConnectionSettings}
    (reachable : Reachable base defaults p) : House p [] := by
  induction reachable with
  | new =>
    exact {
      real := fun _ mem => nomatch mem
      bound := fun _ ⟨_, mem⟩ => nomatch mem
      single := fun mem => nomatch mem
      up := fun _ ⟨_, mem⟩ => nomatch mem
      down := fun _ there => nomatch there
      numbered := fun _ mem => nomatch mem
      once := .nil
      going := fun _ mem => nomatch mem
      asked := fun _ _ _ mem => nomatch mem
      unanswered := fun _ _ _ mem => nomatch mem
      flag := nofun }
  | step a _ stepped ih => exact ih.step stepped

end StationPool.Pool
