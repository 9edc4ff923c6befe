import StationPool.Proofs.Connection.Sinking
import StationPool.Proofs.Pool.Roster

/-!
# What a call does before it rests

A call to a pool makes calls to connections and takes connections out (`Errand`), then it waits or
ends (`Rests`). This holds of every call when it is made, but for the registering of a new station,
and whenever it goes on (`serves_goOn`). Steps of connections and the clock let the pool drift in
the same way (`Drifts`): who is registered is never going down, and who is not always is (`Tended`).
-/

namespace StationPool.Pool

open Connection (requests)

variable {p p' p'' : Pool} {left : List (Nat × Waiting)} {n k : Nat} {id : String}
  {link : LinkCall} {a : Connection.Action} {f : Connection → Connection}

/-! ## Drifting -/

/-- A connection was asked to connect by a call. -/
def Asked (p : Pool) (link : LinkCall) : Prop :=
  ∃ c, p.connections[link.1]? = some c ∧ (link.2, .connect) ∈ requests c.history

/-- Who is registered is not going down, and who is not registered is. -/
structure Tended (p : Pool) : Prop where
  real : ∀ c ∈ p.connections, ∃ settings, Connection.Reachable settings c
  bound : ∀ k, p.Listed k → k < p.connections.length
  single : ∀ {id id' k}, (id, k) ∈ p.registry.entries → (id', k) ∈ p.registry.entries → id = id'
  up : ∀ k, p.Listed k → p.isDown k = false
  down : ∀ k < p.connections.length, p.Listed k ∨ p.isDown k = true

/-- Connections take steps and leave the registry. -/
structure Onward (p p' : Pool) : Prop where
  shutDown : p'.shutDown = p.shutDown
  listed : ∀ e ∈ p'.registry.entries, e ∈ p.registry.entries
  length : p'.connections.length = p.connections.length
  each : ∀ (k : Nat) (c : Connection), p.connections[k]? = some c →
    ∃ as c', p'.connections[k]? = some c' ∧ c.after as = some c'

/-- Connections take steps; those that leave the registry go down, and no others. -/
structure Drifts (p p' : Pool) : Prop extends Onward p p' where
  fresh : p'.fresh = p.fresh
  kept : ∀ h ∈ p.history, h ∈ p'.history
  old : ∀ h ∈ p'.history, h ∈ p.history ∨ ∃ n k, n < p.fresh ∧ h = .tookOut n k
  spared : ∀ k, p'.Listed k → p'.isDown k = p.isDown k
  out : ∀ k, p.Listed k → p'.Listed k ∨ p'.isDown k = true

/-- The pool drifts by calls to connections: nobody else is answered. -/
structure Errand (p p' : Pool) : Prop extends Drifts p p' where
  waiting : p'.waiting = p.waiting
  outcomes : ∀ link, p.Asked link → p'.outcomeOf link = p.outcomeOf link

/-- A connection of the pool is a reachable one. -/
theorem Tended.at_real (t : Tended p) {c : Connection} (at_ : p.connections[k]? = some c) :
    ∃ settings, Connection.Reachable settings c :=
  t.real c (List.mem_of_getElem? at_)

/-- A connection of the pool is sound. -/
theorem Tended.sound (t : Tended p) : ∀ c ∈ p.connections, c.Sound := fun c mem =>
  let ⟨_, reachable⟩ := t.real c mem
  reachable.sound

namespace Onward

/-- Nothing done is a step onward. -/
theorem refl (p : Pool) : Onward p p := ⟨rfl, fun _ => id, rfl, fun _ c at_ => ⟨[], c, at_, rfl⟩⟩

/-- Two steps onward are one. -/
theorem trans (first : Onward p p') (second : Onward p' p'') : Onward p p'' where
  shutDown := second.shutDown.trans first.shutDown
  listed e mem := first.listed e (second.listed e mem)
  length := second.length.trans first.length
  each k c at_ := by
    obtain ⟨as, c', at', run⟩ := first.each k c at_
    obtain ⟨bs, c'', at'', run'⟩ := second.each k c' at'
    refine ⟨as ++ bs, c'', at'', ?_⟩
    rw [Connection.after_append, run, Option.bind_some, run']

/-- Every connection was there before. -/
theorem back (onward : Onward p p') {c' : Connection} (at' : p'.connections[k]? = some c') :
    ∃ c as, p.connections[k]? = some c ∧ c.after as = some c' := by
  have bound := (List.getElem?_eq_some_iff.mp at').1
  rw [onward.length] at bound
  obtain ⟨as, c'', at'', run⟩ := onward.each k _ (List.getElem?_eq_getElem bound)
  cases at'.symm.trans at''
  exact ⟨_, as, List.getElem?_eq_getElem bound, run⟩

/-- A connection is listed only if it was before. -/
theorem unlisted (onward : Onward p p') (listed : p'.Listed k) : p.Listed k :=
  listed.imp fun _ => onward.listed _

/-- Nobody comes up again. -/
theorem isDown (onward : Onward p p') (t : Tended p) (down : p.isDown k = true) :
    p'.isDown k = true := by
  obtain ⟨c, at_, gone⟩ := at_of_isDown down
  obtain ⟨settings, reachable⟩ := t.at_real at_
  obtain ⟨as, c', at', run⟩ := onward.each k c at_
  exact (isDown_at at').trans ((Connection.Sunk.refl reachable.sound gone).after run).cancelled

/-- A connection that is closed stays closed while the pool goes onward. -/
theorem closed (onward : Onward p p') (t : Tended p) (closed : p.state k = .closed) :
    p'.state k = .closed := by
  obtain ⟨c, at_, closed⟩ := at_of_closed closed
  obtain ⟨settings, reachable⟩ := t.at_real at_
  obtain ⟨as, c', at', run⟩ := onward.each k c at_
  exact (state_at at').trans (Connection.closed_after closed reachable.sound run)

/-- What was asked stays asked. -/
theorem asked (onward : Onward p p') (t : Tended p) (asked : p.Asked link) : p'.Asked link := by
  obtain ⟨c, at_, mem⟩ := asked
  obtain ⟨settings, reachable⟩ := t.at_real at_
  obtain ⟨as, c', at', run⟩ := onward.each _ c at_
  obtain ⟨later, grown⟩ := reachable.sound.grown_after run
  refine ⟨c', at', ?_⟩
  rw [grown, requests, List.filterMap_append]
  exact List.mem_append_right _ mem

/-- The connections after a step onward are reachable ones. -/
theorem real (onward : Onward p p') (t : Tended p) {c' : Connection} (mem : c' ∈ p'.connections) :
    ∃ settings, Connection.Reachable settings c' := by
  obtain ⟨k, at'⟩ := List.mem_iff_getElem?.mp mem
  obtain ⟨c, as, at_, run⟩ := onward.back at'
  obtain ⟨settings, reachable⟩ := t.at_real at_
  exact ⟨settings, reachable.after run⟩

end Onward

namespace Drifts

/-- No call ends. -/
theorem returned_iff (d : Drifts p p') {result : Except PoolError Unit} :
    .returned n result ∈ p'.history ↔ .returned n result ∈ p.history := by
  refine ⟨fun mem => (d.old _ mem).resolve_right ?_, d.kept _⟩
  rintro ⟨_, _, -, is⟩
  cases is

/-- No call is made. -/
theorem called_iff (d : Drifts p p') {request : Request} :
    .called n request ∈ p'.history ↔ .called n request ∈ p.history := by
  refine ⟨fun mem => (d.old _ mem).resolve_right ?_, d.kept _⟩
  rintro ⟨_, _, -, is⟩
  cases is

/-- A drift keeps the pool tended: who left the registry is going down, and nobody else. -/
theorem tended (d : Drifts p p') (t : Tended p) : Tended p' where
  real _ mem := d.real t mem
  bound k listed := d.length ▸ t.bound k (d.unlisted listed)
  single mem mem' := t.single (d.listed _ mem) (d.listed _ mem')
  up k listed := (d.spared k listed).trans (t.up k (d.unlisted listed))
  down k bound := by
    rcases t.down k (d.length ▸ bound) with listed | down
    · exact d.out k listed
    · exact .inr (d.isDown t down)

/-- Two drifts are one. -/
theorem trans (t : Tended p) (first : Drifts p p') (second : Drifts p' p'') : Drifts p p'' where
  toOnward := first.toOnward.trans second.toOnward
  fresh := second.fresh.trans first.fresh
  kept h mem := second.kept h (first.kept h mem)
  old h mem := by
    rcases second.old h mem with mem | ⟨n, k, made, rfl⟩
    · exact first.old h mem
    · exact .inr ⟨n, k, first.fresh ▸ made, rfl⟩
  spared k listed := (second.spared k listed).trans (first.spared k (second.unlisted listed))
  out k listed := by
    rcases first.out k listed with listed | down
    · exact second.out k listed
    · exact .inr (second.isDown (first.tended t) down)

/-- Connections take steps, none of which is a disconnect. -/
theorem of_connections {connections : List Connection}
    (length : connections.length = p.connections.length)
    (each : ∀ (k : Nat) (c : Connection), p.connections[k]? = some c →
      ∃ as c', connections[k]? = some c' ∧ c.after as = some c' ∧ c'.cancelled = c.cancelled)
    (now : Nat) (waiting : List (Nat × Waiting)) :
    Drifts p { p with connections, now, waiting } where
  shutDown := rfl
  listed _ := id
  length := length
  each k c at_ := by
    obtain ⟨as, c', at', run, -⟩ := each k c at_
    exact ⟨as, c', at', run⟩
  fresh := rfl
  kept _ := id
  old _ := .inl
  spared k _ := by
    cases at_ : p.connections[k]? with
    | none =>
      have beyond : connections[k]? = none :=
        List.getElem?_eq_none (length ▸ List.getElem?_eq_none_iff.mp at_)
      simp [Pool.isDown, at_, beyond]
    | some c =>
      obtain ⟨as, c', at', -, same⟩ := each k c at_
      simp [Pool.isDown, at_, at', same]
  out _ := .inl

end Drifts

namespace Errand

/-- Nothing done is an errand. -/
theorem refl (p : Pool) : Errand p p where
  toOnward := .refl p
  fresh := rfl
  kept _ := id
  old _ := .inl
  spared _ _ := rfl
  out _ := .inl
  waiting := rfl
  outcomes _ _ := rfl

/-- Two errands are one. The answer to a connect that was asked for is left alone by both. -/
theorem trans (t : Tended p) (first : Errand p p') (second : Errand p' p'') : Errand p p'' where
  toDrifts := first.toDrifts.trans t second.toDrifts
  waiting := second.waiting.trans first.waiting
  outcomes link asked :=
    (second.outcomes link (first.asked t asked)).trans (first.outcomes link asked)

/-- The pool drifts by calls that are made to connections. -/
theorem of_calls (t : Tended p) (drifts : Drifts p p') (waiting : p'.waiting = p.waiting)
    (calls : ∀ (k : Nat) (c : Connection), p.connections[k]? = some c →
      ∃ as c', p'.connections[k]? = some c' ∧ c.after as = some c' ∧
        ∀ b ∈ as, b.request?.isSome = true) : Errand p p' where
  toDrifts := drifts
  waiting := waiting
  outcomes link asked := by
    obtain ⟨c, at_, mem⟩ := asked
    obtain ⟨settings, reachable⟩ := t.at_real at_
    obtain ⟨as, c', at', run, made⟩ := calls _ c at_
    rw [outcomeOf, outcomeOf, at_, at', Option.bind_some, Option.bind_some]
    exact reachable.sound.outcome?_of_calls made run mem

end Errand

/-! ## Calls to connections -/

/-- One call to one connection that does not disconnect it. -/
theorem errand_onLink (t : Tended p) (acts : ∀ c : Connection, c.step a = some (f c))
    (made : a.request?.isSome = true) (other : a ≠ .disconnect) (k : Nat) :
    Errand p (p.onLink k f).2 := by
  cases at_ : p.connections[k]? with
  | none =>
    have same : (p.onLink k f).2 = p := by simp [onLink, at_]
    rw [same]
    exact .refl p
  | some d =>
    have eq : (p.onLink k f).2 = { p with connections := p.connections.set k (f d) } := by
      simp [onLink, at_]
    have each (j : Nat) (c : Connection) (there : p.connections[j]? = some c) :
        ∃ as c', (p.connections.set k (f d))[j]? = some c' ∧ c.after as = some c' ∧
          c'.cancelled = c.cancelled ∧ ∀ b ∈ as, b.request?.isSome = true := by
      by_cases own : k = j
      · subst own
        cases at_.symm.trans there
        obtain ⟨settings, reachable⟩ := t.at_real at_
        refine ⟨[a], f d, List.getElem?_set_self (List.getElem?_eq_some_iff.mp at_).1, ?_,
          reachable.sound.cancelled_step (acts d) other, fun b mem => ?_⟩
        · rw [Connection.after_cons, acts, Option.bind_some]
          rfl
        · exact List.mem_singleton.mp mem ▸ made
      · refine ⟨[], c, (List.getElem?_set_ne own).trans there, rfl, rfl, fun b mem => ?_⟩
        cases mem
    rw [eq]
    refine .of_calls t (.of_connections List.length_set (fun j c there => ?_) p.now p.waiting) rfl
      fun j c there => ?_
    · obtain ⟨as, c', at', run, same, -⟩ := each j c there
      exact ⟨as, c', at', run, same⟩
    · obtain ⟨as, c', at', run, -, calls⟩ := each j c there
      exact ⟨as, c', at', run, calls⟩

/-- What becomes of each connection when a call takes some out. -/
theorem takeDown_each (p : Pool) (n : Nat) (taken : List Nat) (registry : Registry Nat)
    (tells : Bool) (k : Nat) (c : Connection) (at_ : p.connections[k]? = some c) :
    ∃ as c', (p.takeDown n taken registry tells).2.connections[k]? = some c' ∧
      c.after as = some c' ∧ (∀ b ∈ as, b = .disconnect) ∧
      (k ∈ taken → (k, c.fresh) ∈ (p.takeDown n taken registry tells).1.awaiting ∧
        ∃ rest, as = .disconnect :: rest) := by
  simp only [takeDown, foldl_tookOut, Takedown.of]
  obtain ⟨as, c', at', run, same, -, among⟩ :=
    (onLinks_each (a := .disconnect) (fun _ => rfl) taken
      { p with registry, history := taken.reverse.map (.tookOut n) ++ p.history }).2 k c at_
  exact ⟨as, c', at', run, same, among⟩

/-- A call takes connections out. -/
theorem errand_takeDown (t : Tended p) (made : n < p.fresh) {taken : List Nat}
    {registry : Registry Nat} (splits : p.Splits taken registry) (tells : Bool) :
    Errand p (p.takeDown n taken registry tells).2 := by
  have down := takesDown n t.sound taken registry tells
  have each := p.takeDown_each n taken registry tells
  obtain ⟨connections, eq⟩ := p.takeDown_eq n taken registry tells
  generalize p.takeDown n taken registry tells = pair at down each eq
  obtain ⟨takedown, p'⟩ := pair
  have isDown (k : Nat) (bound : k < p.connections.length) :
      p'.isDown k = true ↔ p.isDown k = true ∨ k ∈ taken := by
    have at_ := List.getElem?_eq_getElem bound
    obtain ⟨c', at', -, cancelled⟩ := down.each k _ at_
    rw [isDown_at at_, isDown_at at', cancelled]
  have unlisted {k : Nat} (listed : p'.Listed k) : p.Listed k ∧ k ∉ taken := by
    rw [Listed, down.registry] at listed
    exact ⟨listed.imp fun _ => splits.listed _, fun out => ((splits.taken k).mp out).2 listed⟩
  refine .of_calls t {
    shutDown := (congrArg Pool.shutDown eq).trans rfl
    listed := down.registry ▸ splits.listed
    length := down.length
    each := fun k c at_ => ?each
    fresh := down.fresh
    kept := fun h mem => down.history ▸ List.mem_append_right _ mem
    old := fun h mem => ?old
    spared := fun k listed => ?spared
    out := fun k listed => ?out } down.waiting fun k c at_ => ?calls
  case each =>
    obtain ⟨as, c', at', run, -⟩ := each k c at_
    exact ⟨as, c', at', run⟩
  case old =>
    rw [down.history] at mem
    rcases List.mem_append.mp mem with new | old
    · obtain ⟨k, -, rfl⟩ := List.mem_map.mp new
      exact .inr ⟨n, k, made, rfl⟩
    · exact .inl old
  case spared =>
    obtain ⟨listed, spared⟩ := unlisted listed
    rw [Bool.eq_iff_iff, isDown k (t.bound k listed)]
    exact or_iff_left spared
  case out =>
    by_cases out : k ∈ taken
    · exact .inr ((isDown k (t.bound k listed)).mpr (.inr out))
    · refine .inl ?_
      rw [Listed, down.registry]
      by_contra gone
      exact out ((splits.taken k).mpr ⟨listed, gone⟩)
  case calls =>
    obtain ⟨as, c', at', run, same, -⟩ := each k c at_
    exact ⟨as, c', at', run, fun b mem => same b mem ▸ rfl⟩

/-- A call takes the connection of one id out. -/
theorem errand_takeOut (t : Tended p) (made : n < p.fresh) (mem : (id, k) ∈ p.registry.entries) :
    Errand p (p.takeDown n [k] (p.registry.erase id) false).2 :=
  errand_takeDown t made (splits_erase mem fun _ mem' => t.single mem' mem) false

/-! ## Resting -/

/-- A call waits, for nothing that has ended if for a connect, or it ends. -/
inductive Rests (n : Nat) (p : Pool) : Pool → Prop where
  | ends (result : Except PoolError Unit) : Rests n p (p.finish n result)
  | waits (w : Waiting)
      (expects : ∀ link id, w = .connecting link id → p.Asked link ∧ p.outcomeOf link = none) :
      Rests n p (p.wait n w)

/-- A call does something, then rests. -/
def Serves (n : Nat) (p p' : Pool) : Prop := ∃ mid, Errand p mid ∧ Rests n mid p'

/-- A call that only rests is served by an errand that does nothing. -/
theorem Rests.serves (rests : Rests n p p') : Serves n p p' := ⟨p, .refl p, rests⟩

/-- What is served after an errand is served by the two together. -/
theorem Serves.after (t : Tended p) (errand : Errand p p') (serves : Serves n p' p'') :
    Serves n p p'' := by
  obtain ⟨mid, errand', rests⟩ := serves
  exact ⟨mid, errand.trans t errand', rests⟩

/-- A call that takes connections down rests: it waits for the next, or ends. -/
theorem rests_goOnTakingDown (t : Takedown LinkCall) : Rests n p (p.goOnTakingDown n t) := by
  unfold goOnTakingDown
  split
  · exact .ends _
  · exact .waits _ nofun

/-- A call that withdraws what it registered rests likewise, and ends with the error of its dial. -/
theorem rests_goOnWithdrawing (t : Takedown LinkCall) (e : ConnectionError) :
    Rests n p (p.goOnWithdrawing n t e) := by
  unfold goOnWithdrawing
  split
  · exact .ends _
  · exact .waits _ nofun

/-- A call that waits for one connection rests. -/
theorem rests_goOnOne : Rests n p (p.goOnOne n link) := by
  unfold goOnOne
  split
  · exact .waits _ nofun
  · exact .ends _

/-- To withdraw takes out and disconnects what is registered under the id, then rests. -/
theorem serves_withdraw (t : Tended p) (made : n < p.fresh) (e : ConnectionError) :
    Serves n p (p.withdraw n id e) := by
  unfold withdraw
  cases removed : p.registry.remove id with
  | error missing => exact Rests.serves (.ends _)
  | ok pair =>
    obtain ⟨j, registry⟩ := pair
    obtain ⟨mem, rfl⟩ := Registry.remove_ok removed
    exact ⟨_, errand_takeOut t made mem, rests_goOnWithdrawing _ e⟩

/-- A call that waits for a connect goes on when the connect has ended: it succeeds, or withdraws.
-/
theorem serves_goOnConnecting (t : Tended p) (made : n < p.fresh) (asked : p.Asked link) :
    Serves n p (p.goOnConnecting n link id) := by
  unfold goOnConnecting
  cases outcome : p.outcomeOf link with
  | none =>
    refine Rests.serves (.waits _ fun link' id' same => ?_)
    cases same
    exact ⟨asked, outcome⟩
  | some outcome' =>
    cases outcome' with
    | ok _ => exact Rests.serves (.ends _)
    | error e => exact serves_withdraw t made e

/-- A broadcast sends to the targets left, one after the other, and waits where a send waits. -/
theorem serves_broadcastTo (t : Tended p) (payload : Bytes) (failed attempted : Nat)
    (targets : List Nat) : Serves n p (p.broadcastTo n payload failed attempted targets) := by
  induction targets generalizing p failed with
  | nil => exact Rests.serves (.ends _)
  | cons k rest ih =>
    have errand : Errand p (p.onLink k (·.send (.data payload))).2 :=
      errand_onLink (a := .send (.data payload)) t (fun _ => rfl) rfl nofun k
    unfold broadcastTo
    dsimp only
    split
    · exact ⟨_, errand, .waits _ nofun⟩
    · exact .after t errand (ih (errand.tended t) _)

/-- Whatever a call waits for, to go on is to serve it. -/
theorem serves_goOn (t : Tended p) (made : n < p.fresh) {w : Waiting}
    (asked : ∀ link id, w = .connecting link id → p.Asked link) : Serves n p (p.goOn n w) := by
  cases w with
  | connecting link id => exact serves_goOnConnecting t made (asked link id rfl)
  | withdrawing t e => exact (rests_goOnWithdrawing t e).serves
  | takingDown t => exact (rests_goOnTakingDown t).serves
  | one link => exact rests_goOnOne.serves
  | broadcasting link rest payload failed attempted =>
    show Serves n p (p.goOnBroadcasting n link rest payload failed attempted)
    unfold goOnBroadcasting
    split
    · exact Rests.serves (.waits _ nofun)
    · exact serves_broadcastTo t payload _ attempted rest

/-! ### Beginnings -/

/-- A removal serves its caller. -/
theorem serves_remove (t : Tended p) (made : n < p.fresh) (id : String) :
    Serves n p (p.remove n id) := by
  unfold remove
  cases removed : p.registry.remove id with
  | error e => exact Rests.serves (.ends _)
  | ok pair =>
    obtain ⟨k, registry⟩ := pair
    obtain ⟨mem, rfl⟩ := Registry.remove_ok removed
    exact ⟨_, errand_takeOut t made mem, rests_goOnTakingDown _⟩

/-- A disconnect of all serves its caller. -/
theorem serves_disconnectAll (t : Tended p) (made : n < p.fresh) :
    Serves n p (p.disconnectAll n) :=
  ⟨_, errand_takeDown t made splits_drain true, rests_goOnTakingDown _⟩

/-- A send to one station serves its caller. -/
theorem serves_send (t : Tended p) (id : String) (payload : Bytes) :
    Serves n p (p.send n id payload) := by
  unfold send
  split
  · exact Rests.serves (.ends _)
  · exact ⟨_, errand_onLink (a := .send (.data payload)) t (fun _ => rfl) rfl nofun _,
      rests_goOnOne⟩

/-- A reconnect serves its caller. -/
theorem serves_reconnect (t : Tended p) (id : String) : Serves n p (p.reconnect n id) := by
  unfold reconnect
  split
  · exact Rests.serves (.ends _)
  · exact ⟨_, errand_onLink (a := .connect) t (fun _ => rfl) rfl nofun _, rests_goOnOne⟩

/-! ### What is seen of it -/

namespace Serves

/-- To serve a call moves the pool onward. -/
theorem onward (serves : Serves n p p') : Onward p p' := by
  obtain ⟨mid, errand, rests⟩ := serves
  cases rests with
  | ends result => exact { errand with }
  | waits w expects => exact { errand with }

/-- Who waits goes on waiting while another call is served. -/
theorem waiting (serves : Serves n p p') {x : Nat × Waiting} (mem : x ∈ p.waiting) :
    x ∈ p'.waiting := by
  obtain ⟨mid, errand, rests⟩ := serves
  rw [← errand.waiting] at mem
  cases rests with
  | ends result => exact mem
  | waits w expects => exact List.mem_append_left _ mem

/-- Of other calls it is seen when they end. -/
theorem returned_iff (serves : Serves n p p') {m : Nat} (other : m ≠ n)
    {result : Except PoolError Unit} :
    .returned m result ∈ p'.history ↔ .returned m result ∈ p.history := by
  obtain ⟨mid, errand, rests⟩ := serves
  rw [← errand.returned_iff]
  cases rests with
  | ends result' =>
    refine ⟨fun mem => (List.mem_cons.mp mem).resolve_left fun same => ?_,
      List.mem_cons_of_mem _⟩
    cases same
    exact other rfl
  | waits w expects => exact Iff.rfl

/-- To serve a call makes no call. -/
theorem called_iff (serves : Serves n p p') {m : Nat} {request : Request} :
    .called m request ∈ p'.history ↔ .called m request ∈ p.history := by
  obtain ⟨mid, errand, rests⟩ := serves
  rw [← errand.called_iff]
  cases rests with
  | ends result =>
    exact ⟨fun mem => (List.mem_cons.mp mem).resolve_left nofun, List.mem_cons_of_mem _⟩
  | waits w expects => exact Iff.rfl

end Serves

end StationPool.Pool
