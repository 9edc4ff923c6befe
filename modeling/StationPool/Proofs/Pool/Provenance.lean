import StationPool.Proofs.Pool.House

/-!
# Where the connections of a pool come from

Nothing changes the base URL, the defaults or the clock of a pool (`lot_of_step`), so every
connection that is in it has begun with them, but for what a station sets for itself, and has come
where it is by steps of its own (`Reachable.connections`). What holds of every reachable connection
holds of those in every pool.
-/

namespace StationPool.Pool

variable {p p' : Pool} {n k : Nat} {base : String} {defaults : ConnectionSettings}
  {c : Connection}

/-! ## The lot of a pool -/

/-- What stations start from. -/
def lot (p : Pool) : String × ConnectionSettings × Horizon := (p.base, p.defaults, p.horizon)

/-- A call to a connection changes nothing in what stations start from. -/
@[simp] theorem lot_onLink (f : Connection → Connection) : (p.onLink k f).2.lot = p.lot := by
  unfold onLink
  split <;> rfl

/-- Nor does taking connections out of the registry. -/
@[simp] theorem lot_takeDown (taken : List Nat) (registry : Registry Nat) (tells : Bool) :
    (p.takeDown n taken registry tells).2.lot = p.lot := by
  obtain ⟨connections, eq⟩ := p.takeDown_eq n taken registry tells
  rw [eq]
  rfl

@[simp] theorem lot_goOnTakingDown (t : Takedown LinkCall) :
    (p.goOnTakingDown n t).lot = p.lot := by
  unfold goOnTakingDown
  split <;> rfl

@[simp] theorem lot_goOnWithdrawing (t : Takedown LinkCall) (e : ConnectionError) :
    (p.goOnWithdrawing n t e).lot = p.lot := by
  unfold goOnWithdrawing
  split <;> rfl

@[simp] theorem lot_withdraw (id : String) (e : ConnectionError) :
    (p.withdraw n id e).lot = p.lot := by
  unfold withdraw
  split
  · rfl
  · simp

@[simp] theorem lot_goOnConnecting (link : LinkCall) (id : String) :
    (p.goOnConnecting n link id).lot = p.lot := by
  unfold goOnConnecting
  split
  · rfl
  · rfl
  · exact lot_withdraw id _

/-- A broadcast changes nothing in what stations start from, however many it sends to. -/
@[simp] theorem lot_goOnOne (link : LinkCall) : (p.goOnOne n link).lot = p.lot := by
  unfold goOnOne
  split <;> rfl

@[simp] theorem lot_broadcastTo (payload : Bytes) (failed attempted : Nat) (targets : List Nat) :
    (p.broadcastTo n payload failed attempted targets).lot = p.lot := by
  induction targets generalizing p failed with
  | nil => rfl
  | cons k rest ih =>
    unfold broadcastTo
    dsimp only
    split
    · exact lot_onLink _
    · rw [ih, lot_onLink]

/-- A call that goes on changes nothing in what stations start from. -/
theorem lot_goOn (w : Waiting) : (p.goOn n w).lot = p.lot := by
  cases w with
  | connecting link id => exact lot_goOnConnecting link id
  | withdrawing takedown e => exact lot_goOnWithdrawing takedown e
  | takingDown takedown => exact lot_goOnTakingDown takedown
  | one link => exact lot_goOnOne link
  | broadcasting link rest payload failed attempted =>
    show (p.goOnBroadcasting n link rest payload failed attempted).lot = p.lot
    unfold goOnBroadcasting
    split
    · rfl
    · exact lot_broadcastTo payload _ attempted rest

/-- Nor do all calls that wait, one after the other. -/
theorem lot_goOnEach (calls : List (Nat × Waiting)) :
    (calls.foldl (fun p (n, w) => p.goOn n w) p).lot = p.lot := by
  induction calls generalizing p with
  | nil => rfl
  | cons x calls ih => exact ih.trans (lot_goOn x.2)

/-! ### Beginnings -/

/-- A new station starts from the lot; it does not become part of it. -/
theorem lot_add (s : StationSettings) : (p.add n s).lot = p.lot := by
  unfold add
  split
  · rfl
  · split
    · rfl
    · dsimp only
      split
      · rfl
      · simp only [lot_goOnConnecting, lot_onLink]
        rfl

theorem lot_remove (id : String) : (p.remove n id).lot = p.lot := by
  unfold remove
  split
  · rfl
  · simp

theorem lot_send (id : String) (payload : Bytes) : (p.send n id payload).lot = p.lot := by
  unfold send
  split
  · rfl
  · simp

theorem lot_disconnectAll : (p.disconnectAll n).lot = p.lot := by
  simp [disconnectAll]

theorem lot_shut : (p.shut n).lot = p.lot := by
  unfold shut
  split
  · rfl
  · exact lot_disconnectAll

theorem lot_reconnect (id : String) : (p.reconnect n id).lot = p.lot := by
  unfold reconnect
  split
  · rfl
  · simp

/-- A call to the pool changes nothing in what stations start from. -/
theorem lot_begin (request : Request) : (p.begin request).lot = p.lot := by
  cases request with
  | add s => exact lot_add s
  | remove id => exact lot_remove id
  | send id payload => exact lot_send id payload
  | broadcast payload => exact lot_broadcastTo payload 0 _ _
  | disconnectAll => exact lot_disconnectAll
  | shutDown => exact lot_shut
  | reconnect id => exact lot_reconnect id

/-- No step of a pool changes what its stations start from, nor how far its clock counts. -/
theorem lot_of_step {a : Action} (stepped : p.step a = some p') : p'.lot = p.lot := by
  cases a with
  | call request =>
    cases stepped
    exact lot_begin request
  | link k a =>
    obtain ⟨c, c', -, -, -, rfl⟩ := linkStep_some stepped
    exact lot_goOnEach _
  | advance nanos =>
    cases stepped
    rfl

/-! ## Connections -/

/-- Every connection was in the pool before, or is new, and has taken steps of its own since. -/
def Stems (p p' : Pool) : Prop :=
  ∀ c' ∈ p'.connections, ∃ c as, (c ∈ p.connections ∨ ∃ s, c = p.newcomer s) ∧ c.after as = some c'

/-- Where the connections only took steps of their own, they are the same connections. -/
theorem Onward.stems (onward : Onward p p') : Stems p p' := by
  intro c' mem
  obtain ⟨k, at'⟩ := List.mem_iff_getElem?.mp mem
  obtain ⟨c, as, at_, run⟩ := onward.back at'
  exact ⟨c, as, .inl (List.mem_of_getElem? at_), run⟩

/-- A station is registered, and its connection told to connect. -/
theorem Registers.stems {s : StationSettings} {p'' : Pool}
    (reg : Registers n s (p.newcomer s).connect p p') (onward : Onward p' p'') : Stems p p'' := by
  intro c'' mem
  obtain ⟨k, at''⟩ := List.mem_iff_getElem?.mp mem
  obtain ⟨c', as, at', run⟩ := onward.back at''
  have mem' := List.mem_of_getElem? at'
  rw [reg.connections] at mem'
  rcases List.mem_append.mp mem' with old | new
  · exact ⟨c', as, .inl old, run⟩
  · refine ⟨p.newcomer s, .connect :: as, .inr ⟨s, rfl⟩, ?_⟩
    rw [List.mem_singleton.mp new] at run
    rw [Connection.after_cons]
    exact run

namespace House

/-- A call to the pool makes at most one connection, which starts as a newcomer; the others take
steps of their own. -/
theorem stems_begin (h : House p []) (request : Request) : Stems p (p.begin request) := by
  obtain ⟨h', free⟩ := h.calling request
  by_cases plain : p.shutDown = true ∨ request ≠ .shutDown ∧ ∀ s, request ≠ .add s
  · exact (h.serves_begin request plain).onward.stems (p := p.calling request)
  obtain ⟨up, special⟩ := not_or.mp plain
  cases request with
  | add s =>
    show Stems p ((p.calling (.add s)).add p.fresh s)
    rcases (p.calling (.add s)).add_cases p.fresh s with ⟨e, refused⟩ | ⟨p', reg, added⟩
    · rw [refused]
      exact Onward.stems (p := p) { Onward.refl p with }
    · obtain ⟨h'', free', asked⟩ := h'.registered free reg
      rw [added]
      exact reg.stems (serves_goOnConnecting h''.toTended free'.made asked).onward
  | shutDown =>
    have first : p.begin .shutDown = p.shutting.disconnectAll p.fresh := if_neg up
    obtain ⟨h'', free'⟩ := h.shutting
    rw [first]
    exact (serves_disconnectAll h''.toTended free'.made).onward.stems (p := p.shutting)
  | _ => simp at special

/-- In every step of a pool each connection stems from one of before, or from a newcomer. -/
theorem stems (h : House p []) {a : Action} (stepped : p.step a = some p') : Stems p p' := by
  cases a with
  | call request =>
    rw [Pool.step, Option.some.injEq] at stepped
    exact stepped ▸ h.stems_begin request
  | link k a =>
    obtain ⟨c, c', at_, look, there, rfl⟩ := linkStep_some stepped
    have moved := (h.drifts_link at_ look there).toOnward
    exact (moved.trans (h.link at_ look there).onward_goOnEach).stems
  | advance nanos =>
    cases stepped
    exact (errand_advance p nanos).toOnward.stems

end House

/-! ## Runs -/

/-- Nor does a run. -/
theorem lot_of_run {as : List Action} (run : p.after as = some p') : p'.lot = p.lot :=
  after_induction (P := (·.lot = p.lot))
    (fun {_ _ _} (_ : True) same stepped => (lot_of_step stepped).trans same) (fun _ _ => trivial)
    rfl run

/-- What the stations of a reachable pool start from is what the pool was made with. -/
theorem Reachable.lot (reachable : Reachable base defaults p) :
    p.lot = (base, defaults, p.horizon) := by
  induction reachable with
  | new => rfl
  | step a before stepped ih =>
    have same := lot_of_step stepped
    have horizon : Pool.horizon _ = Pool.horizon _ := congrArg (·.2.2) same
    rw [same, ih, horizon]

/-- A connection in a pool is one that steps of its own lead to, from the defaults of the pool and
what its station sets for itself, with the clock of the pool. -/
theorem Reachable.connections (reachable : Reachable base defaults p) (mem : c ∈ p.connections) :
    c.horizon = p.horizon ∧
      ∃ s : StationSettings, Connection.Reachable (s.withDefaults base defaults) c := by
  induction reachable generalizing c with
  | new => cases mem
  | @step p p' a before stepped ih =>
    have same : p'.horizon = p.horizon := congrArg (·.2.2) (lot_of_step stepped)
    obtain ⟨d, as, origin, run⟩ := before.house.stems stepped c mem
    rw [same, Connection.horizon_of_run run]
    rcases origin with old | ⟨s, rfl⟩
    · obtain ⟨horizon, s, reachable⟩ := ih old
      exact ⟨horizon, s, reachable.after run⟩
    · obtain ⟨rfl, defaults_eq⟩ := Prod.mk.inj before.lot
      obtain ⟨rfl, -⟩ := Prod.mk.inj defaults_eq
      exact ⟨rfl, s, (p.newcomer_reachable s).after run⟩

end StationPool.Pool
