import StationPool.Proofs.Pool.Changes

/-!
# Calls that go on

`Roster` adds to the books of a pool the calls that wait, and those that are about to go on. It is
kept by the pieces that a step is made of: a call is made (`Roster.called`), registers a connection
(`Roster.registered`), takes connections out (`Roster.takeDown`), waits or ends (`Roster.wait`,
`Roster.finish`); a connection takes a step of its own (`Roster.link`), or the clock moves on
(`Roster.advance`). So it holds along every run of such calls (`roster_of_run`).
-/

namespace StationPool.Pool

open Connection (Fledgling)

variable {p p' : Pool} {left : List (Nat × Waiting)} {n m k call : Nat} {id : String}
  {w : Waiting}

/-! ## What a call that goes on may rely on -/

/-- A call that waits for the first connect of its station: nothing has become of it yet, and who
else is registered under its id has usurped it. -/
structure Expects (p : Pool) (n k m : Nat) (id : String) : Prop where
  registered : .registered n k ∈ p.history
  called : ∃ s, .called n (.add s) ∈ p.history ∧ s.stationId = id
  pledges : p.Pledges (k, m)
  going : ∀ h ∈ p.history, h.caller = n → ¬ h.Ends
  rivals : ∀ j, (id, j) ∈ p.registry.entries → j = k ∨ Usurped p.history n id j

/-- What a call waits for fits what happened. -/
def Fits (p : Pool) (n : Nat) : Waiting → Prop
  | .connecting (k, m) id => Expects p n k m id
  | .withdrawing _ _ => ∀ k, .registered n k ∈ p.history → p.Gone k
  | .takingDown _ => ∀ s, .called n (.add s) ∉ p.history
  | .one _ | .broadcasting .. => False

/-- What a call waits for goes on to fit while the call itself does nothing. -/
theorem Fits.mono (fits : p.Fits n w) (stands : Stands p p')
    (old : ∀ x ∈ p'.history, x.caller = n → x ∈ p.history)
    (pledges : ∀ link id, w = .connecting link id → p'.Pledges link)
    (rivals : ∀ link id, w = .connecting link id → ∀ j, (id, j) ∈ p'.registry.entries →
      j = link.1 ∨ Usurped p'.history n id j) : p'.Fits n w := by
  cases w with
  | connecting link id =>
    obtain ⟨s, called, same⟩ := fits.called
    exact ⟨stands.mem fits.registered, ⟨s, stands.mem called, same⟩, pledges _ id rfl,
      fun h mem own => fits.going h (old h mem own) own, rivals _ id rfl⟩
  | withdrawing t e => exact fun k registered => stands.gone (fits k (old _ registered rfl))
  | takingDown t => exact fun s called => fits s (old _ called rfl)
  | one link => exact fits.elim
  | broadcasting link rest payload failed attempted => exact fits.elim

/-- The books of a pool and its calls, some of which are about to go on. -/
structure Roster (p : Pool) (left : List (Nat × Waiting)) : Prop extends Books p where
  once : ((left ++ p.waiting).map (·.1)).Nodup
  fits : ∀ x ∈ left ++ p.waiting, x.1 < p.fresh ∧ p.Fits x.1 x.2
  /-- Nobody waits for a connect that has ended. -/
  unanswered : ∀ n link id, (n, .connecting link id) ∈ p.waiting → p.outcomeOf link = none

/-- A call that was made and does not wait. -/
structure Free (p : Pool) (left : List (Nat × Waiting)) (n : Nat) : Prop where
  made : n < p.fresh
  absent : ∀ x ∈ left ++ p.waiting, x.1 ≠ n

/-- A connection without a session that is registered no more was disconnected, which closed it. -/
theorem Books.gone_of_fledgling (b : Books p) (registered : .registered n k ∈ p.history)
    {c : Connection} (at_ : p.connections[k]? = some c) (fledgling : Fledgling c m)
    (unlisted : ¬ p.Listed k) : p.Gone k := by
  obtain ⟨thief, taken⟩ := b.taken_of_unlisted registered unlisted
  obtain ⟨-, -, down, -⟩ := b.fair (.tookOut thief k) taken
  exact ⟨unlisted, (state_at at_).trans (fledgling.down ((isDown_at at_).symm.trans down))⟩

namespace Roster

/-- A step that is another call's passage keeps the roster, if those who wait still do, for
something that has not ended. -/
theorem of_passes (b : Books p) (pass : Passes call p p')
    (once : ((left ++ p'.waiting).map (·.1)).Nodup)
    (fits : ∀ x ∈ left ++ p'.waiting, x.1 < p.fresh ∧ x.1 ≠ call ∧ p.Fits x.1 x.2)
    (pledges : ∀ n link id, (n, .connecting link id) ∈ left ++ p'.waiting → p'.Pledges link)
    (unanswered : ∀ n link id, (n, .connecting link id) ∈ p'.waiting → p'.outcomeOf link = none) :
    Roster p' left where
  toBooks := pass.books b
  once := once
  unanswered := unanswered
  fits x mem := by
    obtain ⟨made, other, fit⟩ := fits x mem
    refine ⟨pass.fresh ▸ made, fit.mono pass.stands ?_ ?_ ?_⟩
    · exact fun h mem own => pass.other mem (own ▸ other)
    · exact fun link id waits => pledges x.1 link id (waits ▸ mem)
    · intro link id waits j listed
      rw [waits] at fit
      exact (fit.rivals j (pass.listed _ listed)).imp_right (·.mono pass.stands.suffix)

/-- Whoever waits for the first connect of a station has the promise of it. -/
theorem pledges (r : Roster p left) {link : LinkCall}
    (mem : (n, .connecting link id) ∈ left ++ p.waiting) : p.Pledges link :=
  (r.fits _ mem).2.pledges

/-- The calls that wait go on waiting. -/
theorem passes (r : Roster p left) (pass : Passes call p p') (aged : Aged p p')
    (same : p'.waiting = p.waiting) (absent : ∀ x ∈ left ++ p.waiting, x.1 ≠ call) :
    Roster p' left := by
  refine of_passes r.toBooks pass (same ▸ r.once) ?_ ?_ ?_
  · rw [same]
    exact fun x mem => ⟨(r.fits x mem).1, absent x mem, (r.fits x mem).2⟩
  · rw [same]
    exact fun n link id mem => aged.pledges (r.pledges mem)
  · rw [same]
    intro n link id mem
    rw [aged.outcomeOf (r.pledges (List.mem_append_right left mem))]
    exact r.unanswered n link id mem

/-- A call that is about to go on. -/
theorem pop {x : Nat × Waiting} (r : Roster p (x :: left)) :
    Roster p left ∧ Free p left x.1 ∧ p.Fits x.1 x.2 := by
  obtain ⟨absent, once⟩ := List.nodup_cons.mp r.once
  obtain ⟨made, fits⟩ := r.fits x List.mem_cons_self
  refine ⟨{ r with once, fits := fun y mem => r.fits y (List.mem_cons_of_mem x mem) },
    ⟨made, fun y mem same => absent ?_⟩, fits⟩
  exact List.mem_map.mpr ⟨y, mem, same⟩

/-- A call waits. -/
theorem wait (r : Roster p left) (free : Free p left n) (fits : p.Fits n w)
    (unanswered : ∀ link id, w = .connecting link id → p.outcomeOf link = none) :
    Roster (p.wait n w) left := by
  have cases_ {x : Nat × Waiting} (mem : x ∈ left ++ (p.wait n w).waiting) :
      x ∈ left ++ p.waiting ∨ x = (n, w) := by
    simpa [Pool.wait, or_assoc] using mem
  have fit {x : Nat × Waiting} (mem : x ∈ left ++ (p.wait n w).waiting) :
      x.1 < p.fresh ∧ p.Fits x.1 x.2 := by
    rcases cases_ mem with mem | rfl
    · exact r.fits x mem
    · exact ⟨free.made, fits⟩
  have passes : Passes p.fresh p (p.wait n w) := passes_quietly rfl
    (fun k c at_ => ⟨c, at_, r.sound c (List.mem_of_getElem? at_), id, rfl⟩) p.now _
  refine of_passes r.toBooks passes ?_ ?_ ?_ ?_
  · have numbers : (left ++ (p.wait n w).waiting).map (·.1) =
        (left ++ p.waiting).map (·.1) ++ [n] := by
      simp [Pool.wait]
    rw [numbers]
    refine List.nodup_append.mpr ⟨r.once, List.nodup_singleton n, ?_⟩
    intro number mem number' mem'
    obtain ⟨x, there, rfl⟩ := List.mem_map.mp mem
    rw [List.mem_singleton.mp mem']
    exact free.absent x there
  · intro x mem
    obtain ⟨made, fits⟩ := fit mem
    exact ⟨made, Nat.ne_of_lt made, fits⟩
  · intro n link id mem
    exact (fit mem).2.pledges
  · intro n' link id mem
    rcases List.mem_append.mp mem with mem | mem
    · exact r.unanswered n' link id mem
    · cases List.mem_singleton.mp mem
      exact unanswered link id rfl

/-- A call ends. -/
theorem finish (r : Roster p left) (free : Free p left n) {result : Except PoolError Unit}
    (gone : result.toOption = none → ∀ k, .registered n k ∈ p.history → p.Gone k) :
    Roster (p.finish n result) left := by
  have passes : Passes n p (p.finish n result) := by
    refine ⟨rfl, rfl, r.sound, fun _ => id, fun _ => id, fun _ => id, fun _ => .inl, fun _ => .inl,
      [.returned n result], rfl, fun h mem => ?_⟩
    rw [List.mem_singleton.mp mem]
    refine ⟨rfl, free.made, trivial, fun failed k registered => ?_⟩
    have gone := gone failed k ((List.mem_cons.mp registered).resolve_left nofun)
    exact ⟨gone.unlisted, gone.closed⟩
  exact r.passes passes (r.aged_of_eq rfl) rfl free.absent

/-- A call that waited for disconnects. -/
theorem goOnTakingDown (r : Roster p left) (free : Free p left n)
    (other : ∀ s, .called n (.add s) ∉ p.history) (t : Takedown LinkCall) :
    Roster (p.goOnTakingDown n t) left := by
  unfold Pool.goOnTakingDown
  split
  · refine r.finish free fun _ k registered => ?_
    obtain ⟨-, s, called⟩ := r.fair _ registered
    exact absurd called (other s)
  · exact r.wait free other nofun

/-- A call whose station was not to be. -/
theorem goOnWithdrawing (r : Roster p left) (free : Free p left n)
    (gone : ∀ k, .registered n k ∈ p.history → p.Gone k) (t : Takedown LinkCall)
    (e : ConnectionError) : Roster (p.goOnWithdrawing n t e) left := by
  unfold Pool.goOnWithdrawing
  split
  · exact r.finish free fun _ => gone
  · exact r.wait free gone nofun

/-- A call takes connections out. -/
theorem takeDown (r : Roster p left) (free : Free p left n) {taken : List Nat}
    {registry : Registry Nat} (down : TakesDown n taken registry p p')
    (splits : p.Splits taken registry)
    (own : ∀ s, .called n (.add s) ∈ p.history → ∀ k ∈ taken,
      .registered n k ∈ p.history ∨ Usurped p.history n s.stationId k) :
    Roster p' left ∧ Free p' left n := by
  refine ⟨r.passes (down.passes r.toBooks splits free.made own) down.aged down.waiting free.absent,
    down.fresh ▸ free.made, ?_⟩
  rw [down.waiting]
  exact free.absent

/-- A call whose first connect failed takes out what is registered under its id. -/
theorem withdraw (r : Roster p left) (free : Free p left n) (expects : Expects p n k m id)
    {e : ConnectionError} (failed : p.outcomeOf (k, m) = some (.error e)) :
    Roster (p.withdraw n id e) left := by
  obtain ⟨s, called, rfl⟩ := expects.called
  obtain ⟨c, at_, pledged⟩ := expects.pledges
  rw [outcomeOf, at_, Option.bind_some] at failed
  have fledgling := pledged.fledgling (by simp [failed])
  have own {k' : Nat} (registered : .registered n k' ∈ p.history) : k' = k :=
    r.one registered expects.registered
  unfold Pool.withdraw
  cases removed : p.registry.remove s.stationId with
  | error missing =>
    have unlisted : ¬ p.Listed k := by
      rintro ⟨id, mem⟩
      have same := r.id_eq expects.registered called mem
      exact Registry.remove_error removed k (same ▸ mem)
    refine r.finish free fun _ k' registered => own registered ▸ ?_
    exact r.gone_of_fledgling expects.registered at_ fledgling unlisted
  | ok pair =>
    obtain ⟨j, registry⟩ := pair
    obtain ⟨mem, rfl⟩ := Registry.remove_ok removed
    have down := takesDown n r.sound [j] (p.registry.erase s.stationId) false
    dsimp only
    generalize p.takeDown n [j] (p.registry.erase s.stationId) false = pair at down
    obtain ⟨t, p'⟩ := pair
    obtain ⟨r', free'⟩ := r.takeDown free down (r.splits_erase mem) fun s' called' k' out => by
      cases r.asked called called'
      rw [List.mem_singleton.mp out]
      rcases expects.rivals j mem with rfl | usurped
      · exact .inl expects.registered
      · exact .inr usurped
    refine r'.goOnWithdrawing free' (fun k' registered => ?_) t e
    have registered : .registered n k' ∈ p.history := by
      rw [down.history] at registered
      simpa using registered
    have unlisted : ¬ p'.Listed k := by
      rintro ⟨id, mem⟩
      rw [down.registry] at mem
      obtain ⟨mem, other⟩ := Registry.mem_erase.mp mem
      exact other (r.id_eq expects.registered called mem)
    obtain ⟨c', at', ages, -⟩ := down.each k c at_
    rw [own registered]
    exact r'.gone_of_fledgling (down.history ▸ List.mem_append_right _ expects.registered) at'
      (ages.fledgling m fledgling) unlisted

/-- A call that waited for the first connect of its station. -/
theorem goOnConnecting (r : Roster p left) (free : Free p left n) {link : LinkCall}
    (expects : Expects p n link.1 link.2 id) : Roster (p.goOnConnecting n link id) left := by
  unfold Pool.goOnConnecting
  cases outcome : p.outcomeOf link with
  | none =>
    refine r.wait free expects fun link' id' same => ?_
    cases same
    exact outcome
  | some outcome' =>
    cases outcome' with
    | ok _ => exact r.finish free nofun
    | error e => exact r.withdraw free expects outcome

/-- A call that goes on keeps the roster of those left. A connect that ended has succeeded, or the
station is taken out by the call that registered it. -/
theorem goOn (r : Roster p ((n, w) :: left)) : Roster (p.goOn n w) left := by
  obtain ⟨rest, free, fits⟩ := r.pop
  cases w with
  | connecting link id => exact rest.goOnConnecting free fits
  | withdrawing t e => exact rest.goOnWithdrawing free fits t e
  | takingDown t => exact rest.goOnTakingDown free fits t
  | one link => exact fits.elim
  | broadcasting link rest payload failed attempted => exact fits.elim

/-- When all that can have gone on, the roster has none left. -/
theorem goOnEach (r : Roster p left) :
    Roster (left.foldl (fun p (n, w) => p.goOn n w) p) [] := by
  induction left generalizing p with
  | nil => exact r
  | cons x left ih => exact ih r.goOn

/-! ## Steps of connections -/

/-- A connection takes a step of its own, and all calls that wait are about to go on. -/
theorem link (r : Roster p []) {a : Connection.Action} {c c' : Connection}
    (at_ : p.connections[k]? = some c) (look : a.request? = none) (stepped : c.step a = some c') :
    Roster { p with connections := p.connections.set k c', waiting := [] } p.waiting := by
  have bound := (List.getElem?_eq_some_iff.mp at_).1
  have sound := r.sound c (List.mem_of_getElem? at_)
  have passes : Passes p.fresh p
      { p with connections := p.connections.set k c', waiting := [] } := by
    refine passes_quietly List.length_set (fun j d at' => ?_) p.now []
    by_cases own : k = j
    · subst own
      rw [List.getElem?_set_self bound] at at'
      cases at'
      exact ⟨c, at_, sound.step stepped, sound.closed_step stepped,
        sound.cancelled_step stepped fun same => by cases same; cases look⟩
    · rw [List.getElem?_set_ne own] at at'
      exact ⟨d, at', r.sound d (List.mem_of_getElem? at'), id, rfl⟩
  refine of_passes r.toBooks passes ?_ ?_ ?_ nofun
  · rw [List.append_nil]
    exact r.once
  · intro x mem
    rw [List.append_nil] at mem
    obtain ⟨made, fits⟩ := r.fits x mem
    exact ⟨made, Nat.ne_of_lt made, fits⟩
  · intro n link id mem
    rw [List.append_nil] at mem
    obtain ⟨d, there, pledged⟩ := r.pledges mem
    have unanswered := r.unanswered n _ id mem
    rw [outcomeOf, there, Option.bind_some] at unanswered
    by_cases own : k = link.1
    · subst own
      cases at_.symm.trans there
      have fledgling := pledged.fledgling (by simp [unanswered])
      exact ⟨c', List.getElem?_set_self bound, fledgling.step sound look stepped⟩
    · exact ⟨d, (List.getElem?_set_ne own).trans there, pledged⟩

/-- Time that passes keeps the roster. It ends no connect by itself. -/
theorem advance (r : Roster p []) (nanos : Nat) :
    Roster { p with
      now := p.now + nanos
      connections := p.connections.map fun c => { c with now := c.now + nanos } } [] := by
  have later {j : Nat} {c : Connection} (at_ : p.connections[j]? = some c) :
      (p.connections.map fun c => { c with now := c.now + nanos })[j]? =
        some { c with now := c.now + nanos } := by
    rw [List.getElem?_map, at_, Option.map_some]
  have aged (j : Nat) (c : Connection) (at_ : p.connections[j]? = some c) :=
    (r.sound c (List.mem_of_getElem? at_)).ages_advance nanos
  have passes : Passes p.fresh p { p with
      now := p.now + nanos
      connections := p.connections.map fun c => { c with now := c.now + nanos } } := by
    refine passes_quietly (List.length_map _) (fun j c' at' => ?_) _ _
    rw [List.getElem?_map] at at'
    obtain ⟨c, at_, rfl⟩ := Option.map_eq_some_iff.mp at'
    exact ⟨c, at_, (aged j c at_).sound, id, rfl⟩
  exact r.passes passes (fun j c at_ => ⟨_, later at_, aged j c at_⟩) rfl
    fun x mem => Nat.ne_of_lt (r.fits x mem).1

/-! ## Beginnings -/

/-- A call is made: nothing else is known of it. -/
theorem called (r : Roster p []) (request : Request) :
    Roster ({ p with fresh := p.fresh + 1 }.note (.called p.fresh request)) [] ∧
    Free ({ p with fresh := p.fresh + 1 }.note (.called p.fresh request)) [] p.fresh ∧
    ∀ h ∈ .called p.fresh request :: p.history, h.caller = p.fresh →
      h = .called p.fresh request := by
  have new {h : Happening} (mem : h ∈ p.history) : h.caller ≠ p.fresh :=
    Nat.ne_of_lt (r.numbered h mem)
  have old {h : Happening} (mem : h ∈ .called p.fresh request :: p.history)
      (other : h.caller ≠ p.fresh) : h ∈ p.history :=
    (List.mem_cons.mp mem).resolve_left fun same => other (same ▸ rfl)
  have registered_old {n k : Nat} (mem : .registered n k ∈ .called p.fresh request :: p.history) :
      .registered n k ∈ p.history := (List.mem_cons.mp mem).resolve_left nofun
  have stands : Stands p ({ p with fresh := p.fresh + 1 }.note (.called p.fresh request)) :=
    ⟨List.suffix_cons _ _, Nat.le_refl _, fun _ _ => id, fun _ => id, fun _ => id⟩
  refine ⟨{
    sound := r.sound, numbered := ?numbered, asked := ?asked, one := ?one, by_one := ?by_one,
    listed := ?listed, kept := ?kept, down := ?down, fair := ?fair, once := r.once,
    fits := ?fits, unanswered := r.unanswered }, ⟨Nat.lt_succ_self _, ?absent⟩, ?only⟩
  case numbered =>
    intro h mem
    rcases List.mem_cons.mp mem with rfl | mem
    · exact Nat.lt_succ_self _
    · exact Nat.lt_succ_of_lt (r.numbered h mem)
  case asked =>
    intro n request₁ request₂ called called'
    rcases List.mem_cons.mp called with same | called <;>
      rcases List.mem_cons.mp called' with same' | called'
    · cases same; cases same'; rfl
    · cases same; exact absurd rfl (new called')
    · cases same'; exact absurd rfl (new called)
    · exact r.asked called called'
  case one =>
    exact fun registered registered' =>
      r.one (registered_old registered) (registered_old registered')
  case by_one =>
    exact fun registered registered' =>
      r.by_one (registered_old registered) (registered_old registered')
  case listed =>
    intro id k mem
    obtain ⟨n, s, registered, called, same⟩ := r.listed mem
    exact ⟨n, s, stands.mem registered, stands.mem called, same⟩
  case kept =>
    exact fun k there => (r.kept k there).imp id fun ⟨n, taken⟩ => ⟨n, stands.mem taken⟩
  case down =>
    exact fun k down => (r.down k down).imp fun n taken => stands.mem taken
  case fair =>
    intro h mem
    rcases List.mem_cons.mp mem with rfl | mem
    · trivial
    · exact stands.fair (fun x there own _ => old there (own ▸ new mem)) (r.fair h mem)
  case fits =>
    intro x mem
    obtain ⟨made, fits⟩ := r.fits x mem
    have other := Nat.ne_of_lt made
    refine ⟨Nat.lt_succ_of_lt made, fits.mono stands ?_ ?_ ?_⟩
    · exact fun h there own => old there (own ▸ other)
    · intro link id waits
      rw [waits] at fits
      exact fits.pledges
    · intro link id waits j listed
      rw [waits] at fits
      exact (fits.rivals j listed).imp_right (·.mono stands.suffix)
  case absent =>
    exact fun x mem => Nat.ne_of_lt (r.fits x mem).1
  case only =>
    intro h mem own
    exact (List.mem_cons.mp mem).resolve_right fun mem => new mem own

end Roster

/-- Whoever goes on under the id has been deprived, for the id was free. -/
theorem Registers.usurped {s : StationSettings} {c : Connection} (reg : Registers n s c p p')
    (b : Books p) {n' k' m : Nat} (called : .called n (.add s) ∈ p.history) (other : n ≠ n')
    (expects : Expects p n' k' m s.stationId) :
    Usurped p'.history n' s.stationId p.connections.length := by
  have unlisted : ¬ p.Listed k' := by
    rintro ⟨id, mem⟩
    obtain ⟨s', called', same⟩ := expects.called
    have same' := b.id_eq expects.registered called' mem
    exact reg.vacant k' ((same'.trans same) ▸ mem)
  obtain ⟨thief, taken⟩ := b.taken_of_unlisted expects.registered unlisted
  refine ⟨n, s, p.history, reg.history ▸ List.suffix_refl _, other, called, rfl, ?_⟩
  exact ⟨fun result mem => expects.going _ mem rfl trivial, k', thief, expects.registered,
    fun own => expects.going _ taken own trivial, taken⟩

/-- A call registers a connection, and waits for its first connect. -/
theorem Roster.registered {s : StationSettings} {c : Connection} (r : Roster p left)
    (free : Free p left n) (reg : Registers n s c p p')
    (only : ∀ h ∈ p.history, h.caller = n → h = .called n (.add s))
    (called : .called n (.add s) ∈ p.history) (sound : c.Sound) (fledgling : Fledgling c m)
    (up : c.cancelled = false) :
    Roster p' left ∧ Free p' left n ∧ Expects p' n p.connections.length m s.stationId := by
  have old {h : Happening} (mem : h ∈ p'.history) (other : h.caller ≠ n) : h ∈ p.history :=
    reg.old mem fun new => other (new ▸ rfl)
  have absent {x : Nat × Waiting} (mem : x ∈ left ++ p'.waiting) :
      x ∈ left ++ p.waiting ∧ x.1 ≠ n := by
    rw [reg.waiting] at mem
    exact ⟨mem, free.absent x mem⟩
  refine ⟨{ reg.books r.toBooks free.made only called sound up with
      once := reg.waiting ▸ r.once, fits := ?_, unanswered := ?_ },
    ⟨reg.fresh ▸ free.made, fun x mem => (absent mem).2⟩, ?_⟩
  · intro x mem
    obtain ⟨mem, other⟩ := absent mem
    obtain ⟨made, fits⟩ := r.fits x mem
    refine ⟨reg.fresh ▸ made, fits.mono reg.stands ?_ ?_ ?_⟩
    · exact fun h mem own => old mem (own ▸ other)
    · intro link id waits
      rw [waits] at fits
      exact reg.pledges fits.pledges
    · intro link id waits j listed
      rw [waits] at fits
      rcases reg.listed_cases listed with listed | ⟨rfl, rfl⟩
      · exact (fits.rivals j listed).imp_right (·.mono reg.stands.suffix)
      · exact .inr (reg.usurped r.toBooks called other.symm fits)
  · intro n' link id mem
    rw [reg.waiting] at mem
    rw [reg.outcomeOf (r.pledges (List.mem_append_right left mem))]
    exact r.unanswered n' link id mem
  · refine ⟨reg.history ▸ List.mem_cons_self, ⟨s, reg.stands.mem called, rfl⟩,
      ⟨c, reg.at_new, .inl fledgling⟩, ?_, ?_⟩
    · intro h mem own
      by_cases new : h = .registered n p.connections.length
      · exact new ▸ fun ends => ends
      · rw [only h (reg.old mem new) own]
        exact fun ends => ends
    · intro j listed
      rcases reg.listed_cases listed with listed | ⟨-, rfl⟩
      · exact absurd listed (reg.vacant j)
      · exact .inl rfl

namespace Roster

/-- To add a station keeps the roster: the connection is registered under a free id, and its first
connect has not ended when the call begins to wait. -/
theorem add (r : Roster p []) (free : Free p [] n) {s : StationSettings}
    (only : ∀ h ∈ p.history, h.caller = n → h = .called n (.add s))
    (called : .called n (.add s) ∈ p.history) : Roster (p.add n s) [] := by
  rcases p.add_cases n s with ⟨e, refused⟩ | ⟨p', reg, added⟩
  · rw [refused]
    exact r.finish free fun _ k registered => nomatch only _ registered rfl
  · have sound := p.newcomer_sound s
    obtain ⟨r', free', expects⟩ := r.registered free reg only called
      (sound.step (a := .connect) rfl) (Fledgling.connect rfl rfl rfl rfl rfl)
      (sound.cancelled_step (a := .connect) rfl nofun)
    rw [added]
    exact r'.goOnConnecting free' expects

/-- To remove a station keeps the roster. Who waits for its connect is deprived of it. -/
theorem remove (r : Roster p []) (free : Free p [] n)
    (other : ∀ s, .called n (.add s) ∉ p.history) (id : String) : Roster (p.remove n id) [] := by
  unfold Pool.remove
  cases removed : p.registry.remove id with
  | error e =>
    refine r.finish free fun _ k registered => ?_
    obtain ⟨-, s, called⟩ := r.fair (.registered n k) registered
    exact absurd called (other s)
  | ok pair =>
    obtain ⟨k, registry⟩ := pair
    obtain ⟨mem, rfl⟩ := Registry.remove_ok removed
    have down := takesDown n r.sound [k] (p.registry.erase id) false
    dsimp only
    generalize p.takeDown n [k] (p.registry.erase id) false = pair at down
    obtain ⟨r', free'⟩ := r.takeDown free down (r.splits_erase mem) fun s called =>
      absurd called (other s)
    refine r'.goOnTakingDown free' (fun s called => other s ?_) pair.1
    rw [down.history] at called
    simpa using called

/-- To disconnect all keeps the roster. Whoever waits for a connect is deprived of it. -/
theorem disconnectAll (r : Roster p []) (free : Free p [] n)
    (other : ∀ s, .called n (.add s) ∉ p.history) : Roster (p.disconnectAll n) [] := by
  have down := takesDown n r.sound p.registry.drain.1 p.registry.drain.2 true
  unfold Pool.disconnectAll
  dsimp only
  generalize p.takeDown n p.registry.drain.1 p.registry.drain.2 true = pair at down
  obtain ⟨r', free'⟩ := r.takeDown free down splits_drain fun s called => absurd called (other s)
  refine r'.goOnTakingDown free' (fun s called => other s ?_) pair.1
  rw [down.history] at called
  simpa using called

end Roster

/-! ## Runs -/

/-- In which callers at most add, remove and disconnect stations. -/
def Action.Rosters : Action → Prop
  | .call (.add _) | .call (.remove _) | .call .disconnectAll | .link _ _ | .advance _ => True
  | .call _ => False

/-- The pool after a list of actions; none where one of them is not possible. -/
def after (p : Pool) (as : List Action) : Option Pool := as.foldlM step p

theorem after_cons (p : Pool) (a : Action) (as : List Action) :
    p.after (a :: as) = (p.step a).bind (·.after as) := rfl

/-- Something that every step of some kind keeps is kept by the runs of such steps. -/
theorem after_induction {P : Pool → Prop} {kind : Action → Prop}
    (keeps : ∀ {p a p'}, kind a → P p → p.step a = some p' → P p') {as : List Action}
    (kinds : ∀ a ∈ as, kind a) (holds : P p) (run : p.after as = some p') : P p' := by
  induction as generalizing p with
  | nil => cases run; exact holds
  | cons a as ih =>
    rw [after_cons] at run
    obtain ⟨next, stepped, rest⟩ := Option.bind_eq_some_iff.mp run
    obtain ⟨first, others⟩ := List.forall_mem_cons.mp kinds
    exact ih others (keeps first holds stepped) rest

/-- What a step of a connection comes to. -/
theorem linkStep_some {a : Connection.Action} (stepped : p.linkStep k a = some p') :
    ∃ c c', p.connections[k]? = some c ∧ a.request? = none ∧ c.step a = some c' ∧
      p' = goOnAll { p with connections := p.connections.set k c' } := by
  unfold linkStep at stepped
  split at stepped
  · cases stepped
  · rename_i own
    obtain ⟨c', there, rfl⟩ := Option.map_eq_some_iff.mp stepped
    obtain ⟨c, at_, there⟩ := Option.bind_eq_some_iff.mp there
    refine ⟨c, c', at_, ?_, there, rfl⟩
    cases a <;> first | rfl | exact absurd rfl own

/-- Every step among adds, removals and disconnects keeps the roster. -/
theorem Roster.step (r : Roster p []) {a : Action} (kind : a.Rosters)
    (stepped : p.step a = some p') : Roster p' [] := by
  cases a with
  | call request =>
    rw [Pool.step, Option.some.injEq] at stepped
    subst stepped
    obtain ⟨r', free, only⟩ := r.called request
    have other {s : StationSettings} (mem : .called p.fresh (.add s) ∈
        .called p.fresh request :: p.history) : .add s = request := by
      cases only _ mem rfl
      rfl
    cases request with
    | add s => exact r'.add free only List.mem_cons_self
    | remove id => exact r'.remove free (fun s mem => nomatch other mem) id
    | disconnectAll => exact r'.disconnectAll free fun s mem => nomatch other mem
    | _ => exact kind.elim
  | link k a =>
    obtain ⟨c, c', at_, look, there, rfl⟩ := linkStep_some stepped
    exact (r.link at_ look there).goOnEach
  | advance nanos =>
    cases stepped
    exact r.advance nanos

/-- Every run of such steps leads to a pool whose roster is in order. -/
theorem roster_of_run {base : String} {defaults : ConnectionSettings} {as : List Action}
    (kinds : ∀ a ∈ as, a.Rosters) (run : after { base, defaults } as = some p) : Roster p [] := by
  refine after_induction (P := (Roster · [])) (fun kind r stepped => r.step kind stepped) kinds
    ?_ run
  exact {
    sound := fun _ mem => nomatch mem
    numbered := fun _ mem => nomatch mem
    asked := fun mem => nomatch mem
    one := fun mem => nomatch mem
    by_one := fun mem => nomatch mem
    listed := fun mem => nomatch mem
    kept := fun _ there => nomatch there
    down := fun _ down => nomatch down
    fair := fun _ mem => nomatch mem
    once := .nil
    fits := fun _ mem => nomatch mem
    unanswered := fun _ _ _ mem => nomatch mem }

end StationPool.Pool
