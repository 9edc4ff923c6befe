import StationPool.Proofs.Registry.Takedowns

/-!
# Who disconnects what was registered

A connection that was put into a registry either stays there, untouched, or has left it for good
with the one call that disconnects it. `Led` leads from a connection to that call and `Kept` ties
the entries to the calls that took connections out, for runs in which every connection is put in
once, under its own id.

What each call does to the entries and what it returns is `Does`; `custody` is both for any run.
-/

namespace StationPool.Registry

variable {κ : Type}

/-- The connection handed to a registry. -/
def Run.Action.offered? : Run.Action κ → Option κ
  | .add _ c => some c
  | _ => none

namespace Run

variable [DecidableEq κ] {r r' : Run κ} {call : Nat}

/-! ## Whom a call disconnects -/

/-- The calls that began to disconnect a connection, the last first. -/
def takers (c : κ) (history : List (Happening κ)) : List Nat :=
  history.filterMap fun
    | .disconnecting n c' => if c' = c then some n else none
    | _ => none

/-- The calls that took a connection out in a longer history are the later ones and those before. -/
theorem takers_append (c : κ) (later history : List (Happening κ)) :
    takers c (later ++ history) = takers c later ++ takers c history := List.filterMap_append

/-- A call took a connection out where it began to disconnect it. -/
theorem mem_takers {c : κ} {n : Nat} {history : List (Happening κ)} :
    n ∈ takers c history ↔ .disconnecting n c ∈ history := by
  rw [takers, List.mem_filterMap]
  constructor
  · rintro ⟨h, mem, is⟩
    cases h with
    | disconnecting n' c' =>
      obtain ⟨rfl, same⟩ := Option.ite_none_right_eq_some.mp is
      cases same
      exact mem
    | _ => cases is
  · exact fun mem => ⟨_, mem, if_pos rfl⟩

/-- A call that takes out connections, each once, becomes the taker of each of them. -/
theorem takers_begun (c : κ) {taken : List κ} (once : taken.Nodup) :
    takers c (taken.map (.disconnecting call)).reverse = if c ∈ taken then [call] else [] := by
  induction taken with
  | nil => rfl
  | cons first rest ih =>
    obtain ⟨apart, once⟩ := List.nodup_cons.mp once
    rw [List.map_cons, List.reverse_cons, takers_append, ih once]
    by_cases same : first = c
    · subst same
      rw [if_neg apart, if_pos List.mem_cons_self]
      simp [takers]
    · have none_ : takers c [Happening.disconnecting call first] = [] := by simp [takers, same]
      rw [none_, List.append_nil]
      simp [Ne.symm same]

/-- Nothing was put in, and nothing taken out. -/
structure Calm (r r' : Run κ) : Prop where
  registry : r'.registry = r.registry
  added : ∀ n id c, .added n id c ∈ r'.history ↔ .added n id c ∈ r.history
  takers : ∀ c, takers c r'.history = takers c r.history

/-- To wait or to return puts nothing in and takes nothing out. -/
theorem calm_await (t : Takedown κ) : Calm r (r.await call t) := by
  by_cases none_ : t.awaiting = []
  · rw [await_nil none_]
    exact ⟨rfl, fun n id c => by simp [answer, note], fun c => rfl⟩
  · rw [await_cons none_]
    exact ⟨rfl, fun n id c => .rfl, fun c => rfl⟩

/-! ## The connections -/

/-- A call that took a connection out goes on to disconnect it, or did. -/
def Led (r : Run κ) : Prop :=
  ∀ c, ∀ call ∈ takers c r.history,
    ∃ taken tells ends left, c ∈ taken ∧ Goes r call taken tells ends left

/-- Every step lets the calls that took a connection out go on. A call that takes one out now is
going from then on. -/
theorem Led.step (led : Led r) (tidy : Tidy r) {a : Action κ} (stepped : r.step a = some r') :
    Led r' := by
  have old {c : κ} {call : Nat} (mem : .disconnecting call c ∈ r.history) :
      ∃ taken tells ends left, c ∈ taken ∧ Goes r' call taken tells ends left := by
    obtain ⟨taken, tells, ends, left, among, goes⟩ := led c call (mem_takers.mpr mem)
    obtain ⟨ends', left', goes'⟩ := goes.step stepped
    exact ⟨taken, tells, ends', left', among, goes'⟩
  intro c call mem
  rw [mem_takers] at mem
  cases turn_of_step stepped with
  | atOnce its idle =>
    rcases List.mem_append.mp mem with new | mem
    · obtain rfl := its _ new
      exact absurd new (idle c)
    · exact old mem
  | @takeDown _ registry taken tells =>
    rw [takeDown_eq, ← mem_takers, (calm_await _).takers, mem_takers] at mem
    rcases List.mem_append.mp mem with new | mem
    · obtain ⟨c', among, same⟩ := List.mem_map.mp (List.mem_reverse.mp new)
      cases same
      exact ⟨taken, tells, [], taken, among,
        goes_takeDown (r := r.called registry) (Nat.lt_succ_self _) tidy.vacant tidy.own_fresh⟩
    · exact old mem
  | @ended n c' outcome t there waits =>
    rw [← mem_takers, (calm_await _).takers, mem_takers] at mem
    exact old ((List.mem_cons.mp mem).resolve_left nofun)

/-- Every connection put in is registered, and no call took it out, or one call did. The connections
offered are put in under their own ids. -/
structure Kept (stationId : κ → String) (offered : List κ) (r : Run κ) : Prop where
  known : ∀ n id c, .added n id c ∈ r.history → c ∈ offered ∧ stationId c = id
  put : ∀ id c, (id, c) ∈ r.registry.entries → ∃ n, .added n id c ∈ r.history
  fate : ∀ n id c, .added n id c ∈ r.history →
    (id, c) ∈ r.registry.entries ∧ takers c r.history = [] ∨
      (id, c) ∉ r.registry.entries ∧ ∃ call, takers c r.history = [call]
  idle : ∀ c, c ∉ offered → takers c r.history = []

namespace Kept

variable {stationId : κ → String} {offered : List κ}

/-- A run that has not begun has registered nothing. -/
theorem new : Kept stationId [] ({} : Run κ) where
  known _ _ _ mem := nomatch mem
  put _ _ mem := nomatch mem
  fate _ _ _ mem := nomatch mem
  idle _ _ := rfl

/-- A connection is registered under its own id. -/
theorem keyed (kept : Kept stationId offered r) {id : String} {c : κ}
    (there : (id, c) ∈ r.registry.entries) : stationId c = id := by
  obtain ⟨n, added⟩ := kept.put id c there
  exact (kept.known n id c added).2

/-- A step in which nothing is put in or taken out keeps the custody of every connection. -/
theorem calm (kept : Kept stationId offered r) (calm : Calm r r') : Kept stationId offered r' where
  known n id c mem := kept.known n id c ((calm.added n id c).mp mem)
  put id c there := by
    rw [calm.registry] at there
    obtain ⟨n, mem⟩ := kept.put id c there
    exact ⟨n, (calm.added n id c).mpr mem⟩
  fate n id c mem := by
    rw [calm.registry, calm.takers]
    exact kept.fate n id c ((calm.added n id c).mp mem)
  idle c new := (calm.takers c).trans (kept.idle c new)

/-- One more connection may be offered without being put in. -/
theorem more (kept : Kept stationId offered r) (c : κ) : Kept stationId (offered ++ [c]) r where
  known n id c mem := ⟨List.mem_append_left _ (kept.known n id c mem).1, (kept.known n id c mem).2⟩
  put := kept.put
  fate := kept.fate
  idle c new := kept.idle c fun mem => new (List.mem_append_left _ mem)

/-- A connection that was not offered before is put in under its own id. -/
theorem add (kept : Kept stationId offered r) {registry : Registry κ} {id : String} {c : κ}
    (entries : registry.entries = r.registry.entries ++ [(id, c)]) (keyed : id = stationId c)
    (new : c ∉ offered) :
    Kept stationId (offered ++ [c])
      (r.atOnce registry [.returned r.fresh (.ok ()), .added r.fresh id c]) := by
  have same (c' : κ) : takers c' (r.atOnce registry
      [.returned r.fresh (.ok ()), .added r.fresh id c]).history = takers c' r.history := rfl
  have added {n : Nat} {id' : String} {c' : κ} (mem : .added n id' c' ∈ (r.atOnce registry
      [.returned r.fresh (.ok ()), .added r.fresh id c]).history) :
      (n = r.fresh ∧ id' = id ∧ c' = c) ∨ .added n id' c' ∈ r.history := by
    simpa [atOnce] using mem
  refine ⟨fun n id' c' mem => ?_, fun id' c' there => ?_, fun n id' c' mem => ?_, fun c' out => ?_⟩
  · rcases added mem with ⟨rfl, rfl, rfl⟩ | mem
    · exact ⟨List.mem_append_right _ List.mem_cons_self, keyed.symm⟩
    · obtain ⟨there, own⟩ := kept.known n id' c' mem
      exact ⟨List.mem_append_left _ there, own⟩
  · have there : (id', c') ∈ registry.entries := there
    rw [entries] at there
    rcases List.mem_append.mp there with there | last
    · obtain ⟨n, mem⟩ := kept.put id' c' there
      exact ⟨n, List.mem_append_right _ mem⟩
    · cases List.mem_singleton.mp last
      exact ⟨r.fresh, by simp [atOnce]⟩
  · have fate : (id', c') ∈ registry.entries ∧ takers c' r.history = [] ∨
        (id', c') ∉ registry.entries ∧ ∃ call, takers c' r.history = [call] := by
      rw [entries]
      rcases added mem with ⟨rfl, rfl, rfl⟩ | mem
      · exact .inl ⟨List.mem_append_right _ List.mem_cons_self, kept.idle c' new⟩
      · rcases kept.fate n id' c' mem with ⟨there, none_⟩ | ⟨gone, taker⟩
        · exact .inl ⟨List.mem_append_left _ there, none_⟩
        · refine .inr ⟨fun there => ?_, taker⟩
          rcases List.mem_append.mp there with there | last
          · exact gone there
          · cases List.mem_singleton.mp last
            exact new (kept.known n id c mem).1
    exact fate
  · exact kept.idle c' fun mem => out (List.mem_append_left _ mem)

/-- A call takes out connections that are registered, each once. -/
theorem takeDown (kept : Kept stationId offered r) {registry : Registry κ} {taken : List κ}
    (once : taken.Nodup) (listed : ∀ c ∈ taken, ∃ id, (id, c) ∈ r.registry.entries)
    (rest : ∀ id c, (id, c) ∈ registry.entries ↔ (id, c) ∈ r.registry.entries ∧ c ∉ taken)
    (tells : Bool) :
    Kept stationId offered ((r.called registry).takeDown r.fresh taken tells) := by
  rw [takeDown_eq]
  refine Kept.calm ?_ (calm_await _)
  have whole (c : κ) : takers c ((taken.map (.disconnecting r.fresh)).reverse ++ r.history) =
      (if c ∈ taken then [r.fresh] else []) ++ takers c r.history := by
    rw [takers_append, takers_begun c once]
  have added {n : Nat} {id : String} {c : κ}
      (mem : .added n id c ∈ (taken.map (.disconnecting r.fresh)).reverse ++ r.history) :
      .added n id c ∈ r.history := by
    simpa using mem
  refine ⟨fun n id c mem => kept.known n id c (added mem), fun id c there => ?_,
    fun n id c mem => ?_, fun c out => ?_⟩
  · obtain ⟨n, mem⟩ := kept.put id c ((rest id c).mp there).1
    exact ⟨n, List.mem_append_right _ mem⟩
  · have own := (kept.known n id c (added mem)).2
    have fate : (id, c) ∈ registry.entries ∧
          (if c ∈ taken then [r.fresh] else []) ++ takers c r.history = [] ∨
        (id, c) ∉ registry.entries ∧
          ∃ call, (if c ∈ taken then [r.fresh] else []) ++ takers c r.history = [call] := by
      rw [rest]
      by_cases among : c ∈ taken
      · obtain ⟨id', there⟩ := listed c among
        obtain rfl : id' = id := (kept.keyed there).symm.trans own
        rcases kept.fate n id' c (added mem) with ⟨-, none_⟩ | ⟨gone, -⟩
        · exact .inr ⟨fun still => still.2 among, r.fresh, by rw [if_pos among, none_]; rfl⟩
        · exact absurd there gone
      · rw [if_neg among, List.nil_append]
        rcases kept.fate n id c (added mem) with ⟨there, none_⟩ | ⟨gone, taker⟩
        · exact .inl ⟨⟨there, among⟩, none_⟩
        · exact .inr ⟨fun still => gone still.1, taker⟩
    rw [← whole] at fate
    exact fate
  · have among : c ∉ taken := by
      intro among
      obtain ⟨id, there⟩ := listed c among
      obtain ⟨n, mem⟩ := kept.put id c there
      exact out (kept.known n id c mem).1
    exact (whole c).trans (by rw [if_neg among, List.nil_append, kept.idle c out])

/-- Every step keeps the custody of every connection. What is put in was never offered before, so no
call has taken it out. -/
theorem step (kept : Kept stationId offered r) {a : Action κ}
    (keyed : ∀ id c, a = .add id c → id = stationId c) (new : ∀ c, a.offered? = some c → c ∉ offered)
    (stepped : r.step a = some r') : Kept stationId (offered ++ a.offered?.toList) r' := by
  cases a with
  | add id c =>
    cases stepped
    cases found : r.registry.get? id with
    | none =>
      obtain ⟨registry, entries, eq⟩ := add_of_missing found c
      exact eq ▸ kept.add entries (keyed id c rfl) (new c rfl)
    | some c' =>
      refine (kept.more c).calm ?_
      rw [add_of_there found c]
      exact ⟨rfl, by simp [atOnce, called], fun c => rfl⟩
  | remove id =>
    cases stepped
    refine (List.append_nil offered).symm ▸ ?_
    cases found : r.registry.get? id with
    | none =>
      refine kept.calm ?_
      rw [remove_of_missing found]
      exact ⟨rfl, by simp [atOnce, called], fun c => rfl⟩
    | some c =>
      have there := Registry.mem_of_get? found
      rw [remove_of_there found]
      refine kept.takeDown (List.nodup_singleton c) ?_ ?_ false
      · rintro c' among
        cases List.mem_singleton.mp among
        exact ⟨id, there⟩
      · intro id' c'
        rw [Registry.mem_erase, List.mem_singleton]
        refine and_congr_right fun there' => not_congr ⟨?_, ?_⟩
        · rintro rfl
          exact Registry.unique there' there
        · rintro rfl
          exact (kept.keyed there').symm.trans (kept.keyed there)
  | disconnectAll =>
    cases stepped
    refine (List.append_nil offered).symm ▸ ?_
    refine kept.takeDown ?_ ?_ ?_ true
    · -- Entries of one connection have one id.
      refine List.Nodup.of_map stationId ?_
      have ids : (r.registry.entries.map (·.2)).map stationId = r.registry.entries.map (·.1) := by
        rw [List.map_map]
        exact List.map_congr_left fun e mem => kept.keyed mem
      exact ids ▸ r.registry.nodup
    · intro c among
      obtain ⟨⟨id, _⟩, there, rfl⟩ := List.mem_map.mp among
      exact ⟨id, there⟩
    · intro id c
      refine ⟨fun mem => absurd mem List.not_mem_nil, fun still => ?_⟩
      exact absurd (List.mem_map_of_mem still.1) still.2
  | ended n c outcome =>
    obtain ⟨t, -, -, rfl⟩ := ended_cases stepped
    refine (List.append_nil offered).symm ▸ Kept.calm (kept.calm ?_) (calm_await _)
    exact ⟨rfl, by simp [resumed], fun c => rfl⟩

end Kept

/-! ## Runs -/

/-- The run after a list of actions; none where one of them is not possible. -/
def after (r : Run κ) (as : List (Action κ)) : Option (Run κ) := as.foldlM step r

/-- A run over two lists is a run over the first and then over the second. -/
theorem after_append (r : Run κ) (before rest : List (Action κ)) :
    r.after (before ++ rest) = (r.after before).bind (·.after rest) := List.foldlM_append

/-- Something that every step keeps holds to the end of a run. -/
theorem after_induction {P : Run κ → Prop}
    (keeps : ∀ {r a r'}, P r → r.step a = some r' → P r') {as : List (Action κ)}
    (holds : P r) (run : r.after as = some r') : P r' := by
  induction as generalizing r with
  | nil => cases run; exact holds
  | cons a as ih =>
    obtain ⟨next, stepped, rest⟩ := Option.bind_eq_some_iff.mp run
    exact ih (keeps holds stepped) rest

/-- In every run the calls are told apart by their numbers. -/
theorem tidy_of_run {as : List (Action κ)} (run : after {} as = some r) : Tidy r :=
  after_induction (P := Tidy) (fun tidy stepped => tidy.step stepped) tidy_new run

/-- In every run a call that took a connection out disconnects it. -/
theorem led_of_run {as : List (Action κ)} (run : after {} as = some r) : Led r := by
  have both : Tidy r ∧ Led r :=
    after_induction (P := fun r => Tidy r ∧ Led r)
      (fun ⟨tidy, led⟩ stepped => ⟨tidy.step stepped, led.step tidy stepped⟩)
      ⟨tidy_new, fun _ _ mem => nomatch mem⟩ run
  exact both.2

/-- A call that took connections out stays such a call to the end of a run. -/
theorem Goes.after {taken left : List κ} {tells : Bool} {ends : List (κ × Outcome)}
    {as : List (Action κ)} (goes : Goes r call taken tells ends left) (run : r.after as = some r') :
    ∃ ends left, Goes r' call taken tells ends left :=
  after_induction (P := fun r => ∃ ends left, Goes r call taken tells ends left)
    (fun ⟨_, _, goes⟩ stepped => goes.step stepped) ⟨ends, left, goes⟩ run

/-- A call that ended at once does nothing more. -/
theorem own_atOnce_after {registry : Registry κ} {did : List (Happening κ)} {as : List (Action κ)}
    (tidy : Tidy r) (its : ∀ h ∈ did, h.call = r.fresh)
    (run : (r.atOnce registry did).after as = some r') : own r.fresh r'.history = did := by
  have rests : r.fresh < r'.fresh ∧ (∀ t, (r.fresh, t) ∉ r'.pending) ∧
      own r.fresh r'.history = did := by
    refine after_induction (P := fun now => r.fresh < now.fresh ∧
      (∀ t, (r.fresh, t) ∉ now.pending) ∧ own r.fresh now.history = did) ?_ ?_ run
    · rintro now a next ⟨older, vacant, same⟩ stepped
      have untouched : Untouched now next r.fresh := by
        refine untouched_of_step stepped older ?_
        rintro c outcome rfl
        obtain ⟨t, there, -⟩ := ended_cases stepped
        exact vacant t there
      exact ⟨Nat.lt_of_lt_of_le older (fresh_of_step stepped),
        fun t mem => vacant t ((untouched.waits t).mp mem), untouched.did.trans same⟩
    · refine ⟨Nat.lt_succ_self _, tidy.vacant, ?_⟩
      have all : own r.fresh did = did :=
        List.filter_eq_self.mpr fun h mem => beq_iff_eq.mpr (its h mem)
      exact (own_append r.fresh did r.history).trans (by rw [all, tidy.own_fresh, List.append_nil])
  exact rests.2.2

/-- A run keeps the custody of every connection, if what it offers was never offered before and each
connection comes with its own id. -/
theorem Kept.after {stationId : κ → String} {offered : List κ} {as : List (Action κ)}
    (kept : Kept stationId offered r) (keyed : ∀ id c, .add id c ∈ as → id = stationId c)
    (once : (offered ++ as.filterMap Action.offered?).Nodup) (run : r.after as = some r') :
    Kept stationId (offered ++ as.filterMap Action.offered?) r' := by
  induction as generalizing r offered with
  | nil =>
    cases run
    exact (List.append_nil offered).symm ▸ kept
  | cons a as ih =>
    obtain ⟨next, stepped, rest⟩ := Option.bind_eq_some_iff.mp run
    have whole : offered ++ (a :: as).filterMap Action.offered? =
        offered ++ a.offered?.toList ++ as.filterMap Action.offered? := by
      cases offers : a.offered? <;> simp [offers]
    rw [whole] at once ⊢
    refine ih (kept.step ?_ ?_ stepped) (fun id c mem => keyed id c (List.mem_cons_of_mem _ mem))
      once rest
    · rintro id c rfl
      exact keyed id c List.mem_cons_self
    · intro c offers mem
      have apart := (List.nodup_append.mp (List.nodup_append.mp once).1).2.2
      exact apart c mem c (by simp [offers]) rfl

/-- Every run from the beginning keeps the custody of every connection. -/
theorem kept_of_run {stationId : κ → String} {as : List (Action κ)}
    (keyed : ∀ id c, .add id c ∈ as → id = stationId c)
    (once : (as.filterMap Action.offered?).Nodup) (run : after {} as = some r) :
    Kept stationId (as.filterMap Action.offered?) r :=
  Kept.after Kept.new keyed once run

/-- What a call did, in the step in which it was made and until now. What is refused changes
nothing. -/
def Does (made next now : Run κ) : Action κ → Prop
  | .add id c =>
    match made.registry.get? id with
    | none =>
      next.registry.entries = made.registry.entries ++ [(id, c)] ∧ next.pending = made.pending ∧
        own made.fresh now.history = [.returned made.fresh (.ok ()), .added made.fresh id c]
    | some _ =>
      next.registry = made.registry ∧ next.pending = made.pending ∧
        own made.fresh now.history = [.returned made.fresh (.error (.alreadyExists id))]
  | .remove id =>
    match made.registry.get? id with
    | none =>
      next.registry = made.registry ∧ next.pending = made.pending ∧
        own made.fresh now.history = [.returned made.fresh (.error (.notFound id))]
    | some c =>
      next.registry = made.registry.erase id ∧
        ∃ ends left, Goes now made.fresh [c] false ends left
  | .disconnectAll =>
    next.registry.entries = [] ∧
      ∃ ends left, Goes now made.fresh (made.registry.entries.map (·.2)) true ends left
  | .ended _ _ _ => next.registry = made.registry

/-- What a call did can be read off any later moment of the run. A call that ends at once is
complete in its own step, and one that takes connections out goes on from there. -/
theorem does_of_step {made next now : Run κ} {a : Action κ} {rest : List (Action κ)}
    (tidy : Tidy made) (stepped : made.step a = some next) (run : next.after rest = some now) :
    Does made next now a := by
  have taking {registry : Registry κ} {taken : List κ} {tells : Bool}
      (eq : next = (made.called registry).takeDown made.fresh taken tells) :
      next.registry = registry ∧ ∃ ends left, Goes now made.fresh taken tells ends left := by
    have goes : Goes next made.fresh taken tells [] taken := by
      rw [eq]
      exact goes_takeDown (r := made.called registry) (Nat.lt_succ_self _) tidy.vacant tidy.own_fresh
    refine ⟨?_, goes.after run⟩
    rw [eq, takeDown_eq, (await_frame _).1]
    rfl
  cases a with
  | add id c =>
    cases stepped
    unfold Does
    dsimp only
    cases found : made.registry.get? id with
    | none =>
      obtain ⟨registry, entries, eq⟩ := add_of_missing found c
      rw [eq] at run ⊢
      exact ⟨entries, rfl, own_atOnce_after tidy (by simp [Happening.call]) run⟩
    | some c' =>
      rw [add_of_there found c] at run ⊢
      exact ⟨rfl, rfl, own_atOnce_after tidy (by simp [Happening.call]) run⟩
  | remove id =>
    cases stepped
    unfold Does
    dsimp only
    cases found : made.registry.get? id with
    | none =>
      rw [remove_of_missing found] at run ⊢
      exact ⟨rfl, rfl, own_atOnce_after tidy (by simp [Happening.call]) run⟩
    | some c => exact taking (remove_of_there found)
  | disconnectAll =>
    cases stepped
    have taken : made.disconnectAll = (made.called .empty).takeDown made.fresh
        (made.registry.entries.map (·.2)) true := rfl
    obtain ⟨registry, goes⟩ := taking taken
    exact ⟨by rw [registry]; rfl, goes⟩
  | ended n c outcome =>
    obtain ⟨t, -, -, rfl⟩ := ended_cases stepped
    exact (await_frame _).1

/-- **Custody.** Where every connection is put in once and under its own id, the entries are under
their own ids. A connection that was put in is registered and no call began to disconnect it, or it
is not registered, then or later, and one call began to disconnect it, once; this call returns when
the disconnects of all it took out have ended. What each call does to the entries, what it
disconnects and what it returns is as `Does` says, whatever comes before it and after it. -/
theorem custody (stationId : κ → String) {as : List (Action κ)} {now : Run κ}
    (keyed : ∀ id c, .add id c ∈ as → id = stationId c)
    (once : (as.filterMap Action.offered?).Nodup) (run : after {} as = some now) :
    (∀ id c, (id, c) ∈ now.registry.entries → stationId c = id) ∧
    (∀ n id c, .added n id c ∈ now.history →
      (id, c) ∈ now.registry.entries ∧ takers c now.history = [] ∨
      (id, c) ∉ now.registry.entries ∧ ∃ call taken tells ends left,
        takers c now.history = [call] ∧ c ∈ taken ∧ Goes now call taken tells ends left) ∧
    (∀ before rest made, as = before ++ rest → after {} before = some made →
      ∀ n id c, .added n id c ∈ made.history → (id, c) ∉ made.registry.entries →
        (id, c) ∉ now.registry.entries) ∧
    (∀ before a rest made next, as = before ++ a :: rest → after {} before = some made →
      made.step a = some next → Does made next now a) := by
  have kept := kept_of_run keyed once run
  have led := led_of_run run
  refine ⟨fun id c there => kept.keyed there, fun n id c mem => ?_, ?_, ?_⟩
  · rcases kept.fate n id c mem with stays | ⟨gone, call, taker⟩
    · exact .inl stays
    · obtain ⟨taken, tells, ends, left, among, goes⟩ := led c call (by rw [taker]; simp)
      exact .inr ⟨gone, call, taken, tells, ends, left, taker, among, goes⟩
  · rintro before rest made rfl ran n id c mem gone there
    rw [after_append, ran, Option.bind_some] at run
    rw [List.filterMap_append] at once
    have earlier : Kept stationId (before.filterMap Action.offered?) made :=
      kept_of_run (fun id c mem => keyed id c (List.mem_append_left _ mem))
        (List.nodup_append.mp once).1 ran
    have lasts {h : Happening κ} (mem : h ∈ made.history) : h ∈ now.history :=
      after_induction (P := fun r => h ∈ r.history) (fun mem stepped => mem_of_step stepped mem) mem
        run
    obtain ⟨call, taker⟩ := ((earlier.fate n id c mem).resolve_left fun stays => gone stays.1).2
    have taken : call ∈ takers c made.history := by rw [taker]; exact List.mem_singleton_self _
    have still := mem_takers.mpr (lasts (mem_takers.mp taken))
    rcases kept.fate n id c (lasts mem) with ⟨-, none_⟩ | ⟨gone', -⟩
    · rw [none_] at still
      exact nomatch still
    · exact gone' there
  · rintro before a rest made next rfl ran stepped
    rw [after_append, ran, Option.bind_some] at run
    obtain ⟨next', stepped', rest⟩ := Option.bind_eq_some_iff.mp run
    obtain rfl : next = next' := Option.some.inj (stepped.symm.trans stepped')
    exact does_of_step (tidy_of_run ran) stepped rest

/-- A station is removed and added anew, all are disconnected, and one is added once more; the
disconnects end in another order than they began, two of them with an error. -/
def replaced : List (Action (String × Nat)) :=
  [.add "a" ("a", 0), .remove "a", .add "a" ("a", 1), .add "b" ("b", 0), .disconnectAll,
    .add "a" ("a", 2), .ended 4 ("a", 1) (.error .closed), .ended 1 ("a", 0) (.error .closed),
    .ended 4 ("b", 0) (.ok ())]

/-- The removal succeeded, one of two disconnects failed, and the last connection stayed. -/
theorem replaced_keeps_custody : ∃ now, after {} replaced = some now ∧
    now.result? 1 = some (.ok ()) ∧ now.result? 4 = some (.error (.partly 1 2)) ∧
    now.registry.entries = [("a", ("a", 2))] ∧
    ∀ n id c, .added n id c ∈ now.history →
      (id, c) ∈ now.registry.entries ∧ takers c now.history = [] ∨
      (id, c) ∉ now.registry.entries ∧ ∃ call taken tells ends left,
        takers c now.history = [call] ∧ c ∈ taken ∧ Goes now call taken tells ends left := by
  have ran : (after {} replaced).map (fun now => now.result? 1 == some (.ok ()) &&
      now.result? 4 == some (.error (.partly 1 2)) &&
      now.registry.entries == [("a", ("a", 2))]) = some true := by
    decide +kernel
  obtain ⟨now, run, outcome⟩ := Option.map_eq_some_iff.mp ran
  simp only [Bool.and_eq_true, beq_iff_eq] at outcome
  obtain ⟨⟨first, second⟩, entries⟩ := outcome
  have keyed : ∀ id (c : String × Nat), .add id c ∈ replaced → id = c.1 := by
    intro id c mem
    simp only [replaced, List.mem_cons, Action.add.injEq, reduceCtorEq, List.not_mem_nil, or_false,
      false_or] at mem
    rcases mem with ⟨rfl, rfl⟩ | ⟨rfl, rfl⟩ | ⟨rfl, rfl⟩ | ⟨rfl, rfl⟩ <;> rfl
  exact ⟨now, run, first, second, entries, (custody (·.1) keyed (by decide) run).2.1⟩

end Run

end StationPool.Registry
