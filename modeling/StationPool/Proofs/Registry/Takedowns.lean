import StationPool.Proofs.Registry.Entries
import StationPool.Registry.Run

/-!
# The calls of a registry

What a call did is its part of the history (`own`), and only its own steps add to it. A call that
took connections out has begun to disconnect all of them; `Goes` says how many of the disconnects
have ended, and what the call returned once none is left. Every step keeps that (`Goes.step`).
-/

namespace StationPool.Registry

variable {κ : Type}

/-- The call that something happened in. -/
def Happening.call : Happening κ → Nat
  | .added n _ _ | .disconnecting n _ | .disconnected n _ _ | .returned n _ => n

/-- What happened in a call, the last first. -/
def own (call : Nat) (history : List (Happening κ)) : List (Happening κ) :=
  history.filter (·.call == call)

namespace Run

variable {r r' : Run κ} {call : Nat}

/-! ## The calls -/

/-- Calls are told apart by their numbers. -/
structure Tidy (r : Run κ) : Prop where
  past : ∀ h ∈ r.history, h.call < r.fresh
  going : ∀ n t, (n, t) ∈ r.pending → n < r.fresh
  once : (r.pending.map (·.1)).Nodup

/-- A run that has not begun has no calls to tell apart. -/
theorem tidy_new : Tidy ({} : Run κ) where
  past _ mem := nomatch mem
  going _ _ mem := nomatch mem
  once := List.nodup_nil

/-- The disconnects that failed. -/
def failures (ends : List (κ × Outcome)) : Nat := ends.countP (·.2.toOption.isNone)

/-- What a call returns that took connections out: that disconnects failed, if it tells that. -/
def told (tells : Bool) (failed attempted : Nat) : Except PoolError Unit :=
  if tells = true ∧ failed ≠ 0 then .error (.partly failed attempted) else .ok ()

/-- How far a call is that took connections out: some of the disconnects have ended, and it waits
for those left or has returned. -/
structure Goes (r : Run κ) (call : Nat) (taken : List κ) (tells : Bool)
    (ends : List (κ × Outcome)) (left : List κ) : Prop where
  older : call < r.fresh
  whole : (ends.map (·.1) ++ left).Perm taken
  did : own call r.history =
    (if left = [] then
      [.returned call (told tells (failures ends) taken.length)] else []) ++
    ends.map (fun e => .disconnected call e.1 e.2) ++ (taken.map (.disconnecting call)).reverse
  waits : ∀ t, (call, t) ∈ r.pending ↔ left ≠ [] ∧ t = ⟨left, failures ends, taken.length, tells⟩

/-- Nothing happened to a call. -/
structure Untouched (r r' : Run κ) (call : Nat) : Prop where
  did : own call r'.history = own call r.history
  waits : ∀ t, (call, t) ∈ r'.pending ↔ (call, t) ∈ r.pending

/-- What is newest belongs to the call it names. -/
theorem own_cons (n : Nat) (h : Happening κ) (history : List (Happening κ)) :
    own n (h :: history) = if h.call = n then h :: own n history else own n history := by
  by_cases same : h.call = n <;> simp [own, same]

/-- What a call did in a longer history is what it did later and what it did before. -/
theorem own_append (n : Nat) (later history : List (Happening κ)) :
    own n (later ++ history) = own n later ++ own n history := List.filter_append ..

/-- The call made next has done nothing. -/
theorem Tidy.own_fresh (tidy : Tidy r) : own r.fresh r.history = [] := by
  refine List.filter_eq_nil_iff.mpr fun h mem => ?_
  have := tidy.past h mem
  simp only [beq_iff_eq]
  omega

/-- The call made next waits for nothing. -/
theorem Tidy.vacant (tidy : Tidy r) (t : Takedown κ) : (r.fresh, t) ∉ r.pending :=
  fun mem => Nat.lt_irrefl _ (tidy.going _ t mem)

/-! ### Waiting -/

/-- A call that has nothing left to wait for returns at once. -/
theorem await_nil {t : Takedown κ} (none_ : t.awaiting = []) :
    r.await call t = r.answer call (told t.tells t.failed t.attempted) := by
  cases tells : t.tells <;> by_cases sound : t.failed = 0 <;>
    simp [await, Takedown.result, none_, told, summary, tells, sound]

/-- A call that has something left to wait for is pending. -/
theorem await_cons {t : Takedown κ} (some_ : t.awaiting ≠ []) :
    r.await call t = { r with pending := r.pending ++ [(call, t)] } := by
  simp [await, Takedown.result, some_]

/-- To wait or to return changes neither the registry nor the numbers of calls. -/
theorem await_frame (t : Takedown κ) :
    (r.await call t).registry = r.registry ∧ (r.await call t).fresh = r.fresh := by
  unfold await
  split <;> exact ⟨rfl, rfl⟩

/-- What was written down stays written down while a call waits or returns. -/
theorem mem_await {h : Happening κ} (mem : h ∈ r.history) (t : Takedown κ) :
    h ∈ (r.await call t).history := by
  by_cases none_ : t.awaiting = []
  · rw [await_nil none_]
    exact List.mem_cons_of_mem _ mem
  · rw [await_cons none_]
    exact mem

/-- A call that waits or returns keeps the calls apart, as long as it was not pending before. -/
theorem Tidy.await (tidy : Tidy r) (older : call < r.fresh) (free : ∀ t, (call, t) ∉ r.pending)
    (t : Takedown κ) : Tidy (r.await call t) := by
  by_cases none_ : t.awaiting = []
  · rw [await_nil none_]
    refine ⟨fun h mem => ?_, tidy.going, tidy.once⟩
    rcases List.mem_cons.mp mem with rfl | mem
    · exact older
    · exact tidy.past h mem
  · rw [await_cons none_]
    refine ⟨tidy.past, fun n t' mem => ?_, ?_⟩
    · rcases List.mem_append.mp mem with mem | mem
      · exact tidy.going n t' mem
      · cases List.mem_singleton.mp mem
        exact older
    · rw [List.map_append]
      refine List.nodup_append.mpr ⟨tidy.once, List.nodup_singleton _, ?_⟩
      rintro n mem _ last rfl
      obtain ⟨⟨n, t'⟩, there, rfl⟩ := List.mem_map.mp mem
      obtain rfl : n = call := List.mem_singleton.mp last
      exact free t' there

/-- Where one call waits or returns, nothing happens to the others. -/
theorem untouched_await {n : Nat} (other : call ≠ n) (t : Takedown κ) :
    Untouched r (r.await call t) n := by
  by_cases none_ : t.awaiting = []
  · rw [await_nil none_]
    exact ⟨(own_cons n _ _).trans (if_neg other), fun _ => .rfl⟩
  · rw [await_cons none_]
    refine ⟨rfl, fun t' => ?_⟩
    rw [List.mem_append, List.mem_singleton, Prod.mk.injEq]
    exact or_iff_left fun last => other last.1.symm

/-- A call goes on, or returns, with what is left of its disconnects. -/
theorem goes_await {taken left : List κ} {tells : Bool} {ends : List (κ × Outcome)}
    (older : call < r.fresh) (free : ∀ t, (call, t) ∉ r.pending)
    (whole : (ends.map (·.1) ++ left).Perm taken)
    (did : own call r.history =
      ends.map (fun e => .disconnected call e.1 e.2) ++ (taken.map (.disconnecting call)).reverse) :
    Goes (r.await call ⟨left, failures ends, taken.length, tells⟩) call taken tells ends left := by
  by_cases none_ : left = []
  · rw [await_nil none_]
    refine ⟨older, whole, ?_, fun t => ?_⟩
    · rw [if_pos none_]
      exact (own_cons call _ _).trans ((if_pos rfl).trans (congrArg _ did))
    · exact ⟨fun mem => absurd mem (free t), fun ⟨some_, _⟩ => absurd none_ some_⟩
  · rw [await_cons none_]
    refine ⟨older, whole, ?_, fun t => ?_⟩
    · rw [if_neg none_]
      exact did
    · rw [List.mem_append, List.mem_singleton, Prod.mk.injEq]
      constructor
      · rintro (mem | ⟨-, rfl⟩)
        · exact absurd mem (free t)
        · exact ⟨none_, rfl⟩
      · rintro ⟨-, rfl⟩
        exact .inr ⟨rfl, rfl⟩

/-! ### Taking out -/

/-- To take connections out is to begin the disconnect of each, in order, and then to wait for all
of them. -/
theorem takeDown_eq (r : Run κ) (call : Nat) (taken : List κ) (tells : Bool) :
    r.takeDown call taken tells =
      ({ r with history := (taken.map (.disconnecting call)).reverse ++ r.history } : Run κ).await
        call ⟨taken, 0, taken.length, tells⟩ := by
  have noted : taken.foldl (fun r c => r.note (.disconnecting call c)) r =
      { r with history := (taken.map (.disconnecting call)).reverse ++ r.history } := by
    induction taken generalizing r with
    | nil => rfl
    | cons c rest ih =>
      rw [List.foldl_cons, ih]
      simp [note]
  rw [takeDown, noted]
  rfl

/-- The disconnects that a call begins are all its own. -/
theorem own_begun (call : Nat) (taken : List κ) :
    own call (taken.map (Happening.disconnecting call)).reverse =
      (taken.map (Happening.disconnecting call)).reverse := by
  refine List.filter_eq_self.mpr fun h mem => ?_
  obtain ⟨c, -, rfl⟩ := List.mem_map.mp (List.mem_reverse.mp mem)
  exact beq_self_eq_true call

/-- A call that begins to take connections out has none of the disconnects behind it. If it took out
none it has returned. -/
theorem goes_takeDown {taken : List κ} {tells : Bool} (older : call < r.fresh)
    (free : ∀ t, (call, t) ∉ r.pending) (new : own call r.history = []) :
    Goes (r.takeDown call taken tells) call taken tells [] taken := by
  rw [takeDown_eq]
  have did : own call ((taken.map (.disconnecting call)).reverse ++ r.history) =
      ([] : List (κ × Outcome)).map (fun e => .disconnected call e.1 e.2) ++
        (taken.map (.disconnecting call)).reverse := by
    rw [own_append, own_begun, new, List.append_nil]
    rfl
  exact goes_await (r := { r with history := (taken.map (.disconnecting call)).reverse ++ r.history })
    older free (.refl _) did

/-- Where one call takes connections out, nothing happens to the others. -/
theorem untouched_takeDown {n : Nat} (other : call ≠ n) (taken : List κ) (tells : Bool) :
    Untouched r (r.takeDown call taken tells) n := by
  rw [takeDown_eq]
  obtain ⟨did, waits⟩ := untouched_await (r := { r with
    history := (taken.map (.disconnecting call)).reverse ++ r.history }) other
    ⟨taken, 0, taken.length, tells⟩
  have none_ : own n (taken.map (Happening.disconnecting call)).reverse = [] := by
    refine List.filter_eq_nil_iff.mpr fun h mem => ?_
    obtain ⟨c, -, rfl⟩ := List.mem_map.mp (List.mem_reverse.mp mem)
    exact fun same => other (beq_iff_eq.mp same)
  refine ⟨did.trans ?_, waits⟩
  rw [own_append, none_, List.nil_append]

/-- A call that takes connections out keeps the calls apart. -/
theorem Tidy.takeDown (tidy : Tidy r) (older : call < r.fresh)
    (free : ∀ t, (call, t) ∉ r.pending) (taken : List κ) (tells : Bool) :
    Tidy (r.takeDown call taken tells) := by
  rw [takeDown_eq]
  refine Tidy.await (r := { r with
    history := (taken.map (.disconnecting call)).reverse ++ r.history })
    ⟨fun h mem => ?_, tidy.going, tidy.once⟩ older free _
  rcases List.mem_append.mp mem with mem | mem
  · obtain ⟨c, -, rfl⟩ := List.mem_map.mp (List.mem_reverse.mp mem)
    exact older
  · exact tidy.past h mem

/-! ### Calls that end at once -/

/-- The run with one more call, which left the registry as given. -/
def called (r : Run κ) (registry : Registry κ) : Run κ :=
  { r with registry, fresh := r.fresh + 1 }

/-- One more call keeps the calls apart, whatever it leaves in the registry. -/
theorem Tidy.called (tidy : Tidy r) (registry : Registry κ) : Tidy (r.called registry) :=
  ⟨fun h mem => Nat.lt_succ_of_lt (tidy.past h mem),
    fun n t mem => Nat.lt_succ_of_lt (tidy.going n t mem), tidy.once⟩

/-- The run after a call that ended in the step in which it was made. -/
def atOnce (r : Run κ) (registry : Registry κ) (did : List (Happening κ)) : Run κ :=
  { r.called registry with history := did ++ r.history }

/-- A connection under an id that is not taken is put in at the end. -/
theorem add_of_missing {id : String} (missing : r.registry.get? id = none) (c : κ) :
    ∃ registry, registry.entries = r.registry.entries ++ [(id, c)] ∧
      r.add id c = r.atOnce registry [.returned r.fresh (.ok ()), .added r.fresh id c] := by
  obtain ⟨registry, added, entries⟩ := Registry.add_of_missing missing c
  refine ⟨registry, entries, ?_⟩
  simp only [add, added]
  rfl

/-- A connection under an id that is taken is refused, and the registry stays as it was. -/
theorem add_of_there {id : String} {c' : κ} (there : r.registry.get? id = some c') (c : κ) :
    r.add id c = r.atOnce r.registry [.returned r.fresh (.error (.alreadyExists id))] := by
  simp only [add, Registry.add_of_there there]
  rfl

/-- To remove an id that is not taken fails. -/
theorem remove_of_missing {id : String} (missing : r.registry.get? id = none) :
    r.remove id = r.atOnce r.registry [.returned r.fresh (.error (.notFound id))] := by
  simp only [remove, Registry.remove, missing]
  rfl

/-- To remove an id takes its connection out at once. The disconnect follows. -/
theorem remove_of_there {id : String} {c : κ} (there : r.registry.get? id = some c) :
    r.remove id = (r.called (r.registry.erase id)).takeDown r.fresh [c] false := by
  simp only [remove, Registry.remove, there]
  rfl

/-- A call that ends in the step in which it is made keeps the calls apart. -/
theorem Tidy.atOnce (tidy : Tidy r) (registry : Registry κ) {did : List (Happening κ)}
    (its : ∀ h ∈ did, h.call = r.fresh) : Tidy (r.atOnce registry did) := by
  refine ⟨fun h mem => ?_, (tidy.called registry).going, tidy.once⟩
  rcases List.mem_append.mp mem with mem | mem
  · exact Nat.lt_succ_of_le (Nat.le_of_eq (its h mem))
  · exact (tidy.called registry).past h mem

/-- A call that ends in the step in which it is made does nothing to those made before. -/
theorem untouched_atOnce (registry : Registry κ) {did : List (Happening κ)}
    (its : ∀ h ∈ did, h.call = r.fresh) (older : call < r.fresh) :
    Untouched r (r.atOnce registry did) call := by
  have none_ : own call did = [] := by
    refine List.filter_eq_nil_iff.mpr fun h mem same => ?_
    have := its h mem
    have := beq_iff_eq.mp same
    omega
  refine ⟨?_, fun _ => .rfl⟩
  rw [Run.atOnce, own_append, none_, List.nil_append]

/-- The run after a disconnect ended, before the call that waited for it goes on. -/
def resumed (r : Run κ) (call : Nat) (c : κ) (outcome : Outcome) : Run κ :=
  { r with
    pending := r.pending.filter (·.1 != call)
    history := .disconnected call c outcome :: r.history }

/-- A call whose disconnect ended is not pending until it waits again. -/
theorem resumed_vacant (c : κ) (outcome : Outcome) (t : Takedown κ) :
    (call, t) ∉ (r.resumed call c outcome).pending := by
  simp [resumed]

/-- A disconnect that ends keeps the calls apart. -/
theorem Tidy.resumed (tidy : Tidy r) (older : call < r.fresh) (c : κ) (outcome : Outcome) :
    Tidy (r.resumed call c outcome) where
  past h mem := by
    rcases List.mem_cons.mp mem with rfl | mem
    · exact older
    · exact tidy.past h mem
  going n t mem := tidy.going n t (List.mem_filter.mp mem).1
  once := (List.filter_sublist.map _).nodup tidy.once

variable [DecidableEq κ]

/-! ### Steps -/

/-- A disconnect can end only for a call that waits for it. -/
theorem ended_cases {c : κ} {outcome : Outcome} (ended : r.ended call c outcome = some r') :
    ∃ t, (call, t) ∈ r.pending ∧ c ∈ t.awaiting ∧
      r' = (r.resumed call c outcome).await call (t.ended c outcome) := by
  obtain ⟨⟨n, t⟩, found, rfl⟩ := Option.map_eq_some_iff.mp ended
  obtain ⟨found, waits⟩ := Option.filter_eq_some_iff.mp found
  obtain rfl : n = call := by simpa using List.find?_some found
  exact ⟨t, List.mem_of_find?_eq_some found, by simpa using waits, rfl⟩

/-- What a step is. -/
inductive Turn (r : Run κ) : Action κ → Run κ → Prop where
  /-- A call was made and ended. -/
  | atOnce {a : Action κ} {registry : Registry κ} {did : List (Happening κ)}
      (its : ∀ h ∈ did, h.call = r.fresh) (idle : ∀ c, .disconnecting r.fresh c ∉ did) :
      Turn r a (r.atOnce registry did)
  /-- A call took connections out. -/
  | takeDown {a : Action κ} {registry : Registry κ} {taken : List κ} {tells : Bool} :
      Turn r a ((r.called registry).takeDown r.fresh taken tells)
  /-- A disconnect ended. -/
  | ended {n : Nat} {c : κ} {outcome : Outcome} {t : Takedown κ} (there : (n, t) ∈ r.pending)
      (waits : c ∈ t.awaiting) :
      Turn r (.ended n c outcome) ((r.resumed n c outcome).await n (t.ended c outcome))

/-- Every step is one of three turns: a call that ends at once, a call that takes connections out,
or a disconnect that ends. -/
theorem turn_of_step {a : Action κ} (stepped : r.step a = some r') : Turn r a r' := by
  cases a with
  | add id c =>
    cases stepped
    cases found : r.registry.get? id with
    | none =>
      obtain ⟨registry, -, eq⟩ := add_of_missing found c
      exact eq ▸ .atOnce (by simp [Happening.call]) (by simp)
    | some c' => exact add_of_there found c ▸ .atOnce (by simp [Happening.call]) (by simp)
  | remove id =>
    cases stepped
    cases found : r.registry.get? id with
    | none => exact remove_of_missing found ▸ .atOnce (by simp [Happening.call]) (by simp)
    | some c => exact remove_of_there found ▸ .takeDown
  | disconnectAll =>
    cases stepped
    exact .takeDown
  | ended n c outcome =>
    obtain ⟨t, there, waits, rfl⟩ := ended_cases stepped
    exact .ended there waits

/-- Every step keeps the calls apart. -/
theorem Tidy.step (tidy : Tidy r) {a : Action κ} (stepped : r.step a = some r') : Tidy r' := by
  cases turn_of_step stepped with
  | atOnce its _ => exact tidy.atOnce _ its
  | takeDown => exact (tidy.called _).takeDown (Nat.lt_succ_self _) tidy.vacant _ _
  | @ended n c outcome t there waits =>
    have older := tidy.going n t there
    exact (tidy.resumed older c outcome).await older (resumed_vacant c outcome) _

/-- A step that is not an end of one of its disconnects leaves a call as it is. -/
theorem untouched_of_step {a : Action κ} (stepped : r.step a = some r') (older : call < r.fresh)
    (other : ∀ c outcome, a ≠ .ended call c outcome) : Untouched r r' call := by
  cases turn_of_step stepped with
  | atOnce its _ => exact untouched_atOnce _ its older
  | @takeDown _ registry taken tells =>
    obtain ⟨did, waits⟩ := untouched_takeDown (r := r.called registry) (Nat.ne_of_gt older) taken
      tells
    exact ⟨did, waits⟩
  | @ended n c outcome t there waits =>
    have apart : n ≠ call := fun same => other c outcome (same ▸ rfl)
    obtain ⟨did, waits⟩ := untouched_await (r := r.resumed n c outcome) apart (t.ended c outcome)
    refine ⟨did.trans ((own_cons call _ _).trans (if_neg apart)), fun t' => (waits t').trans ?_⟩
    simp [resumed, Ne.symm apart]

/-- Numbers of calls are never given out again. -/
theorem fresh_of_step {a : Action κ} (stepped : r.step a = some r') : r.fresh ≤ r'.fresh := by
  cases turn_of_step stepped with
  | atOnce => exact Nat.le_succ _
  | takeDown =>
    rw [takeDown_eq, (await_frame _).2]
    exact Nat.le_succ _
  | ended =>
    rw [(await_frame _).2]
    exact Nat.le_refl _

/-- What was written down stays written down. -/
theorem mem_of_step {a : Action κ} (stepped : r.step a = some r') {h : Happening κ}
    (mem : h ∈ r.history) : h ∈ r'.history := by
  cases turn_of_step stepped with
  | atOnce => exact List.mem_append_right _ mem
  | takeDown =>
    rw [takeDown_eq]
    exact mem_await (List.mem_append_right _ mem) _
  | ended => exact mem_await (List.mem_cons_of_mem _ mem) _

/-- Every step brings a call that took connections out further, or does nothing to it. The
disconnect that ends is counted among the failures exactly if it failed. -/
theorem Goes.step {taken left : List κ} {tells : Bool} {ends : List (κ × Outcome)}
    (goes : Goes r call taken tells ends left) {a : Action κ} (stepped : r.step a = some r') :
    ∃ ends left, Goes r' call taken tells ends left := by
  by_cases own_end : ∃ c outcome, a = .ended call c outcome
  · obtain ⟨c, outcome, rfl⟩ := own_end
    obtain ⟨t, there, waits, rfl⟩ := ended_cases stepped
    obtain ⟨some_, rfl⟩ := (goes.waits t).mp there
    refine ⟨(c, outcome) :: ends, left.erase c, ?_⟩
    have counted : failures ((c, outcome) :: ends) =
        failures ends + if outcome.toOption.isNone then 1 else 0 := List.countP_cons
    have whole : (((c, outcome) :: ends).map (·.1) ++ left.erase c).Perm taken := by
      have moved := (List.perm_cons_erase waits).append_left (ends.map (·.1))
      exact (List.perm_middle.symm.trans moved.symm).trans goes.whole
    have did : own call (r.resumed call c outcome).history =
        ((c, outcome) :: ends).map (fun e => .disconnected call e.1 e.2) ++
          (taken.map (.disconnecting call)).reverse := by
      have earlier := goes.did
      rw [if_neg some_, List.nil_append] at earlier
      exact (own_cons call _ _).trans ((if_pos rfl).trans (congrArg _ earlier))
    have older : call < (r.resumed call c outcome).fresh := goes.older
    have next : Goes ((r.resumed call c outcome).await call
        ⟨left.erase c, failures ((c, outcome) :: ends), taken.length, tells⟩) call taken tells
        ((c, outcome) :: ends) (left.erase c) :=
      goes_await older (resumed_vacant c outcome) whole did
    rw [counted] at next
    exact next
  · have same := untouched_of_step stepped goes.older fun c outcome eq => own_end ⟨c, outcome, eq⟩
    exact ⟨ends, left, Nat.lt_of_lt_of_le goes.older (fresh_of_step stepped), goes.whole,
      same.did.trans goes.did, fun t => (same.waits t).trans (goes.waits t)⟩

end Run

end StationPool.Registry
