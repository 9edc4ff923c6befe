import StationPool.Proofs.Pool.Books

/-!
# What calls do to the books

The changes that a step of a pool is made of, as far as its books show them: connections go on by
themselves (`passes_quietly`), a call takes connections out and disconnects them (`takesDown`), or it
registers one (`add_cases`). After each the books agree (`TakesDown.passes`, `Registers.books`).
-/

namespace StationPool.Pool

open Connection (Ages Pledged)

variable {p p' : Pool} {n k call : Nat} {id : String}

/-! ## Going on -/

/-- A connect that was begun has the connection to itself, or has succeeded. -/
def Pledges (p : Pool) (link : LinkCall) : Prop :=
  ∃ c, p.connections[link.1]? = some c ∧ Pledged c link.2

/-- Every connection has aged. -/
def Aged (p p' : Pool) : Prop :=
  ∀ (k : Nat) (c : Connection), p.connections[k]? = some c →
    ∃ c', p'.connections[k]? = some c' ∧ Ages c c'

/-- Connections that stay as they are have aged. -/
theorem Books.aged_of_eq (b : Books p) (same : p'.connections = p.connections) : Aged p p' :=
  fun _ c at_ => ⟨c, same ▸ at_, .refl (b.sound c (List.mem_of_getElem? at_))⟩

/-- What was promised for a connect holds while the connections age. -/
theorem Aged.pledges {link : LinkCall} (aged : Aged p p') (pledges : p.Pledges link) :
    p'.Pledges link := by
  obtain ⟨c, at_, pledged⟩ := pledges
  obtain ⟨c', at', ages⟩ := aged _ c at_
  exact ⟨c', at', ages.pledged pledged⟩

/-- The outcome of a connect stays while the connections age. -/
theorem Aged.outcomeOf {link : LinkCall} (aged : Aged p p') (pledges : p.Pledges link) :
    p'.outcomeOf link = p.outcomeOf link := by
  obtain ⟨c, at_, pledged⟩ := pledges
  obtain ⟨c', at', ages⟩ := aged _ c at_
  rw [Pool.outcomeOf, Pool.outcomeOf, at_, at', Option.bind_some, Option.bind_some,
    ages.outcome _ pledged.asked]

/-- Nothing happens to the pool itself: connections take steps of their own, and calls wait. -/
theorem passes_quietly {connections : List Connection}
    (length : connections.length = p.connections.length)
    (each : ∀ (k : Nat) (c' : Connection), connections[k]? = some c' →
      ∃ c, p.connections[k]? = some c ∧ c'.Sound ∧ (c.state = .closed → c'.state = .closed) ∧
        c'.cancelled = c.cancelled) (now : Nat) (waiting : List (Nat × Waiting)) :
    Passes call p { p with connections, now, waiting } := by
  have back {k : Nat} {c : Connection} (at_ : p.connections[k]? = some c) :
      ∃ c', connections[k]? = some c' ∧ (c.state = .closed → c'.state = .closed) ∧
        c'.cancelled = c.cancelled := by
    have bound := (List.getElem?_eq_some_iff.mp at_).1
    rw [← length] at bound
    have at' := List.getElem?_eq_getElem bound
    obtain ⟨c₀, at₀, -, rest⟩ := each k _ at'
    cases at_.symm.trans at₀
    exact ⟨_, at', rest⟩
  refine {
    fresh := rfl, length, sound := ?sound, listed := fun _ => id, closed := ?closed,
    stays := ?stays, kept := fun _ => .inl, down := ?down, grown := ⟨[], rfl, ?grown⟩ }
  case sound =>
    intro c' mem
    obtain ⟨k, at'⟩ := List.mem_iff_getElem?.mp mem
    obtain ⟨c, -, sound, -⟩ := each k c' at'
    exact sound
  case closed =>
    intro k closed
    obtain ⟨c, at_, closed⟩ := at_of_closed closed
    obtain ⟨c', at', keeps, -⟩ := back at_
    exact (state_at (p := { p with connections, now, waiting }) at').trans (keeps closed)
  case stays =>
    intro k down
    obtain ⟨c, at_, down⟩ := at_of_isDown down
    obtain ⟨c', at', -, same⟩ := back at_
    exact (isDown_at (p := { p with connections, now, waiting }) at').trans (same.trans down)
  case down =>
    intro k down
    obtain ⟨c', at', down⟩ := at_of_isDown down
    obtain ⟨c, at_, -, -, same⟩ := each k c' at'
    exact .inl ((isDown_at at_).trans (same.symm.trans down))
  case grown =>
    exact fun h mem => absurd mem List.not_mem_nil

/-! ## Taking out -/

/-- Calls to connections change connections only. -/
theorem onLinks_frame (f : Connection → Connection) (links : List Nat) (p : Pool) :
    (p.onLinks f links).2 = { p with connections := (p.onLinks f links).2.connections } := by
  induction links generalizing p with
  | nil => rfl
  | cons j links ih =>
    cases at_ : p.connections[j]? with
    | none => simpa [onLinks, onLink, at_] using ih p
    | some c =>
      simpa [onLinks, onLink, at_] using ih { p with connections := p.connections.set j (f c) }

/-- The same call to each of some connections: those get it, as often as they are among them, and no
others. -/
theorem onLinks_each {a : Connection.Action} {f : Connection → Connection}
    (acts : ∀ c : Connection, c.step a = some (f c)) (links : List Nat) (p : Pool) :
    (p.onLinks f links).2.connections.length = p.connections.length ∧
    ∀ (k : Nat) (c : Connection), p.connections[k]? = some c →
      ∃ as c', (p.onLinks f links).2.connections[k]? = some c' ∧ c.after as = some c' ∧
        (∀ b ∈ as, b = a) ∧ (k ∉ links → as = []) ∧
        (k ∈ links → (k, c.fresh) ∈ (p.onLinks f links).1 ∧ ∃ rest, as = a :: rest) := by
  induction links generalizing p with
  | nil =>
    refine ⟨rfl, fun k c at_ => ⟨[], c, at_, rfl, fun b mem => ?_, fun _ => rfl, fun mem => ?_⟩⟩
    · cases mem
    · cases mem
  | cons j links ih =>
    cases at_ : p.connections[j]? with
    | none =>
      have first : p.onLinks f (j :: links) =
          ((j, 0) :: (p.onLinks f links).1, (p.onLinks f links).2) := by
        simp [onLinks, onLink, at_]
      obtain ⟨length, each⟩ := ih p
      rw [first]
      refine ⟨length, fun k c there => ?_⟩
      obtain ⟨as, c', at', run, same, others, among⟩ := each k c there
      refine ⟨as, c', at', run, same, fun out => ?_, fun mem => ?_⟩
      · exact others fun mem => out (List.mem_cons_of_mem j mem)
      · rcases List.mem_cons.mp mem with rfl | mem
        · cases at_.symm.trans there
        · exact (among mem).imp_left (List.mem_cons_of_mem _)
    | some d =>
      have first : p.onLinks f (j :: links) =
          ((j, d.fresh) :: (onLinks { p with connections := p.connections.set j (f d) } f links).1,
            (onLinks { p with connections := p.connections.set j (f d) } f links).2) := by
        simp [onLinks, onLink, at_]
      obtain ⟨length, each⟩ := ih { p with connections := p.connections.set j (f d) }
      rw [first]
      refine ⟨length.trans List.length_set, fun k c there => ?_⟩
      by_cases own : j = k
      · subst own
        cases at_.symm.trans there
        have bound := (List.getElem?_eq_some_iff.mp at_).1
        obtain ⟨as, c', at', run, same, -⟩ := each j (f d) (List.getElem?_set_self bound)
        refine ⟨a :: as, c', at', ?_, List.forall_mem_cons.mpr ⟨rfl, same⟩, fun out => ?_,
          fun _ => ⟨List.mem_cons_self, as, rfl⟩⟩
        · rw [Connection.after_cons, acts, Option.bind_some, run]
        · exact absurd List.mem_cons_self out
      · obtain ⟨as, c', at', run, same, others, among⟩ :=
          each k c ((List.getElem?_set_ne own).trans there)
        refine ⟨as, c', at', run, same, fun out => ?_, fun mem => ?_⟩
        · exact others fun mem => out (List.mem_cons_of_mem j mem)
        · have mem := (List.mem_cons.mp mem).resolve_left (Ne.symm own)
          exact (among mem).imp_left (List.mem_cons_of_mem _)

/-- Disconnects make connections go down, and nothing else comes of them. -/
theorem onLinks_disconnect (taken : List Nat) (p : Pool) (sound : ∀ c ∈ p.connections, c.Sound) :
    (p.onLinks Connection.disconnect taken).2.connections.length = p.connections.length ∧
    ∀ (k : Nat) (c : Connection), p.connections[k]? = some c →
      ∃ c', (p.onLinks Connection.disconnect taken).2.connections[k]? = some c' ∧ Ages c c' ∧
        (c'.cancelled = true ↔ c.cancelled = true ∨ k ∈ taken) := by
  obtain ⟨length, each⟩ := onLinks_each (a := .disconnect) (fun _ => rfl) taken p
  refine ⟨length, fun k c at_ => ?_⟩
  have sound := sound c (List.mem_of_getElem? at_)
  obtain ⟨as, c', at', run, same, others, among⟩ := each k c at_
  refine ⟨c', at', sound.ages_disconnects same run, ?_⟩
  by_cases mem : k ∈ taken
  · obtain ⟨-, rest, rfl⟩ := among mem
    obtain ⟨first, down⟩ := sound.ages_disconnect
    have rest_ := first.sound.ages_disconnects (List.forall_mem_cons.mp same).2 run
    exact iff_of_true (rest_.cancelled down) (.inr mem)
  · rw [others mem] at run
    cases run
    simp [mem]

/-- The connections that a call took out are written down one by one. -/
theorem foldl_tookOut (taken : List Nat) (p : Pool) :
    taken.foldl (fun p connection => p.note (.tookOut call connection)) p =
      { p with history := taken.reverse.map (.tookOut call) ++ p.history } := by
  induction taken generalizing p with
  | nil => rfl
  | cons k taken ih =>
    rw [List.foldl_cons, ih]
    simp [note]

/-- The pool in which a call disconnects what it took out. -/
theorem takeDown_eq (p : Pool) (call : Nat) (taken : List Nat) (registry : Registry Nat)
    (tells : Bool) :
    ∃ connections, (p.takeDown call taken registry tells).2 = { p with
      registry
      history := taken.reverse.map (.tookOut call) ++ p.history
      connections } := by
  simp only [takeDown, foldl_tookOut]
  rw [onLinks_frame]
  exact ⟨_, rfl⟩

/-- What a call that takes connections out leaves. -/
structure TakesDown (call : Nat) (taken : List Nat) (registry : Registry Nat) (p p' : Pool) :
    Prop where
  registry : p'.registry = registry
  waiting : p'.waiting = p.waiting
  fresh : p'.fresh = p.fresh
  history : p'.history = taken.reverse.map (.tookOut call) ++ p.history
  length : p'.connections.length = p.connections.length
  each : ∀ (k : Nat) (c : Connection), p.connections[k]? = some c →
    ∃ c', p'.connections[k]? = some c' ∧ Ages c c' ∧
      (c'.cancelled = true ↔ c.cancelled = true ∨ k ∈ taken)

/-- A call that takes connections down begins a disconnect of each, in the same step, and of no
other. -/
theorem takesDown (call : Nat) (sound : ∀ c ∈ p.connections, c.Sound) (taken : List Nat)
    (registry : Registry Nat) (tells : Bool) :
    TakesDown call taken registry p (p.takeDown call taken registry tells).2 := by
  simp only [takeDown, foldl_tookOut]
  obtain ⟨length, each⟩ := onLinks_disconnect taken
    { p with registry, history := taken.reverse.map (.tookOut call) ++ p.history } sound
  rw [onLinks_frame]
  exact ⟨rfl, rfl, rfl, rfl, length, each⟩

/-- Some connections are those that a registry has more than another. -/
structure Splits (p : Pool) (taken : List Nat) (registry : Registry Nat) : Prop where
  listed : ∀ e ∈ registry.entries, e ∈ p.registry.entries
  taken : ∀ k, k ∈ taken ↔ p.Listed k ∧ ¬ ∃ id, (id, k) ∈ registry.entries

/-- To take one id out splits off its connection, if that is registered under no other id. -/
theorem splits_erase (mem : (id, k) ∈ p.registry.entries)
    (single : ∀ id', (id', k) ∈ p.registry.entries → id' = id) :
    p.Splits [k] (p.registry.erase id) := by
  refine ⟨fun e mem => (Registry.mem_erase.mp mem).1, fun j => ?_⟩
  rw [List.mem_singleton]
  constructor
  · rintro rfl
    refine ⟨⟨id, mem⟩, fun ⟨id', mem'⟩ => ?_⟩
    obtain ⟨mem', other⟩ := Registry.mem_erase.mp mem'
    exact other (single id' mem')
  · rintro ⟨⟨id', mem'⟩, out⟩
    by_cases same : id' = id
    · exact Registry.unique (same ▸ mem') mem
    · exact absurd ⟨id', Registry.mem_erase.mpr ⟨mem', same⟩⟩ out

/-- In the books of a pool no connection is registered twice, so that to take an id out splits off
its connection. -/
theorem Books.splits_erase (b : Books p) (mem : (id, k) ∈ p.registry.entries) :
    p.Splits [k] (p.registry.erase id) := by
  refine Pool.splits_erase mem fun id' mem' => ?_
  obtain ⟨n, s, registered, called, same⟩ := b.listed mem
  exact (b.id_eq registered called mem').trans same

/-- To take all out splits off every connection. -/
theorem splits_drain : p.Splits p.registry.drain.1 p.registry.drain.2 := by
  refine ⟨nofun, fun k => ?_⟩
  simp [Registry.drain, Registry.empty, Listed]

namespace TakesDown

variable {taken : List Nat} {registry : Registry Nat}

/-- The connections of a call that takes some of them down have aged: those taken out by a
disconnect, the others not at all. -/
theorem aged (down : TakesDown call taken registry p p') : Aged p p' := fun k c at_ =>
  let ⟨c', at', ages, _⟩ := down.each k c at_
  ⟨c', at', ages⟩

/-- A call that takes connections down leaves the promises to the other calls, if those it takes out
are its own or come under an id that another call usurped. -/
theorem passes (down : TakesDown call taken registry p p') (b : Books p)
    (splits : p.Splits taken registry) (made : call < p.fresh)
    (own : ∀ s, .called call (.add s) ∈ p.history → ∀ k ∈ taken,
      .registered call k ∈ p.history ∨ Usurped p.history call s.stationId k) :
    Passes call p p' := by
  have tookOut {k : Nat} : k ∈ taken → .tookOut call k ∈ p'.history := fun mem => by
    rw [down.history]
    exact List.mem_append_left _ (List.mem_map_of_mem (List.mem_reverse.mpr mem))
  have back {k : Nat} {c' : Connection} (at' : p'.connections[k]? = some c') :
      ∃ c, p.connections[k]? = some c ∧ Ages c c' ∧
        (c'.cancelled = true ↔ c.cancelled = true ∨ k ∈ taken) := by
    have bound := (List.getElem?_eq_some_iff.mp at').1
    rw [down.length] at bound
    obtain ⟨c'', at'', rest⟩ := down.each k _ (List.getElem?_eq_getElem bound)
    cases at'.symm.trans at''
    exact ⟨_, List.getElem?_eq_getElem bound, rest⟩
  have suffix : p.history <:+ p'.history := down.history ▸ List.suffix_append _ _
  refine {
    fresh := down.fresh, length := down.length, sound := ?sound, listed := ?listed,
    closed := ?closed, stays := ?stays, kept := ?kept, down := ?down,
    grown := ⟨taken.reverse.map (.tookOut call), down.history, ?grown⟩ }
  case sound =>
    intro c' mem
    obtain ⟨k, at'⟩ := List.mem_iff_getElem?.mp mem
    obtain ⟨c, -, ages, -⟩ := back at'
    exact ages.sound
  case listed =>
    rw [down.registry]
    exact splits.listed
  case closed =>
    intro k closed
    obtain ⟨c, at_, closed⟩ := at_of_closed closed
    obtain ⟨c', at', ages, -⟩ := down.each k c at_
    exact (state_at at').trans (ages.closed closed)
  case stays =>
    intro k gone
    obtain ⟨c, at_, gone⟩ := at_of_isDown gone
    obtain ⟨c', at', ages, -⟩ := down.each k c at_
    exact (isDown_at at').trans (ages.cancelled gone)
  case kept =>
    intro k listed
    by_cases out : k ∈ taken
    · exact .inr (tookOut out)
    · refine .inl ?_
      rw [Listed, down.registry]
      by_contra unlisted
      exact out ((splits.taken k).mpr ⟨listed, unlisted⟩)
  case down =>
    intro k gone
    obtain ⟨c', at', gone⟩ := at_of_isDown gone
    obtain ⟨c, at_, -, cancelled⟩ := back at'
    exact (cancelled.mp gone).imp (isDown_at at_).trans tookOut
  case grown =>
    intro h mem
    obtain ⟨k, there, rfl⟩ := List.mem_map.mp mem
    have out := List.mem_reverse.mp there
    obtain ⟨listed, unlisted⟩ := (splits.taken k).mp out
    have bound := b.length_of_listed listed
    obtain ⟨c', at', -, cancelled⟩ := down.each k _ (List.getElem?_eq_getElem bound)
    refine ⟨rfl, made, trivial, down.length ▸ bound, ?_,
      (isDown_at at').trans (cancelled.mpr (.inr out)), fun s called => ?_⟩
    · rw [Listed, down.registry]
      exact unlisted
    · have called : .called call (.add s) ∈ p.history := by
        rw [down.history] at called
        simpa using called
      exact (own s called k out).imp (suffix.subset ·) (·.mono suffix)

end TakesDown

/-! ## Registering -/

/-- What a call that registers a connection leaves. -/
structure Registers (n : Nat) (s : StationSettings) (c : Connection) (p p' : Pool) : Prop where
  fresh : p'.fresh = p.fresh
  shutDown : p'.shutDown = p.shutDown
  waiting : p'.waiting = p.waiting
  connections : p'.connections = p.connections ++ [c]
  registry : p'.registry.entries = p.registry.entries ++ [(s.stationId, p.connections.length)]
  history : p'.history = .registered n p.connections.length :: p.history
  /-- The id was free. -/
  vacant : ∀ k, (s.stationId, k) ∉ p.registry.entries

namespace Registers

variable {s : StationSettings} {c : Connection}

/-- The connections there were stay where they are. -/
theorem at_old (reg : Registers n s c p p') (there : k < p.connections.length) :
    p'.connections[k]? = p.connections[k]? := by
  rw [reg.connections, List.getElem?_append_left there]

/-- The new connection comes last. -/
theorem at_new (reg : Registers n s c p p') : p'.connections[p.connections.length]? = some c := by
  rw [reg.connections, List.getElem?_concat_length]

/-- There is one connection more. -/
theorem length (reg : Registers n s c p p') :
    p'.connections.length = p.connections.length + 1 := by
  simp [reg.connections]

/-- What was promised for a connect is untouched by a registration. -/
theorem pledges {link : LinkCall} (reg : Registers n s c p p') (pledges : p.Pledges link) :
    p'.Pledges link := by
  obtain ⟨d, at_, pledged⟩ := pledges
  exact ⟨d, (reg.at_old (List.getElem?_eq_some_iff.mp at_).1).trans at_, pledged⟩

/-- The outcome of a connect is untouched by a registration. -/
theorem outcomeOf {link : LinkCall} (reg : Registers n s c p p') (pledges : p.Pledges link) :
    p'.outcomeOf link = p.outcomeOf link := by
  obtain ⟨d, at_, -⟩ := pledges
  rw [Pool.outcomeOf, Pool.outcomeOf, reg.at_old (List.getElem?_eq_some_iff.mp at_).1]

/-- A registration writes down itself and nothing else. -/
theorem old (reg : Registers n s c p p') {h : Happening} (mem : h ∈ p'.history)
    (other : h ≠ .registered n p.connections.length) : h ∈ p.history := by
  rw [reg.history] at mem
  exact (List.mem_cons.mp mem).resolve_left other

/-- What is registered afterwards was so before, or is the new connection under its id. -/
theorem listed_cases (reg : Registers n s c p p') (mem : (id, k) ∈ p'.registry.entries) :
    (id, k) ∈ p.registry.entries ∨ id = s.stationId ∧ k = p.connections.length := by
  rw [reg.registry] at mem
  rcases List.mem_append.mp mem with mem | mem
  · exact .inl mem
  · cases List.mem_singleton.mp mem
    exact .inr ⟨rfl, rfl⟩

/-- A registration leaves what stands. -/
theorem stands (reg : Registers n s c p p') : Stands p p' where
  suffix := reg.history ▸ List.suffix_cons _ _
  length := reg.length ▸ Nat.le_succ _
  unlisted k there unlisted := by
    rintro ⟨id, mem⟩
    rcases reg.listed_cases mem with mem | ⟨-, rfl⟩
    · exact unlisted ⟨id, mem⟩
    · exact Nat.lt_irrefl _ there
  closed k closed := by
    obtain ⟨d, at_, closed⟩ := at_of_closed closed
    have there := (List.getElem?_eq_some_iff.mp at_).1
    exact (state_at ((reg.at_old there).trans at_)).trans closed
  stays k down := by
    obtain ⟨d, at_, down⟩ := at_of_isDown down
    have there := (List.getElem?_eq_some_iff.mp at_).1
    exact (isDown_at ((reg.at_old there).trans at_)).trans down

/-- The books of a pool after a call that was only just made registers a connection. -/
theorem books (reg : Registers n s c p p') (b : Books p) (made : n < p.fresh)
    (only : ∀ h ∈ p.history, h.caller = n → h = .called n (.add s))
    (called : .called n (.add s) ∈ p.history) (sound : c.Sound) (up : c.cancelled = false) :
    Books p' := by
  have below {n k : Nat} (mem : .registered n k ∈ p.history) : k < p.connections.length :=
    (b.fair (.registered n k) mem).1
  have not_yet {k : Nat} : .registered n k ∉ p.history := fun mem => nomatch only _ mem rfl
  have registered_cases {n' k : Nat} (mem : .registered n' k ∈ p'.history) :
      (n' = n ∧ k = p.connections.length) ∨ .registered n' k ∈ p.history := by
    rw [reg.history] at mem
    exact (List.mem_cons.mp mem).imp_left fun same => by cases same; exact ⟨rfl, rfl⟩
  refine {
    sound := ?sound, numbered := ?numbered, asked := ?asked, one := ?one, by_one := ?by_one,
    listed := ?listed, kept := ?kept, down := ?down, fair := ?fair }
  case sound =>
    intro d mem
    rw [reg.connections] at mem
    rcases List.mem_append.mp mem with mem | mem
    · exact b.sound d mem
    · exact List.mem_singleton.mp mem ▸ sound
  case numbered =>
    intro h mem
    rw [reg.fresh]
    rw [reg.history] at mem
    rcases List.mem_cons.mp mem with rfl | mem
    · exact made
    · exact b.numbered h mem
  case asked =>
    exact fun called called' => b.asked (reg.old called nofun) (reg.old called' nofun)
  case one =>
    intro n' k k' mem mem'
    rcases registered_cases mem with ⟨rfl, rfl⟩ | mem <;>
      rcases registered_cases mem' with ⟨same, rfl⟩ | mem'
    · rfl
    · exact absurd mem' not_yet
    · exact absurd (same ▸ mem) not_yet
    · exact b.one mem mem'
  case by_one =>
    intro n₁ n₂ k mem mem'
    rcases registered_cases mem with ⟨rfl, rfl⟩ | mem <;>
      rcases registered_cases mem' with ⟨rfl, same⟩ | mem'
    · rfl
    · exact absurd (below mem') (Nat.lt_irrefl _)
    · exact absurd (same ▸ below mem) (Nat.lt_irrefl _)
    · exact b.by_one mem mem'
  case listed =>
    intro id k mem
    rcases reg.listed_cases mem with mem | ⟨rfl, rfl⟩
    · obtain ⟨n', s', registered, called', same⟩ := b.listed mem
      exact ⟨n', s', reg.stands.mem registered, reg.stands.mem called', same⟩
    · exact ⟨n, s, reg.history ▸ List.mem_cons_self, reg.stands.mem called, rfl⟩
  case kept =>
    intro k there
    rw [reg.length] at there
    rcases Nat.lt_succ_iff_lt_or_eq.mp there with there | rfl
    · refine (b.kept k there).imp ?_ fun ⟨n', taken⟩ => ⟨n', reg.stands.mem taken⟩
      exact fun ⟨id, mem⟩ => ⟨id, reg.registry ▸ List.mem_append_left _ mem⟩
    · exact .inl ⟨s.stationId, reg.registry ▸ List.mem_append_right _ (List.mem_singleton_self _)⟩
  case down =>
    intro k down
    obtain ⟨d, at_, down⟩ := at_of_isDown down
    have there := (List.getElem?_eq_some_iff.mp at_).1
    rw [reg.length] at there
    rcases Nat.lt_succ_iff_lt_or_eq.mp there with there | rfl
    · rw [reg.at_old there] at at_
      exact (b.down k ((isDown_at at_).trans down)).imp fun _ => reg.stands.mem
    · cases reg.at_new.symm.trans at_
      exact absurd (up.symm.trans down) nofun
  case fair =>
    intro h mem
    by_cases new : h = .registered n p.connections.length
    · exact new ▸ ⟨reg.length ▸ Nat.lt_succ_self _, s, reg.stands.mem called⟩
    have mem := reg.old mem new
    by_cases own : h.caller = n
    · rw [only h mem own]
      trivial
    · refine reg.stands.fair (fun x there same _ => reg.old there ?_) (b.fair h mem)
      rintro rfl
      exact own same.symm

end Registers

/-- A connection as it is put into the registry. -/
def newcomer (p : Pool) (s : StationSettings) : Connection :=
  { Connection.new (p.settingsFor s) p.horizon with now := p.now }

/-- The connection that is put into the registry is a new one at the pool's time, which is a
reachable one. -/
theorem newcomer_reachable (p : Pool) (s : StationSettings) :
    Connection.Reachable (p.settingsFor s) (p.newcomer s) := by
  refine .step (c := .new (p.settingsFor s) p.horizon) (.advance p.now) .new ?_
  simp [Connection.step, newcomer, Connection.new]

/-- The connection that is put into the registry is sound. -/
theorem newcomer_sound (p : Pool) (s : StationSettings) : (p.newcomer s).Sound :=
  (p.newcomer_reachable s).sound

/-- A new station is refused, or it is registered and its connection told to connect. -/
theorem add_cases (p : Pool) (n : Nat) (s : StationSettings) :
    (∃ e, p.add n s = p.finish n (.error e)) ∨
    ∃ p', Registers n s (p.newcomer s).connect p p' ∧
      p.add n s = p'.goOnConnecting n (p.connections.length, (p.newcomer s).fresh) s.stationId := by
  unfold add
  split
  · exact .inl ⟨_, rfl⟩
  split
  · exact .inl ⟨_, rfl⟩
  dsimp only
  split
  · exact .inl ⟨_, rfl⟩
  rename_i registry added
  obtain ⟨vacant, listed⟩ := Registry.add_ok added
  refine .inr ⟨{ p with
    registry
    connections := p.connections ++ [(p.newcomer s).connect]
    history := .registered n p.connections.length :: p.history },
    ⟨rfl, rfl, rfl, rfl, listed, rfl, vacant⟩, ?_⟩
  simp [onLink, note, newcomer]

end StationPool.Pool
