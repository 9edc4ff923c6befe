import StationPool.Pool.Step
import StationPool.Proofs.Connection.Fledgling
import StationPool.Proofs.Registry.Entries

/-!
# The books of a pool

Who registered which connection and who took it out, for pools whose stations are added, removed and
disconnected. `Books` relates the history to the registry and to the connections, and `Passes` is
what may happen to a pool where nothing is registered: the books agree after it as before
(`Passes.books`).

A call takes out by id. `Usurped` is how it can hit what another registered: the id was registered
once more after its own connection had been taken out, while it was still going on.
-/

namespace StationPool

namespace Pool

variable {p p' : Pool} {n k call : Nat} {id : String}

/-! ## Views -/

/-- The call that something happened in. -/
def Happening.caller : Happening → Nat
  | .called n _ | .registered n _ | .tookOut n _ | .returned n _ => n

/-- A connection is registered. -/
def Listed (p : Pool) (k : Nat) : Prop := ∃ id, (id, k) ∈ p.registry.entries

/-- Whether a connection was disconnected. -/
def isDown (p : Pool) (k : Nat) : Bool := (p.connections[k]?.map (·.cancelled)).getD false

/-- A connection is not registered, and closed. -/
structure Gone (p : Pool) (k : Nat) : Prop where
  unlisted : ¬ p.Listed k
  closed : p.state k = .closed

/-- The state of a connection is the one it has in the list. -/
theorem state_at {c : Connection} (at_ : p.connections[k]? = some c) : p.state k = c.state := by
  simp [state, at_]

/-- A connection of the list is down if it was cancelled. -/
theorem isDown_at {c : Connection} (at_ : p.connections[k]? = some c) :
    p.isDown k = c.cancelled := by
  simp [isDown, at_]

/-- What is closed is in the list. -/
theorem at_of_closed (closed : p.state k = .closed) :
    ∃ c, p.connections[k]? = some c ∧ c.state = .closed := by
  cases at_ : p.connections[k]? with
  | none => simp [state, at_, Lifecycle.initial] at closed
  | some c => exact ⟨c, rfl, (state_at at_).symm.trans closed⟩

/-- What is down is in the list. -/
theorem at_of_isDown (down : p.isDown k = true) :
    ∃ c, p.connections[k]? = some c ∧ c.cancelled = true := by
  cases at_ : p.connections[k]? with
  | none => simp [isDown, at_] at down
  | some c => exact ⟨c, rfl, (isDown_at at_).symm.trans down⟩

/-- A call goes on, and another has taken out what it registered. -/
structure Deprived (history : List Happening) (n : Nat) : Prop where
  going : ∀ result, .returned n result ∉ history
  taken : ∃ own thief, .registered n own ∈ history ∧ thief ≠ n ∧ .tookOut thief own ∈ history

/-- Another call has registered a connection under the id of a call that was deprived by then. -/
def Usurped (history : List Happening) (n : Nat) (id : String) (k : Nat) : Prop :=
  ∃ other s earlier, .registered other k :: earlier <:+ history ∧ other ≠ n ∧
    .called other (.add s) ∈ earlier ∧ s.stationId = id ∧ Deprived earlier n

/-- Who was usurped stays usurped. -/
theorem Usurped.mono {history history' : List Happening} (u : Usurped history n id k)
    (grown : history <:+ history') : Usurped history' n id k := by
  obtain ⟨other, s, earlier, since, rest⟩ := u
  exact ⟨other, s, earlier, since.trans grown, rest⟩

/-! ## The books -/

/-- What a note in the history stands for. -/
def Fair (p : Pool) : Happening → Prop
  | .called _ _ => True
  | .registered n k => k < p.connections.length ∧ ∃ s, .called n (.add s) ∈ p.history
  | .tookOut n k => k < p.connections.length ∧ ¬ p.Listed k ∧ p.isDown k = true ∧
      ∀ s, .called n (.add s) ∈ p.history →
        .registered n k ∈ p.history ∨ Usurped p.history n s.stationId k
  | .returned n result => result.toOption = none → ∀ k, .registered n k ∈ p.history → p.Gone k

/-- The history, the registry and the connections agree. -/
structure Books (p : Pool) : Prop where
  sound : ∀ c ∈ p.connections, c.Sound
  numbered : ∀ h ∈ p.history, h.caller < p.fresh
  /-- A call asks for one thing, and registers one connection; a connection is registered once. -/
  asked : ∀ {n request request'}, .called n request ∈ p.history →
    .called n request' ∈ p.history → request = request'
  one : ∀ {n k k'}, .registered n k ∈ p.history → .registered n k' ∈ p.history → k = k'
  by_one : ∀ {n n' k}, .registered n k ∈ p.history → .registered n' k ∈ p.history → n = n'
  listed : ∀ {id k}, (id, k) ∈ p.registry.entries →
    ∃ n s, .registered n k ∈ p.history ∧ .called n (.add s) ∈ p.history ∧ s.stationId = id
  /-- Who is not registered was taken out, and nobody else goes down. -/
  kept : ∀ k < p.connections.length, p.Listed k ∨ ∃ n, .tookOut n k ∈ p.history
  down : ∀ k, p.isDown k = true → ∃ n, .tookOut n k ∈ p.history
  fair : ∀ h ∈ p.history, p.Fair h

namespace Books

/-- A connection has the id of the station that it was registered for. -/
theorem id_eq (b : Books p) {s : StationSettings} (registered : .registered n k ∈ p.history)
    (called : .called n (.add s) ∈ p.history) (mem : (id, k) ∈ p.registry.entries) :
    id = s.stationId := by
  obtain ⟨n', s', registered', called', rfl⟩ := b.listed mem
  cases b.by_one registered registered'
  cases b.asked called called'
  rfl

/-- A connection that is listed is one of the pool. -/
theorem length_of_listed (b : Books p) (there : p.Listed k) : k < p.connections.length := by
  obtain ⟨id, mem⟩ := there
  obtain ⟨n, s, registered, -⟩ := b.listed mem
  exact (b.fair _ registered).1

/-- What a call registered is registered, or was taken out. -/
theorem taken_of_unlisted (b : Books p) (registered : .registered n k ∈ p.history)
    (unlisted : ¬ p.Listed k) : ∃ thief, .tookOut thief k ∈ p.history :=
  (b.kept k (b.fair _ registered).1).resolve_left unlisted

end Books

/-- What was settled in a pool stands in a later one. -/
structure Stands (p p' : Pool) : Prop where
  suffix : p.history <:+ p'.history
  length : p.connections.length ≤ p'.connections.length
  unlisted : ∀ k < p.connections.length, ¬ p.Listed k → ¬ p'.Listed k
  closed : ∀ k, p.state k = .closed → p'.state k = .closed
  stays : ∀ k, p.isDown k = true → p'.isDown k = true

/-- A happening that ends something. -/
def Happening.Ends : Happening → Prop
  | .called _ _ | .registered _ _ => False
  | .tookOut _ _ | .returned _ _ => True

namespace Stands

/-- What is written down stays written down. -/
theorem mem (stands : Stands p p') {h : Happening} (mem : h ∈ p.history) : h ∈ p'.history :=
  stands.suffix.subset mem

/-- What is gone stays gone. -/
theorem gone (stands : Stands p p') (gone : p.Gone k) : p'.Gone k := by
  obtain ⟨c, at_, -⟩ := at_of_closed gone.closed
  have there := (List.getElem?_eq_some_iff.mp at_).1
  exact ⟨stands.unlisted k there gone.unlisted, stands.closed k gone.closed⟩

/-- A note goes on to be fair while its call begins nothing new. -/
theorem fair (stands : Stands p p') {h : Happening}
    (old : ∀ x ∈ p'.history, x.caller = h.caller → ¬ x.Ends → x ∈ p.history) (fair : p.Fair h) :
    p'.Fair h := by
  cases h with
  | called n request => trivial
  | registered n k =>
    obtain ⟨there, s, called⟩ := fair
    exact ⟨Nat.lt_of_lt_of_le there stands.length, s, stands.mem called⟩
  | tookOut n k =>
    obtain ⟨there, unlisted, down, own⟩ := fair
    refine ⟨Nat.lt_of_lt_of_le there stands.length, stands.unlisted k there unlisted,
      stands.stays k down, fun s called => ?_⟩
    exact (own s (old _ called rfl id)).imp stands.mem (·.mono stands.suffix)
  | returned n result =>
    exact fun failed k registered => stands.gone (fair failed k (old _ registered rfl id))

end Stands

/-- What a call, or a connection by itself, does to a pool where nothing is registered. -/
structure Passes (call : Nat) (p p' : Pool) : Prop where
  fresh : p'.fresh = p.fresh
  length : p'.connections.length = p.connections.length
  sound : ∀ c ∈ p'.connections, c.Sound
  listed : ∀ e ∈ p'.registry.entries, e ∈ p.registry.entries
  closed : ∀ k, p.state k = .closed → p'.state k = .closed
  stays : ∀ k, p.isDown k = true → p'.isDown k = true
  kept : ∀ k, p.Listed k → p'.Listed k ∨ .tookOut call k ∈ p'.history
  down : ∀ k, p'.isDown k = true → p.isDown k = true ∨ .tookOut call k ∈ p'.history
  grown : ∃ new, p'.history = new ++ p.history ∧
    ∀ h ∈ new, h.caller = call ∧ call < p.fresh ∧ h.Ends ∧ p'.Fair h

namespace Passes

/-- A passage leaves what stands. -/
theorem stands (pass : Passes call p p') : Stands p p' where
  suffix := by
    obtain ⟨new, grown, -⟩ := pass.grown
    exact ⟨new, grown.symm⟩
  length := Nat.le_of_eq pass.length.symm
  unlisted := fun _ _ unlisted ⟨id, mem⟩ => unlisted ⟨id, pass.listed _ mem⟩
  closed := pass.closed
  stays := pass.stays

/-- A passage strikes nothing out. -/
theorem mem (pass : Passes call p p') {h : Happening} (mem : h ∈ p.history) : h ∈ p'.history :=
  pass.stands.mem mem

/-- Nothing has begun. -/
theorem old (pass : Passes call p p') {h : Happening} (mem : h ∈ p'.history) (begins : ¬ h.Ends) :
    h ∈ p.history := by
  obtain ⟨new, grown, ends⟩ := pass.grown
  rcases List.mem_append.mp (grown ▸ mem) with mem | mem
  · exact absurd (ends h mem).2.2.1 begins
  · exact mem

/-- What happened to other calls happened before. -/
theorem other (pass : Passes call p p') {h : Happening} (mem : h ∈ p'.history)
    (other : h.caller ≠ call) : h ∈ p.history := by
  obtain ⟨new, grown, ends⟩ := pass.grown
  rcases List.mem_append.mp (grown ▸ mem) with mem | mem
  · exact absurd (ends h mem).1 other
  · exact mem

/-- A passage keeps the books: nothing is registered, and what is taken out goes down. -/
theorem books (pass : Passes call p p') (b : Books p) : Books p' where
  sound := pass.sound
  numbered h mem := by
    rw [pass.fresh]
    by_cases own : h.caller = call
    · obtain ⟨new, grown, ends⟩ := pass.grown
      rcases List.mem_append.mp (grown ▸ mem) with mem | mem
      · exact own ▸ (ends h mem).2.1
      · exact b.numbered h mem
    · exact b.numbered h (pass.other mem own)
  asked called called' := b.asked (pass.old called id) (pass.old called' id)
  one registered registered' := b.one (pass.old registered id) (pass.old registered' id)
  by_one registered registered' := b.by_one (pass.old registered id) (pass.old registered' id)
  listed mem := by
    obtain ⟨n, s, registered, called, same⟩ := b.listed (pass.listed _ mem)
    exact ⟨n, s, pass.mem registered, pass.mem called, same⟩
  kept k there := by
    rcases b.kept k (pass.length ▸ there) with listed | ⟨n, taken⟩
    · exact (pass.kept k listed).imp id fun taken => ⟨call, taken⟩
    · exact .inr ⟨n, pass.mem taken⟩
  down k down := by
    rcases pass.down k down with down | taken
    · obtain ⟨n, taken⟩ := b.down k down
      exact ⟨n, pass.mem taken⟩
    · exact ⟨call, taken⟩
  fair h mem := by
    obtain ⟨new, grown, ends⟩ := pass.grown
    rcases List.mem_append.mp (grown ▸ mem) with mem | mem
    · exact (ends h mem).2.2.2
    · exact pass.stands.fair (fun _ mem _ begins => pass.old mem begins) (b.fair h mem)

end Passes

end Pool

end StationPool
