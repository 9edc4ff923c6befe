import StationPool.Error.Connection
import StationPool.Stats
import StationPool.Text.Utf8

/-!
# The registry

The connections of a pool by station id, each id once. The registry holds names for connections
(`κ`) and asks nothing of them: what a connection is in, what it counts and what comes of a call to
it is told by those who ask (`Lifecycle` and statistics as functions, outcomes as values).

Taking connections out comes in two halves. `remove` and `drain` take them out at once; a `Takedown`
then collects what their disconnects come to, and `Takedown.result` is what the caller is told.
-/

namespace StationPool

/-- Connections by station id. -/
structure Registry (κ : Type) where
  entries : List (String × κ) := []
  /-- Each id once. -/
  nodup : (entries.map (·.1)).Nodup := by simp

namespace Registry

variable {κ : Type}

/-- The registry without connections. -/
def empty : Registry κ := {}

instance : Inhabited (Registry κ) := ⟨empty⟩

/-- The connection of an id. -/
def get? (r : Registry κ) (id : String) : Option κ := (r.entries.find? (·.1 == id)).map (·.2)

/-- Whether there is a connection of an id. -/
def has (r : Registry κ) (id : String) : Bool := r.entries.any (·.1 == id)

/-- The number of connections. -/
def size (r : Registry κ) : Nat := r.entries.length

/-- The ids in ascending order. -/
def ids (r : Registry κ) : List String :=
  (r.entries.map (·.1)).mergeSort (fun a b => decide (a ≤ b))

/-- The connection of an id, or the error that there is none. -/
def get (r : Registry κ) (id : String) : Except PoolError κ :=
  match r.get? id with
  | some c => .ok c
  | none => .error (.notFound id)

/-- An id that a registry does not have is on none of its entries. -/
theorem not_mem_of_has_eq_false {r : Registry κ} {id : String} (h : r.has id = false) :
    id ∉ r.entries.map (·.1) := by
  intro hm
  obtain ⟨e, he, rfl⟩ := List.mem_map.mp hm
  have : r.has e.1 = true := List.any_eq_true.mpr ⟨e, he, by simp⟩
  simp [this] at h

/-- One more connection; an id that is taken is refused. -/
def add (r : Registry κ) (id : String) (c : κ) : Except PoolError (Registry κ) :=
  if h : r.has id = false then
    .ok ⟨r.entries ++ [(id, c)], by
      have hn := not_mem_of_has_eq_false h
      simp only [List.map_append, List.map_cons, List.map_nil]
      refine List.nodup_append.mpr ⟨r.nodup, by simp, ?_⟩
      intro a ha b hb hab
      simp only [List.mem_singleton] at hb
      subst hb; subst hab; exact hn ha⟩
  else .error (.alreadyExists id)

/-- The registry without an id. -/
def erase (r : Registry κ) (id : String) : Registry κ :=
  ⟨r.entries.filter (·.1 != id), (List.filter_sublist.map _).nodup r.nodup⟩

/-- Takes out the connection of an id. -/
def remove (r : Registry κ) (id : String) : Except PoolError (κ × Registry κ) :=
  match r.get? id with
  | some c => .ok (c, r.erase id)
  | none => .error (.notFound id)

/-- Takes out every connection. -/
def drain (r : Registry κ) : List κ × Registry κ := (r.entries.map (·.2), empty)

/-! ## Views over connections -/

/-- The connections that are connected. -/
def connected (r : Registry κ) (state : κ → Lifecycle) : List (String × κ) :=
  r.entries.filter fun e => (state e.2).isConnected

/-- The number of connections that are connected. -/
def connectedCount (r : Registry κ) (state : κ → Lifecycle) : Nat := (r.connected state).length

/-- The ids of the connections that are connected, in ascending order. -/
def connectedIds (r : Registry κ) (state : κ → Lifecycle) : List String :=
  ((r.connected state).map (·.1)).mergeSort (fun a b => decide (a ≤ b))

/-- The statistics of every connection. -/
def stats (r : Registry κ) (of : κ → ConnectionStats) : List (String × ConnectionStats) :=
  r.entries.map fun (id, c) => (id, of c)

/-- The sums over all connections. -/
def poolStats (r : Registry κ) (of : κ → ConnectionStats) : PoolStats :=
  PoolStats.ofList ((r.stats of).map (·.2))

/-! ## Calls to many connections -/

/-- What is told of calls to many connections: success, or how many of how many failed. -/
def summary (failed attempted : Nat) : Except PoolError Unit :=
  if failed = 0 then .ok () else .error (.partly failed attempted)

/-- Calls to connections one after the other in a world that they change. A failure does not keep
the later calls from being made. -/
def each {σ : Type} (call : κ → σ → Outcome × σ) :
    List κ → σ → Nat × σ
  | [], s => (0, s)
  | c :: rest, s =>
    let (outcome, s) := call c s
    let (failed, s) := each call rest s
    (failed + (if outcome.toOption.isNone then 1 else 0), s)

/-- A payload for every connection that is connected when the call begins. -/
def broadcast {σ : Type} (r : Registry κ) (state : κ → Lifecycle)
    (send : Bytes → κ → σ → Outcome × σ) (payload : Bytes) (s : σ) : Except PoolError Unit × σ :=
  let targets := (r.connected state).map (·.2)
  let (failed, s) := each (send payload) targets s
  (summary failed targets.length, s)

end Registry

/-- Disconnects that go on after connections were taken out. -/
structure Takedown (κ : Type) where
  /-- The connections whose disconnect has not ended. -/
  awaiting : List κ
  failed : Nat := 0
  attempted : Nat
  /-- Whether failures are told: they are not where one station was removed. -/
  tells : Bool
  deriving DecidableEq

namespace Takedown

variable {κ : Type}

/-- The disconnects of connections just taken out. -/
def of (taken : List κ) (tells : Bool) : Takedown κ :=
  { awaiting := taken, attempted := taken.length, tells }

/-- One disconnect ended. -/
def ended [BEq κ] (t : Takedown κ) (c : κ) (outcome : Outcome) : Takedown κ :=
  { t with
    awaiting := t.awaiting.erase c
    failed := t.failed + if outcome.toOption.isNone then 1 else 0 }

/-- What the caller is told, once every disconnect has ended. -/
def result (t : Takedown κ) : Option (Except PoolError Unit) :=
  if t.awaiting.isEmpty then
    some (if t.tells then Registry.summary t.failed t.attempted else .ok ())
  else none

end Takedown

end StationPool
