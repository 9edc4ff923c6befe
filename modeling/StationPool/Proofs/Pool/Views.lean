import StationPool.Pool.Basic
import StationPool.Proofs.Registry.Views

/-!
# Views over a pool

What a pool tells of its stations, in whichever way it is asked, is one account: the sums, the ids,
the counts and the states of single stations agree (`Account`), and the order in which the registry
gives its connections does not show in any of them (`Alike`).
-/

namespace StationPool

namespace Pool

/-- The pools tell the same, but for the order in which statistics are listed. -/
structure Alike (p p' : Pool) : Prop where
  aggregate : p.aggregate = p'.aggregate
  ids : p.ids = p'.ids
  connectedIds : p.connectedIds = p'.connectedIds
  allStats : p.allStats.Perm p'.allStats
  size : p.registry.size = p'.registry.size
  connectedCount : p.registry.connectedCount p.state = p'.registry.connectedCount p'.state
  has : ∀ id, p.registry.has id = p'.registry.has id
  stateOf? : ∀ id, p.stateOf? id = p'.stateOf? id

/-- What a pool tells in one way is what it tells in every other. -/
structure Account (p : Pool) : Prop where
  total : p.aggregate.total = p.registry.size
  length_ids : p.ids.length = p.registry.size
  length_allStats : p.allStats.length = p.registry.size
  connected : p.aggregate.connected = p.registry.connectedCount p.state
  length_connectedIds : p.connectedIds.length = p.registry.connectedCount p.state
  /-- Every station is counted for its state, or is disconnected or closed. -/
  states : p.aggregate.total = p.aggregate.connected + p.aggregate.connecting +
    p.aggregate.reconnecting + p.aggregate.errored +
    p.registry.entries.countP fun e => p.state e.2 = .disconnected ∨ p.state e.2 = .closed
  ascending : p.ids.Pairwise (· < ·)
  mem_ids_iff_has : ∀ id, id ∈ p.ids ↔ p.registry.has id = true
  mem_ids_iff_stateOf? : ∀ id, id ∈ p.ids ↔ p.stateOf? id ≠ none
  connectedIds : p.connectedIds = p.ids.filter fun id => p.stateOf? id = some .connected

/-- A station's statistics tell the state that the station is asked for. -/
theorem state_statsOf (p : Pool) (connection : Nat) :
    (p.statsOf connection).state = p.state connection := by
  rw [statsOf, state]
  cases p.connections[connection]? <;> rfl

/-- A pool tells a state of exactly the stations it has. -/
theorem stateOf?_ne_none_iff {p : Pool} {id : String} :
    p.stateOf? id ≠ none ↔ p.registry.has id = true := by
  rw [stateOf?, ne_eq, Option.map_eq_none_iff, ← Registry.isSome_get?, Option.isSome_iff_ne_none]

/-- The order of the registry does not show. -/
theorem alike_of_perm (p : Pool) {registry : Registry Nat}
    (order : p.registry.entries.Perm registry.entries) : Alike { p with registry } p where
  aggregate := (Registry.poolStats_eq_of_perm order p.statsOf).symm
  ids := (Registry.ids_eq_of_perm order).symm
  connectedIds := (Registry.connectedIds_eq_of_perm order p.state).symm
  allStats := order.symm.map _
  size := order.length_eq.symm
  connectedCount := (Registry.connectedCount_eq_of_perm order p.state).symm
  has id := (Registry.has_eq_of_perm order id).symm
  stateOf? id := congrArg (Option.map p.state) (Registry.get?_eq_of_perm order id).symm

/-- What a pool tells in one way agrees with what it tells in every other, in any state. -/
theorem account (p : Pool) : Account p where
  total := p.registry.total_poolStats p.statsOf
  length_ids := by rw [ids, p.registry.ids_perm.length_eq, List.length_map, Registry.size]
  length_allStats := by rw [allStats, Registry.stats, List.length_map, Registry.size]
  connected := p.registry.connected_poolStats p.state_statsOf
  length_connectedIds := by
    rw [connectedIds, (p.registry.connectedIds_perm p.state).length_eq, List.length_map,
      Registry.connectedCount]
  states := p.registry.total_poolStats_eq_states p.state_statsOf
  ascending := p.registry.pairwise_ids
  mem_ids_iff_has _ := Registry.mem_ids_iff
  mem_ids_iff_stateOf? _ := Registry.mem_ids_iff.trans stateOf?_ne_none_iff.symm
  connectedIds := p.registry.connectedIds_eq_filter p.state

/-- Whatever a pool holds, its views are one account. They are the same in every order of the
registry, and its sums are those of any groups of its stations added up. -/
theorem views_agree (p : Pool) :
    p.Account ∧
    (∀ registry : Registry Nat, p.registry.entries.Perm registry.entries →
      Alike { p with registry } p) ∧
    ∀ groups : List (List (String × Nat)), groups.flatten.Perm p.registry.entries →
      p.aggregate =
        (groups.map fun group => PoolStats.ofList (group.map fun e => p.statsOf e.2)).sum :=
  ⟨p.account, fun _ order => p.alike_of_perm order,
    fun _ cut => p.registry.poolStats_eq_sum p.statsOf cut⟩

/-- A pool of three stations, of which one is connected and one was closed. -/
def trio : Pool where
  base := "ws://h"
  defaults := {}
  connections := [
    { Connection.new { stationId := "B" } with
      state := .connected, counters := { messagesSent := 2, bytesSent := 30 } },
    { Connection.new { stationId := "C" } with state := .closed },
    { Connection.new { stationId := "A" } with
      state := .reconnecting, counters := { messagesSent := 1, bytesSent := 5 } }]
  registry := ⟨[("B", 0), ("C", 1), ("A", 2)], by decide⟩

/-- The same stations in another order, and the sums of one of them and of the other two. -/
theorem views_agree_of_trio :
    ∃ registry : Registry Nat, trio.registry.entries.Perm registry.entries ∧
      registry.entries ≠ trio.registry.entries ∧ Alike { trio with registry } trio ∧
      trio.ids = ["A", "B", "C"] ∧ trio.connectedIds = ["B"] ∧
      [[("C", 1)], [("A", 2), ("B", 0)]].flatten.Perm trio.registry.entries ∧
      trio.aggregate =
        { total := 3, connected := 1, reconnecting := 1, messagesSent := 3, bytesSent := 35 } := by
  have order : trio.registry.entries.Perm [("A", 2), ("B", 0), ("C", 1)] := by decide
  have cut : [[("C", 1)], [("A", 2), ("B", 0)]].flatten.Perm trio.registry.entries := by decide
  have account := (views_agree trio).1
  have ids : trio.ids = ["A", "B", "C"] :=
    Registry.eq_of_ascending account.ascending (by decide)
      (trio.registry.ids_perm.trans (by decide))
  have connectedIds : trio.connectedIds = ["B"] := by
    rw [account.connectedIds, ids]
    decide
  exact ⟨⟨_, by decide⟩, order, by decide, (views_agree trio).2.1 ⟨_, by decide⟩ order, ids,
    connectedIds, cut, ((views_agree trio).2.2 _ cut).trans rfl⟩

end Pool

end StationPool
