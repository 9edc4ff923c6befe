import Mathlib.Algebra.BigOperators.Group.List.Basic
import StationPool.Proofs.Registry.Entries

/-!
# Views over a registry

The sums over a pool, its ids and its counts are read off one list of entries, each in its own way.
Sums are added field by field, so they are the same for every order of the entries and for every way
to cut them up (`ofList_perm`, `ofList_flatten`). The ids are sorted and each is there once, so the
order of the entries does not show in them either, and what is kept of them for a state is what is
kept of the entries (`connectedIds_eq_filter`).
-/

namespace StationPool

/-! ## Sums -/

namespace PoolStats

variable {p q : PoolStats} {stats stats' : List ConnectionStats}

instance : Zero PoolStats := ⟨{}⟩

/-- Sums are added field by field. -/
instance : Add PoolStats where
  add p q :=
    { total := p.total + q.total
      connected := p.connected + q.connected
      connecting := p.connecting + q.connecting
      reconnecting := p.reconnecting + q.reconnecting
      errored := p.errored + q.errored
      messagesSent := p.messagesSent + q.messagesSent
      messagesReceived := p.messagesReceived + q.messagesReceived
      bytesSent := p.bytesSent + q.bytesSent
      bytesReceived := p.bytesReceived + q.bytesReceived }

/-- The zero of the sums is the statistics of a pool with no connection. -/
theorem zero_def : (0 : PoolStats) = {} := rfl

/-- Sums of two pools are taken field by field. -/
theorem add_def (p q : PoolStats) : p + q =
    ⟨p.total + q.total, p.connected + q.connected, p.connecting + q.connecting,
      p.reconnecting + q.reconnecting, p.errored + q.errored, p.messagesSent + q.messagesSent,
      p.messagesReceived + q.messagesReceived, p.bytesSent + q.bytesSent,
      p.bytesReceived + q.bytesReceived⟩ := rfl

instance : AddCommMonoid PoolStats where
  add_assoc p q r := by simp only [add_def, Nat.add_assoc]
  zero_add p := by simp only [add_def, zero_def, Nat.zero_add]
  add_zero p := by simp only [add_def, zero_def, Nat.add_zero]
  add_comm p q := by simp only [add_def, Nat.add_comm]
  nsmul := nsmulRec

/-- The sums over one connection. -/
def single (s : ConnectionStats) : PoolStats := add 0 s

/-- To count one connection more is to add the sums over that connection alone. -/
theorem add_eq (p : PoolStats) (s : ConnectionStats) : p.add s = p + single s := by
  simp only [add, single, add_def, zero_def, Nat.zero_add]

/-- To count connections one after the other is to add up their sums. This is what makes the order
of the connections irrelevant. -/
theorem foldl_add (p : PoolStats) (stats : List ConnectionStats) :
    stats.foldl add p = p + (stats.map single).sum := by
  induction stats generalizing p with
  | nil => exact (add_zero p).symm
  | cons s rest ih =>
    rw [List.foldl_cons, ih, add_eq, List.map_cons, List.sum_cons, add_assoc]

/-- The statistics of a pool are the sum of those of its connections. -/
theorem ofList_eq (stats : List ConnectionStats) : ofList stats = (stats.map single).sum :=
  (foldl_add 0 stats).trans (zero_add _)

/-- The order does not show in the sums. -/
theorem ofList_perm (order : stats.Perm stats') : ofList stats = ofList stats' := by
  rw [ofList_eq, ofList_eq]
  exact (order.map single).sum_eq

/-- The sums over parts add up to the sums over the whole. -/
theorem ofList_flatten (parts : List (List ConnectionStats)) :
    ofList parts.flatten = (parts.map ofList).sum := by
  rw [ofList_eq, List.map_flatten, List.sum_flatten, List.map_map]
  exact congrArg List.sum (List.map_congr_left fun part _ => (ofList_eq part).symm)

/-- One more connection adds its own sums. -/
theorem ofList_cons (s : ConnectionStats) (rest : List ConnectionStats) :
    ofList (s :: rest) = single s + ofList rest := by
  rw [ofList_eq, ofList_eq, List.map_cons, List.sum_cons]

/-- The total counts every connection once. -/
theorem total_ofList (stats : List ConnectionStats) : (ofList stats).total = stats.length := by
  induction stats with
  | nil => rfl
  | cons s rest ih => rw [ofList_cons, List.length_cons, ← ih, add_def]; exact Nat.add_comm 1 _

/-- The connected connections of the sums are those whose state is connected. -/
theorem connected_ofList (stats : List ConnectionStats) :
    (ofList stats).connected = stats.countP fun s => s.state.isConnected := by
  induction stats with
  | nil => rfl
  | cons s rest ih =>
    simp only [ofList_cons, add_def, single, add, zero_def, List.countP_cons, ih,
      Lifecycle.isConnected, beq_iff_eq]
    omega

/-- Every connection is counted for its state, but for those that are disconnected or closed. -/
theorem total_eq_states (stats : List ConnectionStats) :
    (ofList stats).total = (ofList stats).connected + (ofList stats).connecting +
      (ofList stats).reconnecting + (ofList stats).errored +
      stats.countP fun s => s.state = .disconnected ∨ s.state = .closed := by
  induction stats with
  | nil => rfl
  | cons s rest ih =>
    have own : (single s).total = (single s).connected + (single s).connecting +
        (single s).reconnecting + (single s).errored +
        if decide (s.state = .disconnected ∨ s.state = .closed) = true then 1 else 0 := by
      unfold single add
      cases s.state <;> rfl
    rw [ofList_cons, List.countP_cons]
    simp only [add_def]
    omega

end PoolStats

/-! ## Ids -/

namespace Registry

variable {κ : Type} {r r' : Registry κ} {state : κ → Lifecycle} {of : κ → ConnectionStats}
  {id : String}

/-- Ids in ascending order. -/
def sorted (ids : List String) : List String := ids.mergeSort fun a b => decide (a ≤ b)

/-- Sorting ids loses none and invents none. -/
theorem sorted_perm (ids : List String) : (sorted ids).Perm ids := List.mergeSort_perm _ _

/-- Ids of which no two are the same come out in strictly ascending order. -/
theorem pairwise_sorted {ids : List String} (once : ids.Nodup) :
    (sorted ids).Pairwise (· < ·) := by
  have ascending : (sorted ids).Pairwise fun a b => decide (a ≤ b) = true := by
    refine List.pairwise_mergeSort (fun a b c ab bc => ?_) (fun a b => ?_) ids
    · exact decide_eq_true (String.le_trans (of_decide_eq_true ab) (of_decide_eq_true bc))
    · simpa using String.le_total a b
  have apart : (sorted ids).Nodup := (sorted_perm ids).nodup_iff.mpr once
  refine (ascending.and apart).imp fun ⟨le, ne⟩ => ?_
  exact String.not_le.mp fun ge => ne (String.le_antisymm (of_decide_eq_true le) ge)

/-- There is one way to list ids in ascending order. -/
theorem eq_of_ascending {ids ids' : List String} (ascending : ids.Pairwise (· < ·))
    (ascending' : ids'.Pairwise (· < ·)) (same : ids.Perm ids') : ids = ids' :=
  same.eq_of_pairwise (fun _ _ _ _ ab ba => absurd ba (String.lt_asymm ab)) ascending ascending'

/-- The ids of a registry come in strictly ascending order. -/
theorem pairwise_ids (r : Registry κ) : r.ids.Pairwise (· < ·) := pairwise_sorted r.nodup

/-- The ids that are listed are those of the entries. -/
theorem ids_perm (r : Registry κ) : r.ids.Perm (r.entries.map (·.1)) := sorted_perm _

/-- The connected ids that are listed are those of the connected entries. -/
theorem connectedIds_perm (r : Registry κ) (state : κ → Lifecycle) :
    (r.connectedIds state).Perm ((r.connected state).map (·.1)) := sorted_perm _

/-- The connected ids come in strictly ascending order. -/
theorem pairwise_connectedIds (r : Registry κ) (state : κ → Lifecycle) :
    (r.connectedIds state).Pairwise (· < ·) :=
  pairwise_sorted ((List.filter_sublist.map _).nodup r.nodup)

/-- The ids listed are those that the registry says it has. -/
theorem mem_ids_iff : id ∈ r.ids ↔ r.has id = true := by
  rw [r.ids_perm.mem_iff, List.mem_map, has, List.any_eq_true]
  simp only [beq_iff_eq]

/-- A lookup gives the connection registered under the id, and since ids are registered once, no
other. -/
theorem get?_eq_some_iff {k : κ} : r.get? id = some k ↔ (id, k) ∈ r.entries := by
  refine ⟨mem_of_get?, fun mem => ?_⟩
  cases found : r.get? id with
  | none => exact absurd mem (not_mem_of_get? found k)
  | some k' => rw [unique mem (mem_of_get? found)]

/-- The ids of the connections that are connected are those of all ids whose connection is. -/
theorem connectedIds_eq_filter (r : Registry κ) (state : κ → Lifecycle) :
    r.connectedIds state = r.ids.filter fun id => (r.get? id).map state = some .connected := by
  refine eq_of_ascending (r.pairwise_connectedIds state) (r.pairwise_ids.filter _) ?_
  refine (r.connectedIds_perm state).trans (.trans (.of_eq ?_) (r.ids_perm.filter _).symm)
  rw [connected, List.filter_map]
  refine congrArg _ (List.filter_congr fun e mem => ?_)
  have found : r.get? e.1 = some e.2 := get?_eq_some_iff.mpr mem
  rw [Function.comp_apply, found, Option.map_some]
  cases state e.2 <;> rfl

/-! ## Counts -/

/-- The statistics of a registry are those of the list of its connections. -/
theorem poolStats_eq (r : Registry κ) (of : κ → ConnectionStats) :
    r.poolStats of = PoolStats.ofList (r.entries.map fun e => of e.2) := by
  rw [poolStats, stats, List.map_map]
  rfl

/-- The total of the statistics is the size of the registry. -/
theorem total_poolStats (r : Registry κ) (of : κ → ConnectionStats) :
    (r.poolStats of).total = r.size := by
  rw [poolStats_eq, PoolStats.total_ofList, List.length_map, size]

/-- The connected connections of the statistics are as many as the registry counts, if each
connection's statistics tell its state. -/
theorem connected_poolStats (r : Registry κ) (told : ∀ k, (of k).state = state k) :
    (r.poolStats of).connected = r.connectedCount state := by
  rw [poolStats_eq, PoolStats.connected_ofList, List.countP_map, connectedCount, connected,
    ← List.countP_eq_length_filter]
  exact List.countP_congr fun e _ => by rw [Function.comp_apply, told]

/-- The four counts of the statistics leave out exactly the connections that are disconnected or
closed. -/
theorem total_poolStats_eq_states (r : Registry κ) (told : ∀ k, (of k).state = state k) :
    (r.poolStats of).total = (r.poolStats of).connected + (r.poolStats of).connecting +
      (r.poolStats of).reconnecting + (r.poolStats of).errored +
      r.entries.countP fun e => state e.2 = .disconnected ∨ state e.2 = .closed := by
  have idle : (r.entries.map fun e => of e.2).countP
      (fun s => s.state = .disconnected ∨ s.state = .closed) =
      r.entries.countP fun e => state e.2 = .disconnected ∨ state e.2 = .closed := by
    rw [List.countP_map]
    exact List.countP_congr fun e _ => by rw [Function.comp_apply, told]
  rw [poolStats_eq, PoolStats.total_eq_states, idle]

/-- The sums over groups of connections add up to the sums over all. -/
theorem poolStats_eq_sum (r : Registry κ) (of : κ → ConnectionStats)
    {groups : List (List (String × κ))} (cut : groups.flatten.Perm r.entries) :
    r.poolStats of =
      (groups.map fun group => PoolStats.ofList (group.map fun e => of e.2)).sum := by
  rw [poolStats_eq, PoolStats.ofList_perm (cut.symm.map _), List.map_flatten,
    PoolStats.ofList_flatten, List.map_map]
  rfl

/-! ## The order of the entries -/

section Order

variable (order : r.entries.Perm r'.entries)
include order

/-- The ids that are listed do not depend on the order of the entries. -/
theorem ids_eq_of_perm : r.ids = r'.ids :=
  eq_of_ascending r.pairwise_ids r'.pairwise_ids
    (r.ids_perm.trans ((order.map _).trans r'.ids_perm.symm))

/-- A lookup does not depend on the order of the entries. -/
theorem get?_eq_of_perm (id : String) : r.get? id = r'.get? id :=
  Option.ext fun k => by rw [get?_eq_some_iff, get?_eq_some_iff, order.mem_iff]

/-- Whether an id is registered does not depend on the order of the entries. -/
theorem has_eq_of_perm (id : String) : r.has id = r'.has id := by
  rw [← isSome_get?, ← isSome_get?, get?_eq_of_perm order]

/-- The connected ids that are listed do not depend on the order of the entries. -/
theorem connectedIds_eq_of_perm (state : κ → Lifecycle) :
    r.connectedIds state = r'.connectedIds state := by
  rw [connectedIds_eq_filter, connectedIds_eq_filter, ids_eq_of_perm order]
  simp only [get?_eq_of_perm order]

/-- The number of connected connections does not depend on the order of the entries. -/
theorem connectedCount_eq_of_perm (state : κ → Lifecycle) :
    r.connectedCount state = r'.connectedCount state := (order.filter _).length_eq

/-- The statistics do not depend on the order of the entries. -/
theorem poolStats_eq_of_perm (of : κ → ConnectionStats) : r.poolStats of = r'.poolStats of := by
  rw [poolStats_eq, poolStats_eq, PoolStats.ofList_perm (order.map _)]

end Order

end Registry

end StationPool
