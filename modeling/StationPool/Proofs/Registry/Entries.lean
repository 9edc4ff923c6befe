import Mathlib.Data.List.Nodup
import StationPool.Registry

/-!
# The entries of a registry

What looking up, adding, removing and erasing say about the entries.
-/

namespace StationPool

namespace Registry

variable {κ : Type} {r r' : Registry κ} {id : String} {k k' : κ}

/-- What a lookup finds is registered. -/
theorem mem_of_get? (found : r.get? id = some k) : (id, k) ∈ r.entries := by
  obtain ⟨⟨id', k'⟩, at_, rfl⟩ := Option.map_eq_some_iff.mp found
  have same : id' = id := by simpa using List.find?_some at_
  exact same ▸ List.mem_of_find?_eq_some at_

/-- Where a lookup finds nothing, nothing is registered. -/
theorem not_mem_of_get? (missing : r.get? id = none) (k : κ) : (id, k) ∉ r.entries := by
  intro mem
  have all := List.find?_eq_none.mp (Option.map_eq_none_iff.mp missing) _ mem
  exact all (beq_self_eq_true id)

/-- An id has one connection at most. -/
theorem unique (mem : (id, k) ∈ r.entries) (mem' : (id, k') ∈ r.entries) : k = k' :=
  (Prod.mk.inj (List.inj_on_of_nodup_map r.nodup mem mem' rfl)).2

/-- To take an id out leaves the entries of the other ids. -/
theorem mem_erase {e : String × κ} : e ∈ (r.erase id).entries ↔ e ∈ r.entries ∧ e.1 ≠ id := by
  simp [erase]

/-- A lookup finds a connection exactly where the registry has the id. -/
theorem isSome_get? (r : Registry κ) (id : String) : (r.get? id).isSome = r.has id := by
  rw [get?, Option.isSome_map, List.isSome_find?, has]

/-- An id without a connection can be given one. -/
theorem add_of_missing (missing : r.get? id = none) (k : κ) :
    ∃ r', r.add id k = .ok r' ∧ r'.entries = r.entries ++ [(id, k)] := by
  have free : r.has id = false := by rw [← isSome_get?, missing, Option.isSome_none]
  exact ⟨_, dif_pos free, rfl⟩

/-- An id with a connection is refused. -/
theorem add_of_there (there : r.get? id = some k') (k : κ) :
    r.add id k = .error (.alreadyExists id) := by
  have taken : r.has id = true := by rw [← isSome_get?, there, Option.isSome_some]
  exact dif_neg (by rw [taken]; exact Bool.noConfusion)

/-- A connection that is added was under an id not taken before, and comes last. -/
theorem add_ok (added : r.add id k = .ok r') :
    (∀ k, (id, k) ∉ r.entries) ∧ r'.entries = r.entries ++ [(id, k)] := by
  unfold add at added
  split at added
  · rename_i free
    cases added
    exact ⟨fun k mem => not_mem_of_has_eq_false free (List.mem_map_of_mem mem), rfl⟩
  · cases added

/-- A connection that is removed was registered under the id, and what is left is the rest. -/
theorem remove_ok (removed : r.remove id = .ok (k, r')) :
    (id, k) ∈ r.entries ∧ r' = r.erase id := by
  unfold remove at removed
  cases found : r.get? id with
  | none => simp [found] at removed
  | some k' =>
    simp only [found, Except.ok.injEq, Prod.mk.injEq] at removed
    obtain ⟨rfl, rfl⟩ := removed
    exact ⟨mem_of_get? found, rfl⟩

/-- A removal that fails found nothing under the id. -/
theorem remove_error {e : PoolError} (refused : r.remove id = .error e) (k : κ) :
    (id, k) ∉ r.entries := by
  unfold remove at refused
  cases found : r.get? id with
  | none => exact not_mem_of_get? found k
  | some k' => simp [found] at refused

/-- Two registries with the same entries are the same. That ids are taken once is no datum. -/
theorem eq_of_entries (same : r.entries = r'.entries) : r = r' := by
  cases r
  cases r'
  cases same
  rfl

/-- A registry with an id that was taken in since loses nothing else with it. -/
theorem erase_eq (vacant : ∀ k, (id, k) ∉ r.entries) (added : List κ)
    (listed : r'.entries = r.entries ++ added.map (id, ·)) : r'.erase id = r := by
  have kept : r.entries.filter (·.1 != id) = r.entries := by
    refine List.filter_eq_self.mpr fun e mem => ?_
    have other : e.1 ≠ id := fun same => vacant e.2 (same ▸ mem)
    simpa using other
  have gone : (added.map (id, ·)).filter (·.1 != id) = [] := by simp [List.filter_map]
  have left_over : r'.entries.filter (·.1 != id) = r.entries := by
    rw [listed, List.filter_append, kept, gone, List.append_nil]
  exact eq_of_entries left_over

end Registry

end StationPool
