import StationPool.Proofs.AppConfig.Admission
import StationPool.Proofs.Pool.Enrolment

/-!
# Starting up

The stations of an accepted configuration, added to a new pool in order. The three places that look
at ids agree: what validation accepts is trimmed on the way to the pool, and there no id is blank or
taken (`accepted_stations_enrol`).
-/

namespace StationPool.AppConfig

open Pool (requested unnamed)

/-- Validation accepts the admissible configurations and no others. The pool is then given one
station for each that is configured, in order, with ids that are trimmed, not empty and all
different. As far as a new pool was asked to add these stations, it has registered every one of them;
an add that fails is not refused for its id, unless a dial brings that error from outside. -/
theorem accepted_stations_enrol (c : AppConfig) :
    (c.validate = .ok () ↔ c.Admissible) ∧
    (c.validate = .ok () →
      c.stationSettings.map (·.stationId) = c.stations.map (fun s => Text.trim s.id) ∧
      (c.stationSettings.map (·.stationId)).Nodup ∧
      (∀ s ∈ c.stationSettings,
        s.stationId.isEmpty = false ∧ Text.Trimmed s.stationId.toList) ∧
      ∀ (base : String) (defaults : ConnectionSettings) (as : List Pool.Action) (p : Pool),
        requested as <+: c.stationSettings.map .add →
        Pool.after { base, defaults } as = some p →
        ∀ n request, .called n request ∈ p.history →
          (∃ k, .registered n k ∈ p.history) ∧
          ∀ e, .returned n (.error e) ∈ p.history →
            (∀ id, e ≠ .alreadyExists id) ∧
            ((∀ a ∈ as, a.brings? ≠ some unnamed) → e ≠ .connection unnamed)) := by
  refine ⟨validate_ok_iff, fun accepted => ?_⟩
  have keeps := validate_ok_iff.mp accepted
  refine ⟨map_stationId_stationSettings, keeps.nodup_ids,
    fun s mem => ⟨keeps.isEmpty_eq_false mem, trimmed_of_mem mem⟩, ?_⟩
  intro base defaults as p order run n request called
  -- a part of the stations, with the ids of all of them different
  have adds : requested as = (c.stationSettings.take (requested as).length).map .add := by
    rw [List.map_take]
    exact List.prefix_iff_eq_take.mp order
  refine Pool.adds_are_taken adds (fun s mem => ?_) ?_ run called
  · exact keeps.isBlankText_eq_false (List.mem_of_mem_take mem)
  · rw [List.map_take]
    exact keeps.nodup_ids.take

/-- Two stations, the first of which cannot be reached. -/
theorem accepted_stations_enrol_beside_failure :
    let c : AppConfig := { stations := [{ id := " A" }, { id := "A B\t" }] }
    let as : List Pool.Action :=
      [.call (.add { stationId := "A" }), .link 0 (.dial 0 (.error (.webSocket .connectionClosed))),
        .call (.add { stationId := "A B" })]
    c.validate = .ok () ∧ requested as = c.stationSettings.map .add ∧
    ∃ p, Pool.after { base := "ws://host", defaults := {} } as = some p ∧
      .returned 0 (.error (.connection (.webSocket .connectionClosed))) ∈ p.history ∧
      ∃ k, .registered 1 k ∈ p.history := by
  intro c as
  have accepted : c.validate = .ok () := by decide +kernel
  have order : requested as = c.stationSettings.map .add := by decide +kernel
  have outcome : (Pool.after { base := "ws://host", defaults := {} } as).map (fun p => decide (
      .returned 0 (.error (.connection (.webSocket .connectionClosed))) ∈ p.history ∧
      .called 1 (.add { stationId := "A B" }) ∈ p.history)) = some true := by
    decide +kernel
  obtain ⟨p, run, outcome⟩ := Option.map_eq_some_iff.mp outcome
  obtain ⟨failed, called⟩ := of_decide_eq_true outcome
  obtain ⟨-, -, -, enrols⟩ := (accepted_stations_enrol c).2 accepted
  exact ⟨accepted, order, p, run, failed,
    (enrols _ _ as p (order ▸ List.prefix_rfl) run 1 _ called).1⟩

end StationPool.AppConfig
