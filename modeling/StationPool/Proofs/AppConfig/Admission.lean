import StationPool.AppConfig.Basic
import StationPool.Proofs.Text.Blank

/-!
# Admissible configurations

The rules of a configuration, each said by itself (`Admissible`), and that validation accepts the
configurations that keep them and no others (`validate_ok_iff`). What the pool is then given are
stations whose ids are trimmed, not empty and all different.
-/

namespace StationPool.AppConfig

variable {c : AppConfig}

/-- The schemes of WebSocket URLs. -/
def schemes : List String := ["ws://", "wss://"]

/-- The text starts with the scheme of a WebSocket URL. -/
def Schemed (url : List Char) : Prop := ∃ scheme ∈ schemes, scheme.toList <+: url

/-- The rules that a configuration keeps. -/
structure Admissible (c : AppConfig) : Prop where
  /-- The base URL has a WebSocket scheme once it is trimmed. -/
  scheme : Schemed (Text.trimChars c.centralSystem.url.toList)
  /-- The send queue holds a frame. -/
  room : 1 ≤ c.defaults.sendQueueCapacity
  /-- No station id is blank. -/
  named : ∀ s ∈ c.stations, ∃ ch ∈ s.id.toList, Text.isBlank ch = false
  /-- No two station ids are equal once they are trimmed. -/
  apart : (c.stations.map fun s => Text.trim s.id).Nodup

/-! ## Validation -/

/-- The scheme is tested on the front of the text. -/
theorem hasWebSocketScheme_iff {url : String} :
    hasWebSocketScheme url = true ↔ Schemed url.toList := by
  simp [hasWebSocketScheme, Schemed, schemes, String.startsWith_string_iff]

/-- An id is blank where nothing is left of it. -/
theorem isEmpty_trim_eq_false_iff {id : String} :
    (Text.trim id).isEmpty = false ↔ ∃ ch ∈ id.toList, Text.isBlank ch = false := by
  rw [Bool.eq_false_iff, Ne, Text.isEmpty_trim_iff, Bool.not_eq_true, Text.isBlankText,
    List.all_eq_false]
  simp only [Bool.not_eq_true]

/-- The ids pass where none is blank or was seen before. -/
theorem checkIds_ok_iff {seen : List String} {stations : List Station} :
    checkIds seen stations = .ok () ↔
      (∀ s ∈ stations, ∃ ch ∈ s.id.toList, Text.isBlank ch = false) ∧
      (stations.map fun s => Text.trim s.id).Nodup ∧
      ∀ s ∈ stations, Text.trim s.id ∉ seen := by
  induction stations generalizing seen with
  | nil => simp [checkIds]
  | cons s rest ih =>
    rw [List.map_cons, List.nodup_cons, List.forall_mem_cons, List.forall_mem_cons, checkIds]
    cases empty : (Text.trim s.id).isEmpty with
    | true =>
      rw [if_pos rfl]
      refine iff_of_false nofun fun keeps => ?_
      have visible := isEmpty_trim_eq_false_iff.mpr keeps.1.1
      rw [empty] at visible
      cases visible
    | false =>
      have visible := isEmpty_trim_eq_false_iff.mp empty
      rw [if_neg Bool.false_ne_true]
      by_cases known : Text.trim s.id ∈ seen
      · rw [if_pos (List.contains_iff_mem.mpr known)]
        exact iff_of_false nofun fun keeps => keeps.2.2.1 known
      · rw [if_neg (mt List.contains_iff_mem.mp known), ih]
        constructor
        · rintro ⟨named, apart, unseen⟩
          refine ⟨⟨visible, named⟩, ⟨fun mem => ?_, apart⟩, known, fun t there => ?_⟩
          · obtain ⟨t, there, same⟩ := List.mem_map.mp mem
            exact unseen t there (same ▸ List.mem_cons_self)
          · exact fun mem => unseen t there (List.mem_cons_of_mem _ mem)
        · rintro ⟨⟨-, named⟩, ⟨other, apart⟩, -, unseen⟩
          refine ⟨named, apart, fun t there mem => ?_⟩
          rcases List.mem_cons.mp mem with same | mem
          · exact other (List.mem_map.mpr ⟨t, there, same⟩)
          · exact unseen t there mem

/-- Validation accepts exactly the admissible configurations. -/
theorem validate_ok_iff : c.validate = .ok () ↔ c.Admissible := by
  have ids : checkIds [] c.stations = .ok () ↔ _ := checkIds_ok_iff
  have scheme : hasWebSocketScheme (Text.trim c.centralSystem.url) = true ↔
      Schemed (Text.trimChars c.centralSystem.url.toList) := by
    rw [← Text.toList_trim]
    exact hasWebSocketScheme_iff
  unfold validate
  dsimp only
  cases schemed : hasWebSocketScheme (Text.trim c.centralSystem.url) with
  | false =>
    simp only [Bool.not_false, if_true, reduceCtorEq, false_iff]
    intro keeps
    rw [scheme.mpr keeps.scheme] at schemed
    cases schemed
  | true =>
    simp only [Bool.not_true, Bool.false_eq_true, if_false]
    by_cases none_ : c.defaults.sendQueueCapacity = 0
    · simp only [none_, if_true, reduceCtorEq, false_iff]
      intro keeps
      have room := keeps.room
      rw [none_] at room
      exact absurd room (by decide)
    · rw [if_neg none_, ids]
      constructor
      · rintro ⟨named, apart, -⟩
        refine ⟨scheme.mp schemed, ?_, named, apart⟩
        rw [UInt64.le_iff_toNat_le]
        exact Nat.pos_of_ne_zero fun zero => none_ (UInt64.toNat_inj.mp zero)
      · exact fun keeps => ⟨keeps.named, keeps.apart, fun _ _ => nofun⟩

/-! ## What the pool is given -/

/-- The ids that the pool is given: those of the stations, in order and trimmed. -/
theorem map_stationId_stationSettings :
    c.stationSettings.map (·.stationId) = c.stations.map fun s => Text.trim s.id :=
  List.map_map

/-- An id that the pool is given is trimmed. -/
theorem trimmed_of_mem {s : StationSettings} (mem : s ∈ c.stationSettings) :
    Text.Trimmed s.stationId.toList := by
  obtain ⟨station, -, rfl⟩ := List.mem_map.mp mem
  rw [Station.settings, Text.toList_trim]
  exact Text.trimmed_trimChars _

namespace Admissible

/-- The ids of an admissible configuration are told apart after they are trimmed, which is how they
are registered. -/
theorem nodup_ids (keeps : c.Admissible) : (c.stationSettings.map (·.stationId)).Nodup :=
  map_stationId_stationSettings ▸ keeps.apart

/-- No id of an admissible configuration is empty after it is trimmed. -/
theorem isEmpty_eq_false (keeps : c.Admissible) {s : StationSettings}
    (mem : s ∈ c.stationSettings) : s.stationId.isEmpty = false := by
  obtain ⟨station, there, rfl⟩ := List.mem_map.mp mem
  exact isEmpty_trim_eq_false_iff.mpr (keeps.named station there)

/-- An id that is trimmed and not empty is not blank. -/
theorem isBlankText_eq_false (keeps : c.Admissible) {s : StationSettings}
    (mem : s ∈ c.stationSettings) : Text.isBlankText s.stationId = false := by
  have same : Text.trim s.stationId = s.stationId := by
    rw [Text.trim, Text.trimChars_of_trimmed (trimmed_of_mem mem), String.ofList_toList]
  rw [Bool.eq_false_iff, Ne, ← Text.isEmpty_trim_iff, same, keeps.isEmpty_eq_false mem]
  exact Bool.false_ne_true

end Admissible

end StationPool.AppConfig
