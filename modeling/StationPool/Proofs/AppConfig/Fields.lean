import StationPool.AppConfig.Codec
import Mathlib.Data.List.Nodup
import Mathlib.Logic.Function.Basic

/-!
# Records in documents

What a record of a document gives for each of its fields, and what leaving one out does. A field
with a default is a `Column`: its name, the default as it is written, and what it means for the
record to have it. The columns of each kind of record are listed, and reading agrees with the list
(`Tabled`): a record whose field is left out, or written out with the default, is the record with
that field reset.
-/

namespace StationPool.AppConfig

open Function (update)

section

variable {α : Type} {names : List String} {name : String} {j j' : Json}

/-! ## Fields of a record -/

/-- What a record gives for a field: the member of an object, or the item of a list at the place of
the name. -/
def given? (names : List String) (name : String) : Json → Option Json
  | .obj members => Json.lookup name members
  | .arr items => items[names.idxOf name]?
  | _ => none

/-- A record that is read gives for each name what the document gives for it. -/
theorem fields?_eq_map {surplus : Surplus} {fs : List (Option Json)} (once : names.Nodup)
    (read : fields? surplus names j = some fs) : fs = names.map (given? names · j) := by
  unfold fields? at read
  split at read
  case h_1 members => exact (Option.some.inj read).symm
  case h_2 items =>
    split at read
    · cases read
    · rw [← Option.some.inj read]
      refine List.ext_getElem (by simp) fun i _ _ => ?_
      simp [given?, once.idxOf_getElem]
  case h_3 => cases read

/-- Of members with different names each is found. -/
theorem lookup_of_mem {members : List (String × Json)} {value : Json}
    (once : (members.map Prod.fst).Nodup) (member : (name, value) ∈ members) :
    Json.lookup name members = some value := by
  induction members with
  | nil => cases member
  | cons m rest ih =>
    rw [List.map_cons, List.nodup_cons] at once
    obtain rfl | later := List.mem_cons.mp member
    · rw [Json.lookup, if_pos rfl]
    · have apart : m.1 ≠ name := fun same =>
        once.1 (same ▸ List.mem_map_of_mem (f := Prod.fst) later)
      rw [Json.lookup, if_neg apart, ih once.2 later]

/-- A record with all its fields in order gives just these. -/
theorem record?_obj {surplus : Surplus} {build : List (Option Json) → Option α}
    {members : List (String × Json)} (once : names.Nodup) (all : members.map Prod.fst = names) :
    record? surplus names build (.obj members) = build (members.map (some ·.2)) := by
  subst all
  rw [record?, fields?, Option.bind_some, List.map_map]
  exact congrArg build (List.map_congr_left fun _ member => lookup_of_mem once member)

/-- The second document is a record that gives one field as said and every other one as the first
does. -/
structure Restated (names : List String) (name : String) (given : Option Json) (j j' : Json) :
    Prop where
  record : (fields? .refused names j').isSome
  here : given? names name j' = given
  others : ∀ other ∈ names, other ≠ name → given? names other j' = given? names other j

namespace Restated

/-- A record that is restated gives the new value in one field, and in the others what it gave. -/
theorem fields? {given : Option Json} (once : names.Nodup)
    (restated : Restated names name given j j') :
    AppConfig.fields? .refused names j' =
      some (names.map (update (given? names · j) name given)) := by
  obtain ⟨fs, read⟩ := Option.isSome_iff_exists.mp restated.record
  rw [read, fields?_eq_map once read]
  refine congrArg some (List.map_congr_left fun other known => ?_)
  by_cases same : other = name
  · rw [same, Function.update_self, restated.here]
  · rw [Function.update_of_ne same, restated.others other known same]

/-- A member of an object is left out. -/
theorem of_filter (members : List (String × Json)) :
    Restated names name none (.obj members) (.obj (members.filter (·.1 ≠ name))) where
  record := rfl
  here := by
    rw [given?]
    induction members with
    | nil => rfl
    | cons m rest ih => by_cases here : m.1 = name <;> simpa [Json.lookup, here] using ih
  others other _ apart := by
    rw [given?, given?]
    induction members with
    | nil => rfl
    | cons m rest ih =>
      by_cases here : m.1 = name
      · simpa [Json.lookup, here, apart.symm] using ih
      · simpa [Json.lookup, here] using congrArg (if m.1 = other then some m.2 else ·) ih

/-- A member of an object is written out. -/
theorem of_put (value : Json) (members : List (String × Json)) :
    Restated names name (some value) (.obj members) (.obj (Json.put name value members)) where
  record := rfl
  here := Json.lookup_put name value members
  others _ _ apart := Json.lookup_put_of_ne apart value members

end Restated

/-! ## Fields with a default -/

/-- A field of a record that has a default. -/
structure Column (α : Type) where
  name : String
  /-- The default, written out. -/
  standard : Json
  /-- The record with the default in this field. -/
  reset : α → α

/-- The field is left out or written out with its default. -/
def Column.Stands (column : Column α) (given : Option Json) : Prop :=
  given = none ∨ given = some column.standard

/-- The second document is the first with the field left out, or written out with its default. -/
def Column.Rewritten (names : List String) (column : Column α) (j j' : Json) : Prop :=
  ∃ given, column.Stands given ∧ Restated names column.name given j j'

/-- The columns say what a field that is left out or written out with its default does. -/
def Tabled (names : List String) (build : List (Option Json) → Option α)
    (columns : List (Column α)) : Prop :=
  ∀ (given : String → Option Json) (a : α), build (names.map given) = some a →
    ∀ column ∈ columns, ∀ value, column.Stands value →
      build (names.map (update given column.name value)) = some (column.reset a)

variable {build : List (Option Json) → Option α} {columns : List (Column α)} {column : Column α}
  {a : α}

/-- A record that was read is, with a field left out or written out with its default, read as the
record with the field reset. -/
theorem record?_of_rewritten (tabled : Tabled names build columns) (once : names.Nodup)
    (listed : column ∈ columns) (read : record? .refused names build j = some a)
    (rewritten : column.Rewritten names j j') :
    record? .refused names build j' = some (column.reset a) := by
  obtain ⟨given, stands, restated⟩ := rewritten
  obtain ⟨fs, fields, read⟩ := Option.bind_eq_some_iff.mp read
  rw [fields?_eq_map once fields] at read
  rw [record?, restated.fields? once, Option.bind_some]
  exact tabled _ _ read column listed given stands

/-! ## Single values -/

/-- A number of 64 bits is read back. -/
theorem word64?_encodeWord (n : UInt64) : word64? (encodeWord n) = some n := by
  have := n.toNat_lt
  rw [encodeWord, word64?, if_pos (by omega), Int.toNat_natCast, UInt64.ofNat_toNat]

/-- A number of 32 bits is read back. -/
theorem word32?_natCast (n : UInt32) : word32? (.int n.toNat) = some n := by
  have := n.toNat_lt
  rw [word32?, if_pos (by omega), Int.toNat_natCast, UInt32.ofNat_toNat]

@[simp] theorem fieldOr_encodeWord (default n : UInt64) :
    fieldOr default word64? (some (encodeWord n)) = some n := by
  rw [fieldOr, word64?_encodeWord]

@[simp] theorem fieldOr_natCast (default n : UInt32) :
    fieldOr default word32? (some (.int n.toNat)) = some n := by
  rw [fieldOr, word32?_natCast]

@[simp] theorem option?_ofOption (s : Option String) :
    option? Json.str? (.ofOption s) = some s := by
  cases s <;> rfl

@[simp] theorem decodeAuth?_encodeAuth (a : Auth) : decodeAuth? (encodeAuth a) = some a := by
  cases a <;> simp [decodeAuth?, encodeAuth, Json.lookup, Json.str?]

@[simp] theorem option?_encodeAuth (a : Option Auth) :
    option? decodeAuth? ((a.map encodeAuth).getD .null) = some a := by
  cases a with
  | none => rfl
  | some a =>
    have written : ∃ members, encodeAuth a = .obj members := by cases a <;> exact ⟨_, rfl⟩
    obtain ⟨members, obj⟩ := written
    rw [Option.map_some, Option.getD_some, obj, option?, ← obj, decodeAuth?_encodeAuth,
      Option.map_some]
    simp

-- not by computation, so that no step that uses it computes with the bound of a word
/-- A field that is given is read, and its default has no part in it. -/
theorem fieldOr_some {default : α} {read : Json → Option α} (j : Json) :
    fieldOr default read (some j) = read j := by
  rw [fieldOr]

/-- A field that is left out or written out with its default has the default. -/
theorem fieldOr_standard {default : α} {read : Json → Option α} {standard : Json}
    {given : Option Json} (written : read standard = some default)
    (stands : given = none ∨ given = some standard) :
    fieldOr default read given = some default := by
  obtain rfl | rfl := stands
  · rfl
  · exact written

end

/-! ## The columns of each record -/

theorem Logging.names_nodup : Logging.names.Nodup := by decide

theorem CentralSystem.names_nodup : CentralSystem.names.Nodup := by decide

theorem Defaults.names_nodup : Defaults.names.Nodup := by decide

theorem tlsNames_nodup : tlsNames.Nodup := by decide

theorem Runner.names_nodup : Runner.names.Nodup := by decide

theorem Station.names_nodup : Station.names.Nodup := by decide

theorem names_nodup : names.Nodup := by decide

/-- The fields of how to log that have a default. -/
def Logging.columns : List (Column Logging) :=
  [⟨"level", .str "info", fun l => { l with level := "info" }⟩,
    ⟨"json", .bool false, fun l => { l with json := false }⟩]

/-- The fields of where the central system is that have a default. -/
def CentralSystem.columns : List (Column CentralSystem) :=
  [⟨"url", .str "ws://localhost:9000/ocpp",
      fun s => { s with url := "ws://localhost:9000/ocpp" }⟩,
    ⟨"protocol_version", .str "1.6", fun s => { s with protocolVersion := "1.6" }⟩]

/-- The fields of the connection defaults, each with its default. -/
def Defaults.columns : List (Column Defaults) :=
  [⟨"connect_timeout_secs", encodeWord 10, fun d => { d with connectTimeoutSecs := 10 }⟩,
    ⟨"read_timeout_secs", encodeWord 60, fun d => { d with readTimeoutSecs := 60 }⟩,
    ⟨"write_timeout_secs", encodeWord 10, fun d => { d with writeTimeoutSecs := 10 }⟩,
    ⟨"keepalive_interval_secs", encodeWord 30, fun d => { d with keepaliveIntervalSecs := 30 }⟩,
    ⟨"keepalive_timeout_secs", encodeWord 10, fun d => { d with keepaliveTimeoutSecs := 10 }⟩,
    ⟨"reconnect_base_ms", encodeWord 1000, fun d => { d with reconnectBaseMs := 1000 }⟩,
    ⟨"reconnect_max_ms", encodeWord 60000, fun d => { d with reconnectMaxMs := 60000 }⟩,
    ⟨"max_reconnect_attempts", .int 10, fun d => { d with maxReconnectAttempts := 10 }⟩,
    ⟨"send_queue_capacity", encodeWord 100, fun d => { d with sendQueueCapacity := 100 }⟩,
    ⟨"send_timeout_ms", encodeWord 5000, fun d => { d with sendTimeoutMs := 5000 }⟩]

/-- The fields of the TLS material that have a default. -/
def tlsColumns : List (Column Tls) :=
  [⟨"enabled", .bool false, fun t => { t with enabled := false }⟩,
    ⟨"ca_cert", .null, fun t => { t with caCert := none }⟩,
    ⟨"client_cert", .null, fun t => { t with clientCert := none }⟩,
    ⟨"client_key", .null, fun t => { t with clientKey := none }⟩,
    ⟨"insecure_skip_verify", .bool false, fun t => { t with insecureSkipVerify := false }⟩]

/-- The field of how the pool is run, with its default. -/
def Runner.columns : List (Column Runner) :=
  [⟨"shutdown_timeout_secs", encodeWord 30, fun r => { r with shutdownTimeoutSecs := 30 }⟩]

/-- The fields of a station that have a default: all but the id. -/
def Station.columns : List (Column Station) :=
  [⟨"url", .null, fun s => { s with url := none }⟩,
    ⟨"protocol_version", .null, fun s => { s with protocolVersion := none }⟩,
    ⟨"auth", .null, fun s => { s with auth := none }⟩]

/-- Both fields of how to log have a default that stands for being left out. -/
theorem Logging.tabled : Tabled names ofFields? columns := by
  intro given l read
  simp only [names, List.map_cons, List.map_nil, ofFields?, Option.bind_eq_bind,
    Option.bind_eq_some_iff, Option.some_inj] at read
  obtain ⟨level, levelRead, json, jsonRead, rfl⟩ := read
  simp only [columns, List.forall_mem_cons, List.not_mem_nil, false_imp_iff, implies_true,
    and_true]
  refine ⟨?level, ?json⟩ <;> intro value stands
  case level =>
    have left : fieldOr "info" Json.str? value = _ := fieldOr_standard rfl stands
    simp [names, ofFields?, update, *]
  case json =>
    have left : fieldOr false Json.bool? value = _ := fieldOr_standard rfl stands
    simp [names, ofFields?, update, *]

/-- Both fields of the central system have such a default. -/
theorem CentralSystem.tabled : Tabled names ofFields? columns := by
  intro given s read
  simp only [names, List.map_cons, List.map_nil, ofFields?, Option.bind_eq_bind,
    Option.bind_eq_some_iff, Option.some_inj] at read
  obtain ⟨url, urlRead, version, versionRead, rfl⟩ := read
  simp only [columns, List.forall_mem_cons, List.not_mem_nil, false_imp_iff, implies_true,
    and_true]
  refine ⟨?url, ?version⟩ <;> intro value stands
  case url =>
    have left : fieldOr "ws://localhost:9000/ocpp" Json.str? value = _ :=
      fieldOr_standard rfl stands
    simp [names, ofFields?, update, *]
  case version =>
    have left : fieldOr "1.6" Json.str? value = _ := fieldOr_standard rfl stands
    simp [names, ofFields?, update, *]

/-- All fields of the connection defaults have such a default, each in its own unit. -/
theorem Defaults.tabled : Tabled names ofFields? columns := by
  intro given d read
  simp only [names, List.map_cons, List.map_nil, ofFields?, Option.bind_eq_bind,
    Option.bind_eq_some_iff, Option.some_inj] at read
  obtain ⟨connect, connectRead, read, readRead, write, writeRead, interval, intervalRead, timeout,
    timeoutRead, base, baseRead, max, maxRead, attempts, attemptsRead, capacity, capacityRead,
    send, sendRead, rfl⟩ := read
  simp only [columns, List.forall_mem_cons, List.not_mem_nil, false_imp_iff, implies_true,
    and_true]
  refine ⟨?_, ?_, ?_, ?_, ?_, ?_, ?_, ?attempts, ?_, ?_⟩ <;> intro value stands
  case attempts =>
    have left := fieldOr_standard (word32?_natCast 10) stands
    simp [names, ofFields?, update, *]
  all_goals
    have left := fieldOr_standard (word64?_encodeWord _) stands
    simp [names, ofFields?, update, *]

/-- All fields of the TLS material have such a default. -/
theorem tls_tabled : Tabled tlsNames tlsOfFields? tlsColumns := by
  intro given t read
  simp only [tlsNames, List.map_cons, List.map_nil, tlsOfFields?, Option.bind_eq_bind,
    Option.bind_eq_some_iff, Option.some_inj] at read
  obtain ⟨enabled, enabledRead, ca, caRead, cert, certRead, key, keyRead, insecure, insecureRead,
    rfl⟩ := read
  simp only [tlsColumns, List.forall_mem_cons, List.not_mem_nil, false_imp_iff, implies_true,
    and_true]
  refine ⟨?enabled, ?ca, ?cert, ?key, ?insecure⟩ <;> intro value stands
  case enabled | insecure =>
    have left : fieldOr false Json.bool? value = _ := fieldOr_standard rfl stands
    simp [tlsNames, tlsOfFields?, update, *]
  case ca | cert | key =>
    have left : fieldOr none (option? Json.str?) value = _ := fieldOr_standard rfl stands
    simp [tlsNames, tlsOfFields?, update, *]

/-- The one field of how the pool is run has such a default. -/
theorem Runner.tabled : Tabled names ofFields? columns := by
  intro given r read
  simp only [columns, List.forall_mem_cons, List.not_mem_nil, false_imp_iff, implies_true,
    and_true]
  intro value stands
  have left := fieldOr_standard (word64?_encodeWord _) stands
  simp [names, ofFields?, update, *]

/-- All fields of a station but its id have such a default. -/
theorem Station.tabled : Tabled names ofFields? columns := by
  intro given s read
  simp only [names, List.map_cons, List.map_nil] at read
  unfold ofFields? at read
  split at read
  case h_2 => cases read
  case h_1 id url version auth fields =>
    simp only [List.cons.injEq, and_true] at fields
    obtain ⟨idGiven, rfl, rfl, rfl⟩ := fields
    simp only [Option.bind_eq_bind, Option.bind_eq_some_iff, Option.some_inj] at read
    obtain ⟨id, idRead, url, urlRead, version, versionRead, auth, authRead, rfl⟩ := read
    simp only [columns, List.forall_mem_cons, List.not_mem_nil, false_imp_iff, implies_true,
      and_true]
    refine ⟨?url, ?version, ?auth⟩ <;> intro value stands
    case auth =>
      have left : fieldOr none (option? decodeAuth?) value = _ := fieldOr_standard rfl stands
      simp [names, ofFields?, update, *]
    all_goals
      have left : fieldOr none (option? Json.str?) value = _ := fieldOr_standard rfl stands
      simp [names, ofFields?, update, *]

end StationPool.AppConfig
