import StationPool.Proofs.AppConfig.Fields
import StationPool.Proofs.Json.Text

/-!
# Configurations and their documents

A configuration reads back from its own document, as a value and as text. And a document says no
more than what it gives: wherever a section or a field has a default, leaving it out and writing the
default come to the same configuration, the one read before with that place reset
(`decode?_of_rewrites`).
-/

namespace StationPool.AppConfig

open Function (update)

variable {c : AppConfig} {surplus : Surplus} {given : String → Option Json} {j j' : Json}

/-! ## Sections there and back -/

/-- How to log is read back as it was written. -/
theorem Logging.decode?_encode (l : Logging) : Logging.decode? surplus l.encode = some l :=
  record?_obj names_nodup rfl

/-- The central system is read back as it was written. -/
theorem CentralSystem.decode?_encode (s : CentralSystem) :
    CentralSystem.decode? surplus s.encode = some s :=
  record?_obj names_nodup rfl

/-- The connection defaults are read back as they were written. -/
theorem Defaults.decode?_encode (d : Defaults) : Defaults.decode? surplus d.encode = some d := by
  rw [decode?, encode, record?_obj names_nodup rfl]
  simp only [List.map_cons, List.map_nil, ofFields?, fieldOr_encodeWord, fieldOr_natCast,
    Option.bind_eq_bind, Option.bind_some]

/-- The TLS material is read back as it was written. -/
theorem decodeTls?_encodeTls (t : Tls) : decodeTls? surplus (encodeTls t) = some t := by
  rw [decodeTls?, encodeTls, record?_obj tlsNames_nodup rfl]
  simp [tlsOfFields?, fieldOr_some, Json.bool?]

/-- How the pool is run is read back as it was written. -/
theorem Runner.decode?_encode (r : Runner) : Runner.decode? surplus r.encode = some r := by
  rw [decode?, encode, record?_obj names_nodup rfl]
  simp only [List.map_cons, List.map_nil, ofFields?, fieldOr_encodeWord, Option.bind_eq_bind,
    Option.bind_some]

/-- A station is read back as it was written, its credentials too. -/
theorem Station.decode?_encode (s : Station) : Station.decode? surplus s.encode = some s := by
  rw [decode?, encode, record?_obj names_nodup rfl]
  simp [ofFields?, fieldOr_some, Json.str?]

/-- All stations are read back, in order. -/
theorem stations?_encode (stations : List Station) :
    stations? surplus (.arr (stations.map Station.encode)) = some stations := by
  rw [stations?]
  induction stations with
  | nil => rfl
  | cons s rest ih =>
    rw [List.map_cons, List.mapM_cons, Station.decode?_encode, ih]
    rfl

/-! ## The whole configuration there and back -/

/-- A configuration is read back as it was written, whether unknown fields are refused or not. -/
theorem decode?_encode (c : AppConfig) : decode? surplus c.encode = some c := by
  rw [decode?, encode, record?_obj names_nodup rfl]
  simp only [List.map_cons, List.map_nil, ofFields?, fieldOr_some, Logging.decode?_encode,
    CentralSystem.decode?_encode, Defaults.decode?_encode, decodeTls?_encodeTls,
    Runner.decode?_encode, stations?_encode, Option.bind_eq_bind, Option.bind_some]

/-- A station is written as plain JSON, so that its text can be read back. -/
theorem plain_station (s : Station) : s.encode.Plain := by
  have auth : ((s.auth.map encodeAuth).getD .null).Plain := by
    cases s.auth with
    | none => trivial
    | some a => cases a <;> simp [encodeAuth, Json.Plain, Json.PlainMembers]
  refine ⟨Station.names_nodup, trivial, Json.plain_ofOption _, Json.plain_ofOption _, auth,
    trivial⟩

/-- Stations are written as plain JSON. -/
theorem plain_stations (stations : List Station) :
    Json.PlainItems (stations.map Station.encode) := by
  induction stations with
  | nil => trivial
  | cons s rest ih => exact ⟨plain_station s, ih⟩

/-- The document of a configuration has whole numbers only and each name once. -/
theorem plain_encode (c : AppConfig) : c.encode.Plain := by
  refine ⟨names_nodup, ⟨Logging.names_nodup, ?_⟩, ⟨CentralSystem.names_nodup, ?_⟩,
    ⟨Defaults.names_nodup, ?_⟩, ⟨tlsNames_nodup, ?_⟩, ⟨Runner.names_nodup, ?_⟩,
    plain_stations c.stations, trivial⟩
  all_goals simp [Json.PlainMembers, Json.Plain, encodeWord, Json.plain_ofOption]

/-- The text of a configuration is read back as the configuration. -/
theorem ofText?_text_encode (c : AppConfig) :
    (Json.ofText? c.encode.text).bind (decode? surplus) = some c := by
  rw [Json.ofText?_text c.plain_encode, Option.bind_some, decode?_encode]

/-- Read back, a configuration is judged as before. -/
theorem ofJson_encode (c : AppConfig) : ofJson c.encode = c.validated := by
  rw [ofJson, decode?_encode]

/-! ## Sections of a document -/

/-- The sections of a configuration that have a default: all of them. -/
def columns : List (Column AppConfig) :=
  [⟨"logging", ({} : Logging).encode, fun c => { c with logging := {} }⟩,
    ⟨"central_system", ({} : CentralSystem).encode, fun c => { c with centralSystem := {} }⟩,
    ⟨"defaults", ({} : Defaults).encode, fun c => { c with defaults := {} }⟩,
    ⟨"tls", encodeTls {}, fun c => { c with tls := {} }⟩,
    ⟨"runner", ({} : Runner).encode, fun c => { c with runner := {} }⟩,
    ⟨"stations", .arr [], fun c => { c with stations := [] }⟩]

/-- What is given for each section is read as the section of the configuration. -/
structure Sections (given : String → Option Json) (c : AppConfig) : Prop where
  logging : fieldOr {} (Logging.decode? .refused) (given "logging") = some c.logging
  centralSystem :
    fieldOr {} (CentralSystem.decode? .refused) (given "central_system") = some c.centralSystem
  defaults : fieldOr {} (Defaults.decode? .refused) (given "defaults") = some c.defaults
  tls : fieldOr {} (decodeTls? .refused) (given "tls") = some c.tls
  runner : fieldOr {} (Runner.decode? .refused) (given "runner") = some c.runner
  stations : fieldOr [] (stations? .refused) (given "stations") = some c.stations

/-- A configuration is built from its fields exactly if each section is read. -/
theorem ofFields?_eq_some_iff :
    ofFields? .refused (names.map given) = some c ↔ Sections given c := by
  simp only [names, List.map_cons, List.map_nil, ofFields?, Option.bind_eq_bind,
    Option.bind_eq_some_iff, Option.some_inj]
  constructor
  · rintro ⟨_, logging, _, central, _, defaults, _, tls, _, runner, _, stations, rfl⟩
    exact ⟨logging, central, defaults, tls, runner, stations⟩
  · rintro ⟨logging, central, defaults, tls, runner, stations⟩
    exact ⟨_, logging, _, central, _, defaults, _, tls, _, runner, _, stations, rfl⟩

/-- A document that is read as a configuration gives all its sections. -/
theorem sections_of_decode? (read : decode? .refused j = some c) :
    Sections (given? names · j) c := by
  obtain ⟨fs, fields, read⟩ := Option.bind_eq_some_iff.mp read
  rw [fields?_eq_map names_nodup fields] at read
  exact ofFields?_eq_some_iff.mp read

/-- A document that restates one section is read with that section, if it can be read. -/
theorem decode?_of_restated {name : String} {value : Option Json}
    (restated : Restated names name value j j')
    (sections : Sections (update (given? names · j) name value) c) :
    decode? .refused j' = some c := by
  rw [decode?, record?, restated.fields? names_nodup, Option.bind_some]
  exact ofFields?_eq_some_iff.mpr sections

/-- Every section of a configuration has a default that stands for being left out. -/
theorem tabled : Tabled names (ofFields? .refused) columns := by
  intro given c read
  have sections := ofFields?_eq_some_iff.mp read
  simp only [columns, List.forall_mem_cons, List.not_mem_nil, false_imp_iff, implies_true,
    and_true, ofFields?_eq_some_iff]
  refine ⟨?logging, ?central, ?defaults, ?tls, ?runner, ?stations⟩ <;> intro value stands
  case logging =>
    exact { sections with logging := fieldOr_standard (Logging.decode?_encode {}) stands }
  case central =>
    exact { sections with
      centralSystem := fieldOr_standard (CentralSystem.decode?_encode {}) stands }
  case defaults =>
    exact { sections with defaults := fieldOr_standard (Defaults.decode?_encode {}) stands }
  case tls => exact { sections with tls := fieldOr_standard (decodeTls?_encodeTls {}) stands }
  case runner =>
    exact { sections with runner := fieldOr_standard (Runner.decode?_encode {}) stands }
  case stations => exact { sections with stations := fieldOr_standard (stations?_encode []) stands }

/-! ## Places with a default -/

/-- A place of a configuration that has a default: a section, a field of one, or a field of a
station. -/
inductive Place where
  | whole (column : Column AppConfig) (listed : column ∈ columns)
  | logging (column : Column Logging) (listed : column ∈ Logging.columns)
  | centralSystem (column : Column CentralSystem) (listed : column ∈ CentralSystem.columns)
  | defaults (column : Column Defaults) (listed : column ∈ Defaults.columns)
  | tls (column : Column Tls) (listed : column ∈ tlsColumns)
  | runner (column : Column Runner) (listed : column ∈ Runner.columns)
  | station (i : Nat) (column : Column Station) (listed : column ∈ Station.columns)

/-- The configuration with the default at a place. -/
def Place.reset : Place → AppConfig → AppConfig
  | .whole column _, c => column.reset c
  | .logging column _, c => { c with logging := column.reset c.logging }
  | .centralSystem column _, c => { c with centralSystem := column.reset c.centralSystem }
  | .defaults column _, c => { c with defaults := column.reset c.defaults }
  | .tls column _, c => { c with tls := column.reset c.tls }
  | .runner column _, c => { c with runner := column.reset c.runner }
  | .station i column _, c => { c with stations := c.stations.modify i column.reset }

/-- The second document is the first with one section rewritten; a section that is left out counts
as an empty one. -/
def Inside (name : String) (rewritten : Json → Json → Prop) (j j' : Json) : Prop :=
  ∃ given, rewritten ((given? names name j).getD (.obj [])) (given.getD (.obj [])) ∧
    Restated names name given j j'

/-- The second document is the first with one station rewritten. -/
def InStation (i : Nat) (rewritten : Json → Json → Prop) (j j' : Json) : Prop :=
  ∃ items item item', given? names "stations" j = some (.arr items) ∧ items[i]? = some item ∧
    rewritten item item' ∧ Restated names "stations" (some (.arr (items.set i item'))) j j'

/-- The second document is the first with a place left out, or written out with its default. -/
def Place.Rewritten : Place → Json → Json → Prop
  | .whole column _ => column.Rewritten names
  | .logging column _ => Inside "logging" (column.Rewritten Logging.names)
  | .centralSystem column _ => Inside "central_system" (column.Rewritten CentralSystem.names)
  | .defaults column _ => Inside "defaults" (column.Rewritten Defaults.names)
  | .tls column _ => Inside "tls" (column.Rewritten tlsNames)
  | .runner column _ => Inside "runner" (column.Rewritten Runner.names)
  | .station i column _ => InStation i (column.Rewritten Station.names)

/-- A section that is left out reads as an empty one. -/
theorem read_getD {α : Type} {default : α} {read : Json → Option α} (given : Option Json)
    (empty : read (.obj []) = some default) :
    read (given.getD (.obj [])) = fieldOr default read given := by
  cases given with
  | none => exact empty
  | some j => rfl

/-- A section that was read is, with a field left out or written out with its default, read as the
section with the field reset; either may be left out for an empty one. -/
theorem fieldOr_of_rewritten {α : Type} {names : List String}
    {build : List (Option Json) → Option α} {columns : List (Column α)} {column : Column α}
    {default a : α} {given given' : Option Json} (tabled : Tabled names build columns)
    (once : names.Nodup) (empty : record? .refused names build (.obj []) = some default)
    (listed : column ∈ columns)
    (read : fieldOr default (record? .refused names build) given = some a)
    (rewritten : column.Rewritten names (given.getD (.obj [])) (given'.getD (.obj []))) :
    fieldOr default (record? .refused names build) given' = some (column.reset a) := by
  rw [← read_getD given empty] at read
  rw [← read_getD given' empty]
  exact record?_of_rewritten tabled once listed read rewritten

/-- One item of a list that was read is replaced by another that is read. -/
theorem mapM_set {α β : Type} {read : α → Option β} {change : β → β} {items : List α}
    {values : List β} {i : Nat} {item item' : α} (all : items.mapM read = some values)
    (at_ : items[i]? = some item)
    (replaced : ∀ value, read item = some value → read item' = some (change value)) :
    (items.set i item').mapM read = some (values.modify i change) := by
  induction items generalizing values i with
  | nil => cases at_
  | cons first rest ih =>
    simp only [List.mapM_cons, Option.bind_eq_bind, Option.bind_eq_some_iff] at all
    obtain ⟨value, firstRead, more, restRead, whole⟩ := all
    cases whole
    cases i with
    | zero =>
      cases at_
      rw [List.set_cons_zero, List.mapM_cons, replaced value firstRead, restRead]
      rfl
    | succ i =>
      rw [List.set_cons_succ, List.mapM_cons, firstRead, ih restRead at_]
      rfl

/-- Each item of a list that was read was read. -/
theorem read_of_mapM {α β : Type} {read : α → Option β} {items : List α} {values : List β} {i : Nat}
    {item : α} {value : β} (all : items.mapM read = some values) (at_ : items[i]? = some item)
    (here : values[i]? = some value) : read item = some value := by
  induction items generalizing values i with
  | nil => cases at_
  | cons first rest ih =>
    simp only [List.mapM_cons, Option.bind_eq_bind, Option.bind_eq_some_iff] at all
    obtain ⟨_, firstRead, more, restRead, whole⟩ := all
    cases whole
    cases i with
    | zero =>
      cases at_
      cases here
      exact firstRead
    | succ i => exact ih restRead at_ here

/-- A document that was read is, with a place left out or written out with its default, read as the
configuration with that place reset. -/
theorem decode?_of_rewritten {p : Place} (read : decode? .refused j = some c)
    (rewritten : p.Rewritten j j') : decode? .refused j' = some (p.reset c) := by
  have sections := sections_of_decode? read
  cases p with
  | whole column listed => exact record?_of_rewritten tabled names_nodup listed read rewritten
  | logging column listed =>
    obtain ⟨given, rewritten, restated⟩ := rewritten
    have inside := fieldOr_of_rewritten Logging.tabled Logging.names_nodup rfl listed
      sections.logging rewritten
    exact decode?_of_restated restated { sections with logging := inside }
  | centralSystem column listed =>
    obtain ⟨given, rewritten, restated⟩ := rewritten
    have inside := fieldOr_of_rewritten CentralSystem.tabled CentralSystem.names_nodup rfl listed
      sections.centralSystem rewritten
    exact decode?_of_restated restated { sections with centralSystem := inside }
  | defaults column listed =>
    obtain ⟨given, rewritten, restated⟩ := rewritten
    have inside := fieldOr_of_rewritten Defaults.tabled Defaults.names_nodup rfl listed
      sections.defaults rewritten
    exact decode?_of_restated restated { sections with defaults := inside }
  | tls column listed =>
    obtain ⟨given, rewritten, restated⟩ := rewritten
    have inside := fieldOr_of_rewritten tls_tabled tlsNames_nodup rfl listed sections.tls
      rewritten
    exact decode?_of_restated restated { sections with tls := inside }
  | runner column listed =>
    obtain ⟨given, rewritten, restated⟩ := rewritten
    have inside := fieldOr_of_rewritten Runner.tabled Runner.names_nodup rfl listed sections.runner
      rewritten
    exact decode?_of_restated restated { sections with runner := inside }
  | station i column listed =>
    obtain ⟨items, item, item', listedItems, at_, rewritten, restated⟩ := rewritten
    have all := sections.stations
    rw [listedItems, fieldOr_some, stations?] at all
    have inside := mapM_set all at_ fun s read =>
      record?_of_rewritten Station.tabled Station.names_nodup listed read rewritten
    exact decode?_of_restated restated { sections with stations := inside }

/-- The second document is the first with some places, one after another, left out or written out
with their defaults. -/
inductive Rewrites : List Place → Json → Json → Prop where
  | refl (j : Json) : Rewrites [] j j
  | step {p : Place} {rest : List Place} {j j' j'' : Json} (first : p.Rewritten j j')
    (more : Rewrites rest j' j'') : Rewrites (p :: rest) j j''

/-- The configuration with the defaults at some places. -/
def resetAll (places : List Place) (c : AppConfig) : AppConfig :=
  places.foldl (fun c p => p.reset c) c

/-- A document with some places left out or written out with their defaults is read as the
configuration with the defaults at these places. Neither form is told from the other. -/
theorem decode?_of_rewrites {places : List Place} (read : decode? .refused j = some c)
    (rewrites : Rewrites places j j') : decode? .refused j' = some (resetAll places c) := by
  induction rewrites generalizing c with
  | refl => exact read
  | step first _ ih => exact ih (decode?_of_rewritten read first)

/-- The tables are complete: they list all fields and sections with what an empty one has, and of a
station all but the id. -/
theorem columns_complete :
    (.obj (Logging.columns.map fun f => (f.name, f.standard)) = ({} : Logging).encode ∧
      .obj (CentralSystem.columns.map fun f => (f.name, f.standard)) =
        ({} : CentralSystem).encode ∧
      .obj (Defaults.columns.map fun f => (f.name, f.standard)) = ({} : Defaults).encode ∧
      .obj (tlsColumns.map fun f => (f.name, f.standard)) = encodeTls {} ∧
      .obj (Runner.columns.map fun f => (f.name, f.standard)) = ({} : Runner).encode) ∧
    .obj (columns.map fun f => (f.name, f.standard)) = ({} : AppConfig).encode ∧
    Station.names = "id" :: Station.columns.map Column.name :=
  ⟨⟨rfl, rfl, rfl, rfl, rfl⟩, rfl, rfl⟩

/-! ## Stations without credentials -/

/-- The credentials of a document that say there are none. -/
def SaysNone : Json → Prop
  | .obj members => Json.lookup "type" members = some (.str "none")
  | .arr items => items = [.str "none"]
  | _ => False

/-- A text is read only from a string. -/
theorem text_eq_some_iff {text : String} {given : Option Json} :
    given.bind Json.str? = some text ↔ given = some (.str text) := by
  cases given with
  | none => simp
  | some j => cases j <;> simp [Json.str?]

/-- No credentials are read exactly from a document that says so, not from one that says nothing. -/
theorem decodeAuth?_eq_none_iff : decodeAuth? j = some .none ↔ SaysNone j := by
  unfold decodeAuth?
  split
  case h_1 members =>
    rw [SaysNone, ← text_eq_some_iff]
    dsimp only
    split
    case h_1 kind => exact iff_of_true rfl kind
    case h_2 kind => simp [kind, Option.bind_eq_some_iff]
    case h_3 kind =>
      rw [kind]
      exact iff_of_false (by cases (Json.lookup "token" members).bind Json.str? <;> nofun) nofun
    case h_4 notNone _ _ => exact iff_of_false nofun notNone
  case h_5 notObj notNone _ _ =>
    refine iff_of_false nofun fun said => ?_
    cases j with
    | obj members => exact notObj members rfl
    | arr items => exact notNone (congrArg Json.arr said)
    | _ => exact said
  all_goals simp [SaysNone]

/-- The credentials of a station are read from its own field. -/
theorem Station.auth_of_decode? {s : Station} (read : Station.decode? .refused j = some s) :
    fieldOr none (option? decodeAuth?) (given? names "auth" j) = some s.auth := by
  obtain ⟨fs, fields, read⟩ := Option.bind_eq_some_iff.mp read
  rw [fields?_eq_map names_nodup fields] at read
  simp only [names, List.map_cons, List.map_nil] at read
  unfold ofFields? at read
  split at read
  case h_2 => cases read
  case h_1 id url version auth fields =>
    simp only [List.cons.injEq, and_true] at fields
    obtain ⟨-, -, -, rfl⟩ := fields
    simp only [Option.bind_eq_bind, Option.bind_eq_some_iff, Option.some_inj] at read
    obtain ⟨-, -, -, -, -, -, auth, authRead, rfl⟩ := read
    exact authRead

/-- The documents of stations without credentials of their own. -/
theorem Station.auth_eq_none_iff {s : Station} (read : Station.decode? .refused j = some s) :
    s.auth = none ↔ given? names "auth" j = none ∨ given? names "auth" j = some .null := by
  have auth := auth_of_decode? read
  cases given : given? names "auth" j with
  | none =>
    rw [given] at auth
    exact iff_of_true (Option.some.inj auth).symm (.inl rfl)
  | some a =>
    rw [given, fieldOr_some] at auth
    unfold option? at auth
    split at auth
    case h_1 => exact iff_of_true (Option.some.inj auth).symm (.inr rfl)
    case h_2 notNull =>
      obtain ⟨kind, -, own⟩ := Option.map_eq_some_iff.mp auth
      rw [← own]
      exact iff_of_false nofun fun absent => absent.elim nofun fun null =>
        notNull (Option.some.inj null)

/-- The documents of stations that have no credentials. -/
theorem Station.auth_eq_some_none_iff {s : Station} (read : Station.decode? .refused j = some s) :
    s.auth = some .none ↔ ∃ a, given? names "auth" j = some a ∧ SaysNone a := by
  have auth := auth_of_decode? read
  cases given : given? names "auth" j with
  | none =>
    rw [given] at auth
    rw [← Option.some.inj auth]
    exact iff_of_false nofun fun ⟨_, absent, _⟩ => nomatch absent
  | some a =>
    rw [given, fieldOr_some] at auth
    simp only [Option.some_inj, exists_eq_left', ← decodeAuth?_eq_none_iff]
    unfold option? at auth
    split at auth
    case h_1 =>
      rw [← Option.some.inj auth]
      exact iff_of_false nofun nofun
    case h_2 =>
      obtain ⟨kind, kindRead, own⟩ := Option.map_eq_some_iff.mp auth
      rw [← own, kindRead]

/-- A station without credentials of its own has those of the defaults. One that says it has none
has none. -/
theorem Station.auth_withDefaults (s : Station) (base : String) (d : ConnectionSettings) :
    (s.settings.withDefaults base d).auth = s.auth.getD d.auth := rfl

/-! ## What a document keeps -/

/-- The defaults of a configuration are the standard settings of a connection. -/
theorem connectionDefaults_standard (c : AppConfig) :
    connectionDefaults { c with centralSystem := {}, defaults := {}, tls := {} } = {} := by
  have sendTimeout : Duration.ofMillis 5000 = .ofSecs 5 := by decide
  have backoff : (⟨.ofMillis 1000, .ofMillis 60000⟩ : Backoff) = .standard := by decide
  have version : "1.6" = Version.standard.number := by decide
  simp only [connectionDefaults, sendTimeout, backoff, version]
  rfl

/-- Each station of a configuration is read from the item at its place. -/
theorem station_of_decode? {items : List Json} {i : Nat} {item : Json} {s : Station}
    (read : decode? .refused j = some c) (listed : given? names "stations" j = some (.arr items))
    (at_ : items[i]? = some item) (station : c.stations[i]? = some s) :
    Station.decode? .refused item = some s := by
  have all := (sections_of_decode? read).stations
  rw [listed, fieldOr_some, stations?] at all
  exact read_of_mapM all at_ station

/-- A configuration reads back from its document, as a value and as text, and is judged as before.

A document that is read as a configuration is, with any places that have a default left out or
written out with it, read as the configuration with these places reset; so it makes no difference
which of the two was done where, nor whether a place was left out from the start. A configuration
whose central system, connection defaults and TLS material are reset starts its stations from the
standard settings.

A station without credentials of its own and one that has none at all are told apart by their
documents, by what is read from them, and by whose credentials the station dials with. -/
theorem documents_keep_configurations (c : AppConfig) :
    (decode? .refused c.encode = some c ∧
      (Json.ofText? c.encode.text).bind (decode? .refused) = some c ∧
      ofJson c.encode = c.validated) ∧
    (∀ j, decode? .refused j = some c → ∀ places j', Rewrites places j j' →
      decode? .refused j' = some (resetAll places c)) ∧
    connectionDefaults { c with centralSystem := {}, defaults := {}, tls := {} } = {} ∧
    (∀ (j item : Json) (items : List Json) (i : Nat) (s : Station), decode? .refused j = some c →
      given? names "stations" j = some (.arr items) → items[i]? = some item →
      c.stations[i]? = some s →
        (s.auth = none ↔ given? Station.names "auth" item = none ∨
          given? Station.names "auth" item = some .null) ∧
        (s.auth = some .none ↔ ∃ a, given? Station.names "auth" item = some a ∧ SaysNone a)) ∧
    ∀ (heir anonymous : Station) (base : String) (d : ConnectionSettings),
      heir.auth = none → anonymous.auth = some .none →
        heir.encode ≠ anonymous.encode ∧ (heir.settings.withDefaults base d).auth = d.auth ∧
        (anonymous.settings.withDefaults base d).auth = .none := by
  refine ⟨⟨decode?_encode c, ofText?_text_encode c, ofJson_encode c⟩,
    fun j read places j' rewrites => decode?_of_rewrites read rewrites,
    connectionDefaults_standard c, ?told, ?apart⟩
  case told =>
    intro j item items i s read listed at_ station
    have own := station_of_decode? read listed at_ station
    exact ⟨Station.auth_eq_none_iff own, Station.auth_eq_some_none_iff own⟩
  case apart =>
    intro heir anonymous base d inherits none_
    refine ⟨fun same => ?different, ?inherited, ?own⟩
    case different =>
      have read := congrArg (Station.decode? .refused) same
      rw [Station.decode?_encode, Station.decode?_encode, Option.some_inj] at read
      rw [read, none_] at inherits
      cases inherits
    case inherited => rw [Station.auth_withDefaults, inherits, Option.getD_none]
    case own => rw [Station.auth_withDefaults, none_, Option.getD_some]

/-- How to log is left out and the read timeout written out, or the other way round. -/
theorem documents_keep_configurations_of_partial :
    let document : Json := .obj [("logging", .obj [("level", .str "debug")]),
      ("defaults", .obj [("read_timeout_secs", .int 5)]), ("stations", .arr [.arr [.str "CP1"]])]
    let short : Json := .obj [("defaults", .obj [("read_timeout_secs", .int 60)]),
      ("stations", .arr [.arr [.str "CP1"]])]
    let long : Json := .obj [("logging", ({} : Logging).encode), ("defaults", .obj []),
      ("stations", .arr [.arr [.str "CP1"]])]
    decode? .refused document =
        some { logging := { level := "debug" }, defaults := { readTimeoutSecs := 5 },
               stations := [{ id := "CP1" }] } ∧
      decode? .refused short = some { stations := [{ id := "CP1" }] } ∧
      decode? .refused long = some { stations := [{ id := "CP1" }] } := by
  intro document short long
  have read : decode? .refused document =
      some { logging := { level := "debug" }, defaults := { readTimeoutSecs := 5 },
             stations := [{ id := "CP1" }] } := by rfl
  let places : List Place :=
    [.whole ⟨"logging", ({} : Logging).encode, fun c => { c with logging := {} }⟩
        (List.mem_cons_self ..),
      .defaults ⟨"read_timeout_secs", encodeWord 60, fun d => { d with readTimeoutSecs := 60 }⟩
        (List.mem_cons_of_mem _ (List.mem_cons_self ..))]
  have toShort : Rewrites places document short :=
    .step ⟨none, .inl rfl, Restated.of_filter _⟩
      (.step ⟨some (.obj [("read_timeout_secs", .int 60)]),
        ⟨_, .inr rfl, Restated.of_put _ _⟩, Restated.of_put _ _⟩ (.refl _))
  have toLong : Rewrites places document long :=
    .step ⟨_, .inr rfl, Restated.of_put _ _⟩
      (.step ⟨some (.obj []), ⟨none, .inl rfl, Restated.of_filter _⟩, Restated.of_put _ _⟩
        (.refl _))
  have keeps := (documents_keep_configurations _).2.1 document read places
  exact ⟨read, keeps short toShort, keeps long toLong⟩

end StationPool.AppConfig
