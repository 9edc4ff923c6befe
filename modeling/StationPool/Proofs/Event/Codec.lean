import StationPool.Event.Codec
import StationPool.Proofs.Json.Text
import StationPool.Proofs.Time.Timestamp

/-!
# Events there and back

Encoding loses nothing: an event, and a message around one, reads back from its own encoding, as a
value and as text, and what was read from anybody's encoding reads back from ours.

The encoding is read by name. So the lemma everything rests on is about any object that gives the
right fields somewhere among its members, with the moment in any text that names it (`Told`); the
encodings written here are two such objects.
-/

namespace StationPool

/-- A number of bytes is a word of 64 bits; nothing else in an event is bounded. -/
def Occurrence.Sized : Occurrence → Prop
  | .messageReceived _ bytes => bytes < 18446744073709551616
  | _ => True

namespace Event

variable {e : Event} {members data : List (String × Json)}

/-! ## What an object says -/

/-- The members give the fields of an event, at any place and among any others, and its moment in
any text that names it. -/
structure Told (e : Event) (data : List (String × Json)) : Prop where
  fields : ∀ field ∈ e.encodeFields, Json.lookup field.1 data = some field.2
  moment : ∃ text, Json.lookup "timestamp" data = some (.str text) ∧
    Timestamp.ofText? text = some e.timestamp

theorem timestamp?_str (text : String) : timestamp? (.str text) = Timestamp.ofText? text := by
  rw [timestamp?, Json.str?, Option.bind_some]

theorem byteCount?_natCast {n : Nat} (sized : n < 18446744073709551616) :
    byteCount? (.int n) = some n := by
  rw [byteCount?, if_pos (by omega), Int.toNat_natCast]

theorem byteCount?_lt {j : Json} {n : Nat} (read : byteCount? j = some n) :
    n < 18446744073709551616 := by
  unfold byteCount? at read
  split at read
  case h_1 m =>
    obtain ⟨range, whole⟩ := Option.ite_none_right_eq_some.mp read
    rw [← Option.some.inj whole]
    exact (Int.toNat_lt range.1).mpr range.2
  case h_2 => cases read

theorem optionalText?_ofOption (reason : Option String) :
    optionalText? (some (.ofOption reason)) = some reason := by
  cases reason <;> rfl

/-- The data is read from the fields alone. -/
theorem decodeData?_of_told (sized : e.what.Sized) (told : e.Told data) :
    decodeData? e.what.tag (.obj data) = some e := by
  obtain ⟨fields, text, found, moment⟩ := told
  have time : timestamp? (.str text) = some e.timestamp := by rw [timestamp?_str, moment]
  obtain ⟨id, what, timestamp⟩ := e
  cases what with
  | stationConnected =>
    simp only [encodeFields, List.forall_mem_cons] at fields
    obtain ⟨idFound, -⟩ := fields
    simp [Occurrence.tag, decodeData?, fields?, idFound, found, time, Json.str?]
  | stationDisconnected reason =>
    simp only [encodeFields, List.forall_mem_cons] at fields
    obtain ⟨idFound, reasonFound, -⟩ := fields
    simp [Occurrence.tag, decodeData?, fields?, idFound, reasonFound, found, time, Json.str?,
      optionalText?_ofOption]
  | messageReceived payload bytes =>
    simp only [encodeFields, List.forall_mem_cons] at fields
    obtain ⟨idFound, payloadFound, bytesFound, -⟩ := fields
    -- by name, so that no step computes with the bound of a word
    obtain ⟨number, numberFound, count⟩ :
        ∃ j, Json.lookup "bytes" data = some j ∧ byteCount? j = some bytes :=
      ⟨_, bytesFound, byteCount?_natCast sized⟩
    simp [Occurrence.tag, decodeData?, fields?, idFound, payloadFound, numberFound, found, time,
      Json.str?, count]
  | stationError message transient =>
    simp only [encodeFields, List.forall_mem_cons] at fields
    obtain ⟨idFound, messageFound, transientFound, -⟩ := fields
    simp [Occurrence.tag, decodeData?, fields?, idFound, messageFound, transientFound, found, time,
      Json.str?, Json.bool?]

/-- An event is read from its tag and any record that tells what it tells. -/
theorem decodeParts?_of_told (sized : e.what.Sized) (told : e.Told data) :
    decodeParts? (some (.str e.what.tag)) (some (.obj data)) = some e :=
  decodeData?_of_told sized told

/-- An event is read from type and data, wherever they stand and whatever stands beside them. -/
theorem decode?_of_told (sized : e.what.Sized)
    (type : Json.lookup "type" members = some (.str e.what.tag))
    (content : Json.lookup "data" members = some (.obj data)) (told : e.Told data) :
    decode? (.obj members) = some e := by
  rw [decode?, type, content, decodeParts?_of_told sized told]

/-- Whatever is read has a number of bytes that fits its word. -/
theorem sized_of_decodeData? {tag : String} {j : Json} (read : decodeData? tag j = some e) :
    e.what.Sized := by
  simp only [decodeData?, Option.bind_eq_bind] at read
  split at read
  case h_5 => cases read
  all_goals
    obtain ⟨fields, -, read⟩ := Option.bind_eq_some_iff.mp read
    split at read
    case h_2 => cases read
    simp only [Option.bind_eq_some_iff, Option.some_inj] at read
  · obtain ⟨id, -, time, -, rfl⟩ := read
    trivial
  · obtain ⟨id, -, reason, -, time, -, rfl⟩ := read
    trivial
  · obtain ⟨id, -, payload, -, bytes, count, time, -, rfl⟩ := read
    exact byteCount?_lt count
  · obtain ⟨id, -, message, -, transient, -, time, -, rfl⟩ := read
    trivial

theorem sized_of_decodeParts? {type content : Option Json}
    (read : decodeParts? type content = some e) : e.what.Sized := by
  simp only [decodeParts?, Option.bind_eq_bind, Option.bind_eq_some_iff] at read
  obtain ⟨_, -, tag, -, j, -, read⟩ := read
  exact sized_of_decodeData? read

/-- What is read fits: no count of an event that was read is wider than 64 bits. -/
theorem sized_of_decode? {j : Json} (read : decode? j = some e) : e.what.Sized := by
  unfold decode? at read
  split at read
  case h_1 => exact sized_of_decodeParts? read
  case h_2 => exact sized_of_decodeParts? read
  case h_3 => cases read

/-! ## What is written -/

/-- The data of an encoded event tells it. -/
theorem told_encode (e : Event) :
    e.Told (e.encodeFields ++ [("timestamp", encodeTimestamp e.timestamp)]) where
  fields := by
    obtain ⟨id, what, timestamp⟩ := e
    cases what <;> simp [encodeFields, Json.lookup]
  moment := by
    refine ⟨e.timestamp.text, ?_, Timestamp.ofText?_text e.timestamp⟩
    obtain ⟨id, what, timestamp⟩ := e
    cases what <;> simp [encodeFields, encodeTimestamp, Json.lookup]

/-- An event whose counts fit is read back. -/
theorem decode?_encode (sized : e.what.Sized) : decode? e.encode = some e :=
  decode?_of_told sized rfl rfl e.told_encode

/-- The data of an encoded event has each field once and whole numbers only. -/
theorem plain_data (e : Event) :
    (Json.obj (e.encodeFields ++ [("timestamp", encodeTimestamp e.timestamp)])).Plain := by
  obtain ⟨id, what, timestamp⟩ := e
  cases what <;>
    simp [encodeFields, encodeTimestamp, Json.plain_ofOption, Json.Plain, Json.PlainMembers]

theorem plain_encode (e : Event) : e.encode.Plain :=
  ⟨by simp [encodeMembers], trivial, e.plain_data, trivial⟩

end Event

/-- A message whose counts fit is read back, its id and moment too. -/
theorem EventMessage.decode?_encode {m : EventMessage} (sized : m.event.what.Sized) :
    EventMessage.decode? m.encode = some m := by
  have event : Event.decodeParts? (some (.str m.event.what.tag)) _ = some m.event :=
    Event.decodeParts?_of_told sized m.event.told_encode
  have moment : Event.timestamp? (Event.encodeTimestamp m.timestamp) = some m.timestamp := by
    rw [Event.encodeTimestamp, Event.timestamp?_str, Timestamp.ofText?_text]
  simp only [EventMessage.decode?, EventMessage.encode, Event.encodeMembers, List.cons_append,
    List.nil_append, Json.lookup, String.reduceEq, if_true, if_false, Json.str?,
    Option.bind_eq_bind, Option.bind_some, event, moment]

theorem EventMessage.plain_encode (m : EventMessage) : m.encode.Plain :=
  ⟨by simp [Event.encodeMembers], trivial, trivial, trivial, m.event.plain_data, trivial⟩

namespace Event

/-- Encoding loses nothing. An event reads back from its encoding and a message from its own, and
from the texts of them; the order of members and any further ones do not matter, nor the offset that
the moment is written at; and whatever is read as an event is written so that it reads as the same
event, which is written the same again. The hypothesis is the size of the number that an event's
bytes are counted in. -/
theorem encoding_lossless :
    (∀ e : Event, e.what.Sized →
      decode? e.encode = some e ∧ (Json.ofText? e.encode.text).bind decode? = some e) ∧
    (∀ m : EventMessage, m.event.what.Sized →
      EventMessage.decode? m.encode = some m ∧
        (Json.ofText? m.encode.text).bind EventMessage.decode? = some m) ∧
    (∀ (e : Event) (members data : List (String × Json)), e.what.Sized →
      Json.lookup "type" members = some (.str e.what.tag) →
      Json.lookup "data" members = some (.obj data) → e.Told data →
      decode? (.obj members) = some e) ∧
    ∀ (j : Json) (e : Event), decode? j = some e →
      decode? e.encode = some e ∧ (decode? e.encode).map encode = some e.encode := by
  refine ⟨fun e sized => ?event, fun m sized => ?message, fun _ _ _ => decode?_of_told,
    fun j e read => ?again⟩
  case event =>
    refine ⟨decode?_encode sized, ?_⟩
    rw [Json.ofText?_text e.plain_encode, Option.bind_some, decode?_encode sized]
  case message =>
    refine ⟨EventMessage.decode?_encode sized, ?_⟩
    rw [Json.ofText?_text m.plain_encode, Option.bind_some, EventMessage.decode?_encode sized]
  case again =>
    have again : decode? e.encode = some e := decode?_encode (sized_of_decode? read)
    exact ⟨again, by rw [again, Option.map_some]⟩

/-- A leap second. -/
def newYearsEve : Timestamp := ⟨⟨2016, 12, 31⟩, 23, 59, 60, 123000000, by decide⟩

/-- An event in a leap second. -/
def lateFarewell : Event := ⟨"CP \"1\"", .stationDisconnected (some "gone\n"), newYearsEve⟩

/-- The data of that event as another hand writes it, two hours ahead and with a member too many. -/
def foreignData : List (String × Json) :=
  [("timestamp", .str "2017-01-01 01:59:60.123+02:00"), ("reason", .str "gone\n"), ("seq", .int 7),
    ("station_id", .str "CP \"1\"")]

/-- A moment within a leap second is read back, and a reason that is given as well. -/
theorem encoding_lossless_of_leap_second :
    let message : EventMessage := ⟨"7", newYearsEve, lateFarewell⟩
    let foreign : List (String × Json) :=
      [("data", .obj foreignData), ("by", .null), ("type", .str "StationDisconnected")]
    (Json.ofText? lateFarewell.encode.text).bind decode? = some lateFarewell ∧
      EventMessage.decode? message.encode = some message ∧
      decode? (.obj foreign) = some lateFarewell ∧
      (decode? lateFarewell.encode).map encode = some lateFarewell.encode := by
  intro message foreign
  obtain ⟨events, messages, others, again⟩ := encoding_lossless
  have told : lateFarewell.Told foreignData := by
    refine ⟨?_, "2017-01-01 01:59:60.123+02:00", rfl, by decide +kernel⟩
    simp [lateFarewell, encodeFields, foreignData, Json.lookup, Json.ofOption]
  have read := others lateFarewell foreign foreignData trivial rfl rfl told
  exact ⟨(events lateFarewell trivial).2, (messages message trivial).1, read, (again _ _ read).2⟩

end Event

end StationPool
