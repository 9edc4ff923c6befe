import StationPool.Event.Basic
import StationPool.Json.Basic

/-!
# Events as JSON

An event is an object with the members `type` and `data`; in a message the two stand beside `id` and
`timestamp`. Writing gives every field, an absent reason as null.

Reading takes members in any order, ignores others, and takes the reason as absent where it is left
out. The event may also be a list of type and data, the data a list of all their fields, and a type
an object whose one member has the name and is null. A message is always an object.
-/

namespace StationPool

/-- The name of an occurrence in encoded events. -/
def Occurrence.tag : Occurrence → String
  | .stationConnected => "StationConnected"
  | .stationDisconnected _ => "StationDisconnected"
  | .messageReceived .. => "MessageReceived"
  | .stationError .. => "StationError"

namespace Event

/-! ## Writing -/

/-- A moment. -/
def encodeTimestamp (t : Timestamp) : Json := .str t.text

/-- The data of an event without its moment. -/
def encodeFields (e : Event) : List (String × Json) :=
  ("station_id", .str e.stationId) ::
    match e.what with
    | .stationConnected => []
    | .stationDisconnected reason => [("reason", .ofOption reason)]
    | .messageReceived payload bytes => [("payload", .str payload), ("bytes", .int bytes)]
    | .stationError message transient =>
      [("message", .str message), ("transient", .bool transient)]

/-- The members of an encoded event. -/
def encodeMembers (e : Event) : List (String × Json) :=
  [("type", .str e.what.tag),
    ("data", .obj (e.encodeFields ++ [("timestamp", encodeTimestamp e.timestamp)]))]

/-- An event. -/
def encode (e : Event) : Json := .obj e.encodeMembers

/-! ## Reading -/

/-- The fields of a record in order: from an object by name, from a list of exactly that length. -/
def fields? (names : List String) : Json → Option (List (Option Json))
  | .obj members => some (names.map (Json.lookup · members))
  | .arr items => if items.length = names.length then some (items.map some) else none
  | _ => none

/-- A moment. -/
def timestamp? (j : Json) : Option Timestamp := j.str?.bind Timestamp.ofText?

/-- A number of bytes: a word of 64 bits. -/
def byteCount? : Json → Option Nat
  | .int n => if 0 ≤ n ∧ n < 18446744073709551616 then some n.toNat else none
  | _ => none

/-- A string, null or nothing. -/
def optionalText? : Option Json → Option (Option String)
  | none | some .null => some none
  | some (.str s) => some (some s)
  | _ => none

/-- A name, or an object whose one member has the name and is null. -/
def tag? : Json → Option String
  | .str s => some s
  | .obj [(name, .null)] => some name
  | _ => none

/-- The data of an event of a given type. -/
def decodeData? (tag : String) (data : Json) : Option Event := do
  match tag with
  | "StationConnected" =>
    match ← fields? ["station_id", "timestamp"] data with
    | [some id, some time] => some ⟨← id.str?, .stationConnected, ← timestamp? time⟩
    | _ => none
  | "StationDisconnected" =>
    match ← fields? ["station_id", "timestamp", "reason"] data with
    | [some id, some time, reason] =>
      some ⟨← id.str?, .stationDisconnected (← optionalText? reason), ← timestamp? time⟩
    | _ => none
  | "MessageReceived" =>
    match ← fields? ["station_id", "payload", "bytes", "timestamp"] data with
    | [some id, some payload, some bytes, some time] =>
      some ⟨← id.str?, .messageReceived (← payload.str?) (← byteCount? bytes), ← timestamp? time⟩
    | _ => none
  | "StationError" =>
    match ← fields? ["station_id", "message", "transient", "timestamp"] data with
    | [some id, some message, some transient, some time] =>
      some ⟨← id.str?, .stationError (← message.str?) (← transient.bool?), ← timestamp? time⟩
    | _ => none
  | _ => none

/-- An event from its type and data. -/
def decodeParts? (type data : Option Json) : Option Event := do
  decodeData? (← tag? (← type)) (← data)

/-- An event. -/
def decode? : Json → Option Event
  | .obj members => decodeParts? (Json.lookup "type" members) (Json.lookup "data" members)
  | .arr [type, data] => decodeParts? (some type) (some data)
  | _ => none

end Event

namespace EventMessage

/-- A message: id and moment, and the members of the event. -/
def encode (m : EventMessage) : Json :=
  .obj ([("id", .str m.id), ("timestamp", Event.encodeTimestamp m.timestamp)]
    ++ m.event.encodeMembers)

/-- A message. -/
def decode? : Json → Option EventMessage
  | .obj members => do
    let id ← (← Json.lookup "id" members).str?
    let time ← Event.timestamp? (← Json.lookup "timestamp" members)
    some ⟨id, time, ← Event.decodeParts? (Json.lookup "type" members) (Json.lookup "data" members)⟩
  | _ => none

end EventMessage

end StationPool
