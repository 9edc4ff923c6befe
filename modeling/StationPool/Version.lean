import StationPool.Text.Blank

/-!
# Protocol versions

The versions of the charging protocol that a station may speak, and the WebSocket subprotocol that
each offers in the handshake. A configured version is free text: blanks around it do not count, and
a text that names no version means the oldest one.
-/

namespace StationPool

/-- A version of the charging protocol. -/
inductive Version where
  | v16
  | v201
  | v21
  deriving DecidableEq, Repr, Inhabited

namespace Version

/-- The version a station speaks if it names none. -/
def standard : Version := .v16

/-- The version that a text names; 1.6 for a text that names none. -/
def ofText (s : String) : Version :=
  let name := Text.trim s
  if name = "2.0.1" then .v201
  else if name = "2.1" then .v21
  else .v16

/-- The number of the version. -/
def number : Version → String
  | .v16 => "1.6"
  | .v201 => "2.0.1"
  | .v21 => "2.1"

/-- The subprotocol that the handshake offers. -/
def subprotocol : Version → String
  | .v16 => "ocpp1.6"
  | .v201 => "ocpp2.0.1"
  | .v21 => "ocpp2.1"

/-- The version with the name of the protocol. -/
def title (v : Version) : String := "OCPP " ++ v.number

/-- The name of the version in encoded data. -/
def tag : Version → String
  | .v16 => "V16"
  | .v201 => "V201"
  | .v21 => "V21"

/-- The version of a name in encoded data. -/
def ofTag? (s : String) : Option Version :=
  [v16, v201, v21].find? (·.tag = s)

/-- A version is read back from its tag. -/
theorem ofTag?_tag (v : Version) : ofTag? v.tag = some v := by cases v <;> decide

/-- The number of a version names it. -/
theorem ofText_number (v : Version) : ofText v.number = v := by cases v <;> decide

end Version

/-- The subprotocol that a station offers for a configured version. -/
def subprotocolFor (version : String) : String := (Version.ofText version).subprotocol

end StationPool
