import StationPool.Json.Basic

/-!
# TOML values

What a TOML document holds, with what its later lines may still add to a table (`Opening`): the
tables of a document are built line by line, and whether a line may name a table again depends on
how the table came about.

`toJson` is the view that a configuration is decoded from. A date or time is seen as a record with
one member that no configuration knows.
-/

namespace StationPool

/-- How a table came about, which decides what may add to it. -/
inductive Toml.Opening where
  /-- Named by a header of its own, or the root. -/
  | header
  /-- Named as a parent by the header of another table; a header of its own may follow. -/
  | implied
  /-- Named as a parent by dotted keys; further dotted keys may follow. -/
  | dotted
  /-- Written in braces; complete. -/
  | braces
  deriving DecidableEq, Repr

/-- A value of a TOML document. -/
inductive Toml where
  | str (s : String)
  | int (n : Int)
  /-- A number with a fraction or an exponent, as it was written. -/
  | float (text : String)
  | bool (b : Bool)
  /-- A date, a time or both, as it was written. -/
  | datetime (text : String)
  | arr (items : List Toml)
  | table (opening : Toml.Opening) (entries : List (String × Toml))
  /-- An array of tables, each named by a header in double brackets. -/
  | tables (items : List (List (String × Toml)))
  deriving Inhabited

namespace Toml

/-- The member that stands for a date or time. -/
def datetimeKey : String := "$datetime"

mutual

/-- The value as a JSON value. -/
def toJson : Toml → Json
  | .str s => .str s
  | .int n => .int n
  | .float text => .real text
  | .bool b => .bool b
  | .datetime text => .obj [(datetimeKey, .str text)]
  | .arr items => .arr (itemsToJson items)
  | .table _ entries => .obj (entriesToJson entries)
  | .tables items => .arr (tablesToJson items)

/-- Items as JSON values. -/
def itemsToJson : List Toml → List Json
  | [] => []
  | v :: rest => v.toJson :: itemsToJson rest

/-- Entries as the members of a JSON object. -/
def entriesToJson : List (String × Toml) → List (String × Json)
  | [] => []
  | (k, v) :: rest => (k, v.toJson) :: entriesToJson rest

/-- Tables as JSON objects. -/
def tablesToJson : List (List (String × Toml)) → List Json
  | [] => []
  | t :: rest => .obj (entriesToJson t) :: tablesToJson rest

end

end Toml

end StationPool
