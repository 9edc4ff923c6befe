/-!
# JSON values

The data model of JSON. Whole numbers are kept as integers; a number written with a fraction or an
exponent keeps its text (`real`), because nothing in the library computes with one and every field
that takes a number takes whole ones only.

An object is the list of its members, each name once (`Json.put` replaces). The order of members is
kept, and no reader in the library depends on it.
-/

namespace StationPool

/-- A JSON value. -/
inductive Json where
  | null
  | bool (b : Bool)
  /-- A number written without fraction and exponent. -/
  | int (n : Int)
  /-- A number written with a fraction or an exponent, as it was written. -/
  | real (text : String)
  | str (s : String)
  | arr (items : List Json)
  | obj (members : List (String × Json))
  deriving Inhabited, Repr

namespace Json

/-- The value of the first pair with a given key. -/
def lookup {α : Type} (key : String) : List (String × α) → Option α
  | [] => none
  | (k, v) :: rest => if k = key then some v else lookup key rest

/-- The members with one more, or with the value of an old one replaced. -/
def put {α : Type} (key : String) (value : α) : List (String × α) → List (String × α)
  | [] => [(key, value)]
  | (k, v) :: rest => if k = key then (k, value) :: rest else (k, v) :: put key value rest

/-- What was put under a key is found there. -/
theorem lookup_put {α : Type} (key : String) (value : α) (ms : List (String × α)) :
    lookup key (put key value ms) = some value := by
  induction ms with
  | nil => simp [put, lookup]
  | cons m rest ih =>
    obtain ⟨k, v⟩ := m
    by_cases h : k = key <;> simp [put, lookup, h, ih]

/-- What was put under a key changes nothing under another. -/
theorem lookup_put_of_ne {α : Type} {key other : String} (h : other ≠ key) (value : α)
    (ms : List (String × α)) : lookup other (put key value ms) = lookup other ms := by
  induction ms with
  | nil => simp [put, lookup, Ne.symm h]
  | cons m rest ih =>
    obtain ⟨k, v⟩ := m
    by_cases hk : k = key
    · subst hk; simp [put, lookup, Ne.symm h]
    · by_cases ho : k = other
      · subst ho; simp [put, lookup, h]
      · simp [put, lookup, hk, ho, ih]

/-- The member of an object; none for what is no object. -/
def get? (j : Json) (key : String) : Option Json :=
  match j with
  | .obj ms => lookup key ms
  | _ => none

/-- The text of a string. -/
def str? : Json → Option String
  | .str s => some s
  | _ => none

/-- The truth value. -/
def bool? : Json → Option Bool
  | .bool b => some b
  | _ => none

/-- The whole number. -/
def int? : Json → Option Int
  | .int n => some n
  | _ => none

/-- The items of an array. -/
def items? : Json → Option (List Json)
  | .arr items => some items
  | _ => none

/-- Null or a string as an optional string. -/
def ofOption : Option String → Json
  | none => .null
  | some s => .str s

end Json

end StationPool
