import StationPool.Json.Basic
import StationPool.Text.Digits

/-!
# JSON text, read

A reader of RFC 8259. Of two members of one name the later one counts. A whole number that is
written `-0` is kept as a `real`, since it has no integer of its own. The nesting is bounded by the
length of the text, which is the reader's measure.
-/

namespace StationPool.Json.Reader

/-- Blanks of JSON: space, tab, line feed, carriage return. -/
def isSpace (c : Char) : Bool := c == ' ' || c == '\t' || c == '\n' || c == '\r'

/-- The text without its leading blanks. -/
def skip (cs : List Char) : List Char := cs.dropWhile isSpace

/-- The value of a hexadecimal digit. -/
def hexValue? (c : Char) : Option Nat :=
  if c.isDigit then some (c.toNat - 48)
  else if 'a' ≤ c ∧ c ≤ 'f' then some (c.toNat - 87)
  else if 'A' ≤ c ∧ c ≤ 'F' then some (c.toNat - 55)
  else none

/-- The value of four hexadecimal digits. -/
def hex4? : List Char → Option (Nat × List Char)
  | a :: b :: c :: d :: r => do
    let n := (← hexValue? a) * 4096 + (← hexValue? b) * 256 + (← hexValue? c) * 16 + (← hexValue? d)
    some (n, r)
  | _ => none

/-- The character after a backslash and `u`: a code point, or two halves of a surrogate pair. -/
def unicode? (cs : List Char) : Option (Char × List Char) := do
  let (high, rest) ← hex4? cs
  if 0xD800 ≤ high ∧ high < 0xDC00 then
    match rest with
    | '\\' :: 'u' :: rest =>
      let (low, rest) ← hex4? rest
      if 0xDC00 ≤ low ∧ low < 0xE000 then
        some (Char.ofNat (0x10000 + (high - 0xD800) * 1024 + (low - 0xDC00)), rest)
      else none
    | _ => none
  else if 0xDC00 ≤ high ∧ high < 0xE000 then none
  else some (Char.ofNat high, rest)

/-- The rest of a string after its opening quote. The characters found so far are reversed. -/
def string? : Nat → List Char → List Char → Option (String × List Char)
  | 0, _, _ => none
  | fuel + 1, found, cs =>
    match cs with
    | '"' :: r => some (String.ofList found.reverse, r)
    | '\\' :: 'u' :: r => (unicode? r).bind fun (c, r) => string? fuel (c :: found) r
    | '\\' :: c :: r =>
      let plain (d : Char) := string? fuel (d :: found) r
      match c with
      | '"' => plain '"'
      | '\\' => plain '\\'
      | '/' => plain '/'
      | 'b' => plain '\x08'
      | 'f' => plain '\x0c'
      | 'n' => plain '\n'
      | 'r' => plain '\r'
      | 't' => plain '\t'
      | _ => none
    | c :: r => if c.toNat < 0x20 then none else string? fuel (c :: found) r
    | [] => none

/-- The digits at the start of a text, at least one. -/
def digits? (cs : List Char) : Option (List Char × List Char) :=
  let ds := cs.takeWhile Char.isDigit
  if ds.isEmpty then none else some (ds, cs.drop ds.length)

/-- A number. -/
def number? (cs : List Char) : Option (Json × List Char) := do
  let (sign, cs) := match cs with
    | '-' :: r => (['-'], r)
    | r => ([], r)
  let (whole, cs) ← digits? cs
  if whole.length > 1 && whole.head? == some '0' then none
  let (fraction, cs) ← match cs with
    | '.' :: r => (digits? r).map fun (ds, r) => ('.' :: ds, r)
    | r => some ([], r)
  let (exponent, cs) ← match cs with
    | e :: r =>
      if e == 'e' || e == 'E' then
        let (s, r) := match r with
          | '+' :: r => (['+'], r)
          | '-' :: r => (['-'], r)
          | r => ([], r)
        (digits? r).map fun (ds, r) => (e :: s ++ ds, r)
      else some ([], e :: r)
    | [] => some ([], [])
  let n := Text.Digits.value whole
  if fraction.isEmpty && exponent.isEmpty && !(!sign.isEmpty && n == 0) then
    some (.int (if sign.isEmpty then n else -(n : Int)), cs)
  else some (.real (String.ofList (sign ++ whole ++ fraction ++ exponent)), cs)

/-- Each name once, with its last value. -/
def dedup (ms : List (String × Json)) : List (String × Json) :=
  ms.foldl (fun kept (k, v) => put k v kept) []

mutual

/-- A value, after blanks. -/
def value? : Nat → List Char → Option (Json × List Char)
  | 0, _ => none
  | fuel + 1, cs =>
    match skip cs with
    | 'n' :: 'u' :: 'l' :: 'l' :: r => some (.null, r)
    | 't' :: 'r' :: 'u' :: 'e' :: r => some (.bool true, r)
    | 'f' :: 'a' :: 'l' :: 's' :: 'e' :: r => some (.bool false, r)
    | '"' :: r => (string? (r.length + 1) [] r).map fun (s, r) => (.str s, r)
    | '[' :: r =>
      match skip r with
      | ']' :: r => some (.arr [], r)
      | r => items? fuel [] r
    | '\x7b' :: r =>
      match skip r with
      | '\x7d' :: r => some (.obj [], r)
      | r => members? fuel [] r
    | r => number? r

/-- The items of an array up to its end; those found so far are reversed. -/
def items? : Nat → List Json → List Char → Option (Json × List Char)
  | 0, _, _ => none
  | fuel + 1, found, cs => do
    let (v, r) ← value? fuel cs
    match skip r with
    | ',' :: r => items? fuel (v :: found) r
    | ']' :: r => some (.arr (v :: found).reverse, r)
    | _ => none

/-- The members of an object up to its end; those found so far are reversed. -/
def members? : Nat → List (String × Json) → List Char → Option (Json × List Char)
  | 0, _, _ => none
  | fuel + 1, found, cs =>
    match skip cs with
    | '"' :: r => do
      let (key, r) ← string? (r.length + 1) [] r
      match skip r with
      | ':' :: r =>
        let (v, r) ← value? fuel r
        match skip r with
        | ',' :: r => members? fuel ((key, v) :: found) r
        | '\x7d' :: r => some (.obj (dedup ((key, v) :: found).reverse), r)
        | _ => none
      | _ => none
    | _ => none

end

end StationPool.Json.Reader

namespace StationPool.Json

/-- The value that a text holds, with nothing but blanks around it. -/
def ofText? (s : String) : Option Json := do
  let cs := s.toList
  let (v, rest) ← Reader.value? (cs.length + 1) cs
  if (Reader.skip rest).isEmpty then some v else none

end StationPool.Json
