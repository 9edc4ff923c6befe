import StationPool.Text.Digits
import StationPool.Time.Timestamp
import StationPool.Toml.Basic

/-!
# TOML scalars

Strings in their four forms, numbers, dates and times, each read from the start of a text with what
follows it.

Underscores may stand between two digits. Whole numbers fit 64 bits with sign; a number with a
fraction or exponent is refused if it rounds to plus infinity in 64-bit floating point. Dates are
checked against the calendar.
-/

namespace StationPool.Toml.Scalar

/-- Space and tab. -/
def isSpace (c : Char) : Bool := c == ' ' || c == '\t'

/-- The text without leading spaces and tabs. -/
def skip (cs : List Char) : List Char := cs.dropWhile isSpace

/-- A line end: a line feed, or a carriage return before one. -/
def newline? : List Char → Option (List Char)
  | '\n' :: r => some r
  | '\r' :: '\n' :: r => some r
  | _ => none

/-- The text without leading spaces, tabs and line ends. -/
def skipLines : List Char → List Char
  | '\r' :: '\n' :: r => skipLines r
  | c :: r => if isSpace c || c == '\n' then skipLines r else c :: r
  | [] => []

/-- The characters of a comment: the tab and all but controls. -/
def isCommentChar (c : Char) : Bool := c == '\t' || (0x20 ≤ c.toNat && c.toNat != 0x7F)

/-- The text after a comment, if it starts with one. -/
def skipComment : List Char → List Char
  | '#' :: r => r.dropWhile isCommentChar
  | r => r

/-! ## Strings -/

/-- The value of so many hexadecimal digits. -/
def hexDigits? : Nat → List Char → Option (Nat × List Char)
  | 0, cs => some (0, cs)
  | n + 1, c :: r => do
    let d ← digit? c
    let (rest, r) ← hexDigits? n r
    some (d * Nat.pow 16 n + rest, r)
  | _ + 1, [] => none
where
  /-- The value of a hexadecimal digit. -/
  digit? (c : Char) : Option Nat :=
    if c.isDigit then some (c.toNat - 48)
    else if 'a' ≤ c ∧ c ≤ 'f' then some (c.toNat - 87)
    else if 'A' ≤ c ∧ c ≤ 'F' then some (c.toNat - 55)
    else none

/-- The character of a code point that is a scalar value. -/
def scalar? (n : Nat) : Option Char :=
  if n < 0xD800 ∨ (0xE000 ≤ n ∧ n < 0x110000) then some (Char.ofNat n) else none

/-- The character after a backslash. -/
def escape? : List Char → Option (Char × List Char)
  | 'b' :: r => some ('\x08', r)
  | 'f' :: r => some ('\x0c', r)
  | 'n' :: r => some ('\n', r)
  | 'r' :: r => some ('\r', r)
  | 't' :: r => some ('\t', r)
  | '\\' :: r => some ('\\', r)
  | '"' :: r => some ('"', r)
  | 'u' :: r => do
    let (n, r) ← hexDigits? 4 r
    some (← scalar? n, r)
  | 'U' :: r => do
    let (n, r) ← hexDigits? 8 r
    some (← scalar? n, r)
  | _ => none

/-- The rest of a string in single quotes or double quotes on one line; `raw` strings have no
escapes. The characters found so far are reversed. -/
def line? (quote : Char) (raw : Bool) : Nat → List Char → List Char → Option (String × List Char)
  | 0, _, _ => none
  | fuel + 1, found, cs =>
    match cs with
    | [] => none
    | c :: r =>
      if c == quote then some (String.ofList found.reverse, r)
      else if c == '\\' && !raw then
        (escape? r).bind fun (d, r) => line? quote raw fuel (d :: found) r
      else if isCommentChar c then line? quote raw fuel (c :: found) r
      else none

/-- The rest of a string over several lines, up to three quotes; up to two more quotes before them
belong to the string. A backslash at the end of a line takes away the blanks and line ends after
it. -/
def lines? (quote : Char) (raw : Bool) : Nat → List Char → List Char → Option (String × List Char)
  | 0, _, _ => none
  | fuel + 1, found, cs =>
    match cs with
    | [] => none
    | c :: r =>
      if c == quote then
        let run := (cs.takeWhile (· == quote)).length
        let rest := cs.drop run
        if run < 3 then lines? quote raw fuel (List.replicate run quote ++ found) rest
        else
          let extra := Nat.min (run - 3) 2
          some (String.ofList (List.replicate extra quote ++ found).reverse, cs.drop (extra + 3))
      else if c == '\\' && !raw then
        match newline? (skip r) with
        | some r => lines? quote raw fuel found (skipLines r)
        | none => (escape? r).bind fun (d, r) => lines? quote raw fuel (d :: found) r
      else
        match newline? cs with
        | some r => lines? quote raw fuel ('\n' :: found) r
        | none => if isCommentChar c then lines? quote raw fuel (c :: found) r else none

/-- The text without one line end at its start. -/
def skipNewline (cs : List Char) : List Char := (newline? cs).getD cs

/-- A string on one line. -/
def quoted? : List Char → Option (String × List Char)
  | '"' :: r => line? '"' false (r.length + 1) [] r
  | '\'' :: r => line? '\'' true (r.length + 1) [] r
  | _ => none

/-- A string in any form. -/
def string? : List Char → Option (String × List Char)
  | '"' :: '"' :: '"' :: r => lines? '"' false (r.length + 1) [] (skipNewline r)
  | '\'' :: '\'' :: '\'' :: r => lines? '\'' true (r.length + 1) [] (skipNewline r)
  | r => quoted? r

/-! ## Numbers -/

/-- Digits with single underscores between them, without the underscores. -/
def run? (isDigit : Char → Bool) (cs : List Char) : Option (List Char × List Char) :=
  match cs with
  | c :: r => if isDigit c then go [c] r else none
  | [] => none
where
  /-- Further digits, and underscores before a digit. -/
  go (found : List Char) : List Char → Option (List Char × List Char)
    | '_' :: c :: r => if isDigit c then go (c :: found) r else none
    | '_' :: [] => none
    | c :: r => if isDigit c then go (c :: found) r else some (found.reverse, c :: r)
    | [] => some (found.reverse, [])

/-- A sign, and whether it is a minus. -/
def sign (cs : List Char) : Bool × List Char :=
  match cs with
  | '-' :: r => (true, r)
  | '+' :: r => (false, r)
  | r => (false, r)

/-- The digits of a decimal number without leading zeros. -/
def decimal? : List Char → Option (List Char × List Char)
  | '0' :: r => some (['0'], r)
  | r => run? Char.isDigit r

/-- Whether digits times a power of ten round to plus infinity in 64-bit floating point: whether
they reach the middle between the greatest such number and the next power of two. -/
def overflows (digits : List Char) (power : Int) : Bool :=
  let ds := digits.dropWhile (· == '0')
  let magnitude : Int := ds.length + power
  if ds.isEmpty || magnitude < 308 then false
  else if magnitude > 310 then true
  else
    let n := Text.Digits.value ds
    let bound := Nat.pow 2 1024 - Nat.pow 2 970
    if 0 ≤ power then bound ≤ n * Nat.pow 10 power.toNat
    else bound * Nat.pow 10 (-power).toNat ≤ n

/-- The fraction of a number, after its point. -/
def fraction? : List Char → Option (List Char × List Char)
  | '.' :: r => run? Char.isDigit r
  | _ => none

/-- The exponent of a number. -/
def exponent? : List Char → Option (Int × List Char)
  | e :: r =>
    if e == 'e' || e == 'E' then
      let (minus, r) := sign r
      (run? Char.isDigit r).map fun (ds, r) =>
        let n : Int := Text.Digits.value ds
        (if minus then -n else n, r)
    else none
  | [] => none

/-- A number with a fraction, an exponent or both, or an infinity or not-a-number. -/
def float? (cs : List Char) : Option (Toml × List Char) := do
  let (minus, body) := sign cs
  match body with
  | 'i' :: 'n' :: 'f' :: r => some (.float "inf", r)
  | 'n' :: 'a' :: 'n' :: r => some (.float "nan", r)
  | _ =>
    let (whole, r) ← decimal? body
    let (fraction, power, r) ← match r with
      | '.' :: _ => do
        let (ds, r) ← fraction? r
        match exponent? r with
        | some (p, r) => some (ds, p, r)
        | none => some (ds, (0 : Int), r)
      | _ => do
        let (p, r) ← exponent? r
        some ([], p, r)
    if !minus && overflows (whole ++ fraction) (power - fraction.length) then none
    else some (.float (String.ofList (cs.take (cs.length - r.length))), r)

/-- The value of digits in a base. -/
def valueIn (base : Nat) (ds : List Char) : Nat :=
  ds.foldl (fun n c => n * base + (hexDigits?.digit? c).getD 0) 0

/-- A whole number that fits 64 bits with sign. -/
def fits (n : Int) : Option Toml :=
  if -9223372036854775808 ≤ n ∧ n < 9223372036854775808 then some (.int n) else none

/-- A whole number: decimal with a sign, or in base 16, 8 or 2 without. -/
def integer? : List Char → Option (Toml × List Char)
  | '0' :: 'x' :: r => based 16 (fun c => (hexDigits?.digit? c).isSome) r
  | '0' :: 'o' :: r => based 8 (fun c => '0' ≤ c && c ≤ '7') r
  | '0' :: 'b' :: r => based 2 (fun c => c == '0' || c == '1') r
  | cs => do
    let (minus, r) := sign cs
    let (ds, r) ← decimal? r
    let n : Int := Text.Digits.value ds
    some (← fits (if minus then -n else n), r)
where
  /-- Digits of one base. -/
  based (base : Nat) (isDigit : Char → Bool) (r : List Char) : Option (Toml × List Char) := do
    let (ds, r) ← run? isDigit r
    some (← fits (valueIn base ds), r)

/-! ## Dates and times -/

/-- Exactly so many digits. -/
def fixed? (width : Nat) (cs : List Char) : Option (Nat × List Char) :=
  let ds := cs.take width
  if ds.length = width ∧ ds.all Char.isDigit then some (Text.Digits.value ds, cs.drop width)
  else none

/-- One given character. -/
def mark? (c : Char) : List Char → Option (List Char)
  | d :: r => if d = c then some r else none
  | [] => none

/-- A date that the calendar has. -/
def date? (cs : List Char) : Option (List Char) := do
  let (year, r) ← fixed? 4 cs
  let r ← mark? '-' r
  let (month, r) ← fixed? 2 r
  let r ← mark? '-' r
  let (day, r) ← fixed? 2 r
  if 1 ≤ day ∧ day ≤ Calendar.daysIn year month then some r else none

/-- A time of day; a leap second may stand in any minute. -/
def time? (cs : List Char) : Option (List Char) := do
  let (hour, r) ← fixed? 2 cs
  let r ← mark? ':' r
  let (minute, r) ← fixed? 2 r
  let r ← mark? ':' r
  let (second, r) ← fixed? 2 r
  if hour < 24 ∧ minute < 60 ∧ second ≤ 60 then
    match r with
    | '.' :: c :: r => if c.isDigit then some (r.dropWhile Char.isDigit) else some ('.' :: c :: r)
    | r => some r
  else none

/-- The text after an offset from UTC, if it starts with one. -/
def skipOffset? : List Char → Option (List Char)
  | 'Z' :: r | 'z' :: r => some r
  | '+' :: r | '-' :: r => do
    let (hour, r) ← fixed? 2 r
    let r ← mark? ':' r
    let (minute, r) ← fixed? 2 r
    if hour < 24 ∧ minute < 60 then some r else none
  | r => some r

/-- A date with or without a time, or a time. -/
def datetime? (cs : List Char) : Option (Toml × List Char) := do
  let r ← match date? cs with
    | some r =>
      match r with
      | c :: rest =>
        if c == 'T' || c == 't' || c == ' ' then
          match time? rest with
          | some rest => skipOffset? rest
          | none => some r
        else some r
      | [] => some r
    | none => time? cs
  some (.datetime (String.ofList (cs.take (cs.length - r.length))), r)

/-- A date, a time or a number. -/
def numeral? (cs : List Char) : Option (Toml × List Char) :=
  ((datetime? cs).or (float? cs)).or (integer? cs)

/-- A truth value. -/
def bool? : List Char → Option (Toml × List Char)
  | 't' :: 'r' :: 'u' :: 'e' :: r => some (.bool true, r)
  | 'f' :: 'a' :: 'l' :: 's' :: 'e' :: r => some (.bool false, r)
  | _ => none

end StationPool.Toml.Scalar
