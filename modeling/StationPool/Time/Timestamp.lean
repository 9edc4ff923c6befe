import StationPool.Text.Blank
import StationPool.Text.Digits

/-!
# Timestamps

A moment in UTC by its calendar date and time of day, to the nanosecond; second 60 is a leap second
and may stand in any minute.

`text` writes RFC 3339: four digits of the year (a sign and at least four digits outside 0 to 9999),
a fraction of 0, 3, 6 or 9 digits, whichever is the shortest that loses nothing, and `Z`.

`ofText?` reads a wider language than `text` writes: numbers may lack leading zeros and be preceded
by blanks, the year may have a sign, the separator of date and time is `T`, `t` or a space, digits
of the fraction beyond the ninth are dropped, and the offset is `Z`, `z`, `UTC` in any case or a
sign, two digits of hours and two of minutes. The moment is carried over to UTC.
-/

namespace StationPool

namespace Calendar

/-- Leap years of the Gregorian calendar, carried on before its beginning and past year zero. -/
def isLeap (year : Int) : Bool := year % 4 == 0 && (year % 100 != 0 || year % 400 == 0)

/-- The number of days of a month; none for what is no month. -/
def daysIn (year : Int) : Nat → Nat
  | 1 | 3 | 5 | 7 | 8 | 10 | 12 => 31
  | 4 | 6 | 9 | 11 => 30
  | 2 => if isLeap year then 29 else 28
  | _ => 0

/-- A calendar date. -/
structure Date where
  year : Int
  month : Nat
  day : Nat
  deriving DecidableEq, Repr

/-- The years that dates are kept for. -/
def yearInRange (year : Int) : Bool := -262143 ≤ year && year ≤ 262142

/-- A date that the calendar has, in a year that dates are kept for. -/
def Date.isValid (d : Date) : Bool :=
  yearInRange d.year && 1 ≤ d.day && d.day ≤ daysIn d.year d.month

/-- The day after. -/
def Date.next (d : Date) : Date :=
  if d.day < daysIn d.year d.month then { d with day := d.day + 1 }
  else if d.month < 12 then ⟨d.year, d.month + 1, 1⟩
  else ⟨d.year + 1, 1, 1⟩

/-- The day before. -/
def Date.previous (d : Date) : Date :=
  if 1 < d.day then { d with day := d.day - 1 }
  else if 1 < d.month then ⟨d.year, d.month - 1, daysIn d.year (d.month - 1)⟩
  else ⟨d.year - 1, 12, 31⟩

end Calendar

open Calendar in
/-- A moment in UTC. -/
structure Timestamp where
  date : Date
  hour : Nat
  minute : Nat
  /-- 60 in a leap second. -/
  second : Nat
  nanos : Nat
  valid : (date.isValid && hour < 24 && minute < 60 && second ≤ 60 && nanos < 1000000000) = true
  deriving DecidableEq

namespace Timestamp

open Calendar

/-- The moment of a date and a time of day, if there is one. -/
def ofFields? (date : Date) (hour minute second nanos : Nat) : Option Timestamp :=
  if h : (date.isValid && hour < 24 && minute < 60 && second ≤ 60 && nanos < 1000000000) = true then
    some ⟨date, hour, minute, second, nanos, h⟩
  else none

/-! ## Writing -/

/-- The year: four digits from 0 to 9999, else a sign and at least four digits. -/
def yearText (year : Int) : List Char :=
  if 0 ≤ year ∧ year ≤ 9999 then Text.Digits.padded 4 year.toNat
  else (if year < 0 then '-' else '+') :: Text.Digits.padded 4 year.natAbs

/-- The fraction of a second in 0, 3, 6 or 9 digits, the fewest that lose nothing. -/
def fraction (nanos : Nat) : List Char :=
  if nanos = 0 then []
  else if nanos % 1000000 = 0 then '.' :: Text.Digits.padded 3 (nanos / 1000000)
  else if nanos % 1000 = 0 then '.' :: Text.Digits.padded 6 (nanos / 1000)
  else '.' :: Text.Digits.padded 9 nanos

/-- The characters of the RFC 3339 form in UTC. -/
def chars (t : Timestamp) : List Char :=
  yearText t.date.year ++ '-' :: Text.Digits.padded 2 t.date.month
    ++ '-' :: Text.Digits.padded 2 t.date.day
    ++ 'T' :: Text.Digits.padded 2 t.hour
    ++ ':' :: Text.Digits.padded 2 t.minute
    ++ ':' :: Text.Digits.padded 2 t.second
    ++ fraction t.nanos ++ ['Z']

/-- The RFC 3339 form in UTC. -/
def text (t : Timestamp) : String := String.ofList t.chars

/-! ## Reading -/

/-- Up to `width` digits at the start of a text, at least one, and what follows them. -/
def number? (width : Nat) (cs : List Char) : Option (Nat × List Char) :=
  let ds := (cs.take width).takeWhile Char.isDigit
  if ds.isEmpty then none else some (Text.Digits.value ds, cs.drop ds.length)

/-- Blanks, then up to two digits. -/
def field? (cs : List Char) : Option (Nat × List Char) := number? 2 (Text.trimLeft cs)

/-- Blanks, then up to four digits, or a sign and any number of them. -/
def year? (cs : List Char) : Option (Int × List Char) :=
  match Text.trimLeft cs with
  | '-' :: r => (number? r.length r).map fun (n, r) => (-(n : Int), r)
  | '+' :: r => (number? r.length r).map fun (n, r) => ((n : Int), r)
  | r => (number? 4 r).map fun (n, r) => ((n : Int), r)

/-- Blanks, then one given character. -/
def mark? (c : Char) (cs : List Char) : Option (List Char) :=
  match Text.trimLeft cs with
  | d :: r => if d = c then some r else none
  | [] => none

/-- The fraction of a second in nanoseconds, zero if there is none. -/
def fraction? : List Char → Option (Nat × List Char)
  | '.' :: r =>
    let ds := r.takeWhile Char.isDigit
    if ds.isEmpty then none
    else
      let kept := ds.take 9
      some (Text.Digits.value kept * Nat.pow 10 (9 - kept.length), r.drop ds.length)
  | r => some (0, r)

/-- Hours and minutes of an offset in minutes, with colons and blanks between them. -/
def offsetMinutes? : List Char → Option (Nat × List Char)
  | h₁ :: h₂ :: r =>
    if h₁.isDigit && h₂.isDigit then
      match r.dropWhile (fun c => c == ':' || Text.isBlank c) with
      | m₁ :: m₂ :: r =>
        if m₁.isDigit && m₂.isDigit && m₁ < '6' then
          some (Text.Digits.value [h₁, h₂] * 60 + Text.Digits.value [m₁, m₂], r)
        else none
      | _ => none
    else none
  | _ => none

/-- The offset from UTC in minutes: `Z`, `UTC` in any case, or a sign, hours and minutes below a
day. -/
def offset? (cs : List Char) : Option (Int × List Char) :=
  if (cs.take 3).map Char.toLower = ['u', 't', 'c'] then some (0, cs.drop 3)
  else match cs with
    | 'Z' :: r | 'z' :: r => some (0, r)
    | '+' :: r => below (offsetMinutes? r) fun n => n
    | '-' :: r | '\u2212' :: r => below (offsetMinutes? r) fun n => -(n : Int)
    | _ => none
where
  /-- Keeps an offset that is shorter than a day. -/
  below (o : Option (Nat × List Char)) (sign : Nat → Int) : Option (Int × List Char) :=
    o.bind fun (n, r) => if n < 1440 then some (sign n, r) else none

/-- The moment that a local date and time name at an offset of less than a day. -/
def ofLocal? (date : Date) (hour minute second nanos : Nat) (offset : Int) : Option Timestamp := do
  let _ ← ofFields? date hour minute second nanos
  let minutes : Int := hour * 60 + minute - offset
  if minutes < 0 then
    let m := (minutes + 1440).toNat
    ofFields? date.previous (m / 60) (m % 60) second nanos
  else if minutes < 1440 then
    let m := minutes.toNat
    ofFields? date (m / 60) (m % 60) second nanos
  else
    let m := (minutes - 1440).toNat
    ofFields? date.next (m / 60) (m % 60) second nanos

/-- The moment that a text names. -/
def ofChars? (cs : List Char) : Option Timestamp := do
  let (year, cs) ← year? cs
  let cs ← mark? '-' cs
  let (month, cs) ← field? cs
  let cs ← mark? '-' cs
  let (day, cs) ← field? cs
  let cs ← match cs with
    | 'T' :: r | 't' :: r | ' ' :: r => some r
    | _ => none
  let (hour, cs) ← field? cs
  let cs ← mark? ':' cs
  let (minute, cs) ← field? cs
  let cs ← mark? ':' cs
  let (second, cs) ← field? cs
  let (nanos, cs) ← fraction? cs
  let (offset, cs) ← offset? (Text.trimLeft cs)
  if (Text.trimLeft cs).isEmpty then ofLocal? ⟨year, month, day⟩ hour minute second nanos offset
  else none

/-- The moment that a text names. -/
def ofText? (s : String) : Option Timestamp := ofChars? s.toList

end Timestamp

end StationPool
