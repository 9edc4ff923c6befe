import StationPool.Proofs.Text.Blank
import StationPool.Proofs.Text.Digits
import StationPool.Time.Timestamp

/-!
# Written moments

Every moment reads back from its own text (`ofText?_text`): in every year that dates are kept for,
with any fraction of a second, in a leap second or not.

The text is read from the left. For each part there is one lemma for what its reader finds when
more text follows: a number ends where its width is full or where no digit stands, a mark is the
character it names.
-/

namespace StationPool.Timestamp

open Calendar Text Text.Digits

variable {rest : List Char}

/-! ## Fields in their ranges -/

theorem daysIn_le (year : Int) (month : Nat) : daysIn year month ≤ 31 := by
  unfold daysIn
  repeat' split
  all_goals decide

/-- Only the twelve months have days. -/
theorem month_le_of_daysIn_pos {year : Int} {month : Nat} (days : 0 < daysIn year month) :
    month ≤ 12 := by
  unfold daysIn at days
  split at days
  all_goals omega

/-- The fields of a moment fit the widths they are written in. -/
structure Fits (t : Timestamp) : Prop where
  month : t.date.month < 100
  day : t.date.day < 100
  hour : t.hour < 24
  minute : t.minute < 60
  second : t.second ≤ 60
  nanos : t.nanos < 1000000000

/-- A timestamp fits into the ranges that its fields have. -/
theorem fits (t : Timestamp) : t.Fits := by
  have valid := t.valid
  simp only [Date.isValid, Bool.and_eq_true, decide_eq_true_eq] at valid
  obtain ⟨⟨⟨⟨⟨⟨-, first⟩, last⟩, hour⟩, minute⟩, second⟩, nanos⟩ := valid
  have month := month_le_of_daysIn_pos (Nat.lt_of_lt_of_le first last)
  have day := daysIn_le t.date.year t.date.month
  exact ⟨by omega, by omega, hour, minute, second, nanos⟩

/-- A timestamp is built again from its fields. -/
theorem ofFields?_fields (t : Timestamp) :
    ofFields? t.date t.hour t.minute t.second t.nanos = some t :=
  dif_pos t.valid

/-! ## Numbers and marks -/

/-- A number is read up to its width or up to what is no digit. -/
theorem number?_append {width : Nat} {ds : List Char} (digits : ∀ c ∈ ds, c.isDigit = true)
    (some_ : ds ≠ []) (narrow : ds.length ≤ width)
    (ends : ds.length = width ∨ ∀ c ∈ rest.head?, c.isDigit = false) :
    number? width (ds ++ rest) = some (value ds, rest) := by
  have other : ∀ c ∈ (rest.take (width - ds.length)).head?, c.isDigit = false := by
    intro c mem
    rw [List.head?_take] at mem
    rcases ends with full | other
    · rw [full, Nat.sub_self, if_pos rfl] at mem
      cases mem
    · exact other c (Option.ite_none_left_eq_some.mp mem).2
  have read : ((ds ++ rest).take width).takeWhile Char.isDigit = ds := by
    rw [List.take_append, List.take_of_length_le narrow, takeWhile_digits digits other]
  simp only [number?, read, List.isEmpty_iff, if_neg some_, List.drop_left]

/-- What begins with a digit is read where it stands. -/
theorem trimLeft_digits {ds : List Char} (digits : ∀ c ∈ ds, c.isDigit = true) (some_ : ds ≠ []) :
    trimLeft (ds ++ rest) = ds ++ rest := by
  obtain ⟨d, more, rfl, digit⟩ := exists_digit digits some_
  exact trimLeft_append_of_visible (isBlank_of_isDigit digit) more rest

theorem field?_padded {n : Nat} (fits : n < 100) :
    field? (padded 2 n ++ rest) = some (n, rest) := by
  have width : (padded 2 n).length = 2 := length_padded (by decide) fits
  rw [field?, trimLeft_digits (fun _ => isDigit_of_mem_padded) padded_ne_nil,
    number?_append (fun _ => isDigit_of_mem_padded) padded_ne_nil (Nat.le_of_eq width) (.inl width),
    value_padded]

theorem mark?_cons {c : Char} (visible : isBlank c = false) : mark? c (c :: rest) = some rest := by
  rw [mark?, trimLeft_cons_of_visible visible]
  exact if_pos rfl

/-! ## The year -/

theorem year?_padded {n : Nat} (fits : n < 10000) :
    year? (padded 4 n ++ rest) = some ((n : Int), rest) := by
  have digits : ∀ c ∈ padded 4 n, c.isDigit = true := fun _ => isDigit_of_mem_padded
  have width : (padded 4 n).length = 4 := length_padded (by decide) fits
  have read : number? 4 (padded 4 n ++ rest) = some (n, rest) := by
    rw [number?_append digits padded_ne_nil (Nat.le_of_eq width) (.inl width), value_padded]
  obtain ⟨d, more, shape, digit⟩ := exists_digit digits padded_ne_nil
  rw [year?, trimLeft_digits digits padded_ne_nil]
  -- the first character is a digit and no sign
  split
  case h_1 minus =>
    rw [shape] at minus
    cases minus
    cases digit
  case h_2 plus =>
    rw [shape] at plus
    cases plus
    cases digit
  case h_3 => rw [read, Option.map_some]

/-- Behind a sign, a number is as long as it likes. -/
theorem number?_padded {n : Nat} (ends : ∀ c ∈ rest.head?, c.isDigit = false) :
    number? (padded 4 n ++ rest).length (padded 4 n ++ rest) = some (n, rest) := by
  rw [number?_append (fun _ => isDigit_of_mem_padded) padded_ne_nil (by simp) (.inr ends),
    value_padded]

/-- A year is read with its sign and all its digits. -/
theorem year?_yearText (year : Int) (ends : ∀ c ∈ rest.head?, c.isDigit = false) :
    year? (yearText year ++ rest) = some (year, rest) := by
  unfold yearText
  split
  case isTrue plain =>
    rw [year?_padded (by omega), Int.toNat_of_nonneg plain.1]
  case isFalse =>
    rw [List.cons_append]
    split
    case isTrue negative =>
      rw [year?, trimLeft_cons_of_visible (by decide)]
      simp only [number?_padded ends, Option.map_some]
      rw [show -(year.natAbs : Int) = year by omega]
    case isFalse positive =>
      rw [year?, trimLeft_cons_of_visible (by decide)]
      simp only [number?_padded ends, Option.map_some]
      rw [show (year.natAbs : Int) = year by omega]

/-! ## The fraction -/

/-- A fraction of a second is read back with as many digits as it was written. -/
theorem fraction?_padded {width n : Nat} (wide : 0 < width) (narrow : width ≤ 9)
    (fits : n < Nat.pow 10 width) (ends : ∀ c ∈ rest.head?, c.isDigit = false) :
    fraction? ('.' :: (padded width n ++ rest)) = some (n * Nat.pow 10 (9 - width), rest) := by
  have length := length_padded wide fits
  have read : (padded width n ++ rest).takeWhile Char.isDigit = padded width n :=
    takeWhile_digits (fun _ => isDigit_of_mem_padded) ends
  have kept : (padded width n).take 9 = padded width n := List.take_of_length_le (by omega)
  simp only [fraction?, read, List.isEmpty_iff, if_neg padded_ne_nil, List.drop_left, kept,
    value_padded]
  rw [length]

/-- The digits that a fraction leaves out are the zeros that its reader fills in. -/
theorem fraction?_fraction {nanos : Nat} (fits : nanos < 1000000000)
    (ends : ∀ c ∈ rest.head?, c.isDigit = false ∧ c ≠ '.') :
    fraction? (fraction nanos ++ rest) = some (nanos, rest) := by
  have other : ∀ c ∈ rest.head?, c.isDigit = false := fun c mem => (ends c mem).1
  unfold fraction
  split
  case isTrue none_ =>
    subst none_
    rw [List.nil_append]
    unfold fraction?
    split
    case h_1 => exact absurd rfl (ends '.' rfl).2
    case h_2 => rfl
  case isFalse =>
    split
    case isTrue milli =>
      have short : nanos / 1000000 < Nat.pow 10 3 := show nanos / 1000000 < 1000 by omega
      have filled : nanos / 1000000 * Nat.pow 10 (9 - 3) = nanos :=
        show nanos / 1000000 * 1000000 = nanos by omega
      rw [List.cons_append, fraction?_padded (by decide) (by decide) short other, filled]
    case isFalse =>
      split
      case isTrue micro =>
        have short : nanos / 1000 < Nat.pow 10 6 := show nanos / 1000 < 1000000 by omega
        have filled : nanos / 1000 * Nat.pow 10 (9 - 6) = nanos :=
          show nanos / 1000 * 1000 = nanos by omega
        rw [List.cons_append, fraction?_padded (by decide) (by decide) short other, filled]
      case isFalse =>
        rw [List.cons_append, fraction?_padded (by decide) (by decide) fits other]
        simp

/-! ## The whole text -/

/-- At no offset the local time is the moment itself. -/
theorem ofLocal?_zero (t : Timestamp) :
    ofLocal? t.date t.hour t.minute t.second t.nanos 0 = some t := by
  have hour := t.fits.hour
  have minute := t.fits.minute
  have within : (t.hour : Int) * 60 + t.minute - 0 = (t.hour * 60 + t.minute : Nat) := by omega
  have hours : (t.hour * 60 + t.minute) / 60 = t.hour := by omega
  have minutes : (t.hour * 60 + t.minute) % 60 = t.minute := by omega
  simp only [ofLocal?, ofFields?_fields, Option.bind_eq_bind, Option.bind_some, within,
    Int.toNat_natCast, hours, minutes]
  rw [if_neg (by omega), if_pos (by omega)]

/-- The mark of UTC is an offset of nothing. -/
theorem offset?_zulu : offset? (trimLeft ['Z']) = some (0, []) := by decide

/-- A timestamp is read back from its characters. -/
theorem ofChars?_chars (t : Timestamp) : ofChars? t.chars = some t := by
  have fits := t.fits
  have dash : isBlank '-' = false := by decide
  have colon : isBlank ':' = false := by decide
  have hour : t.hour < 100 := Nat.lt_trans fits.hour (by decide)
  have minute : t.minute < 100 := Nat.lt_trans fits.minute (by decide)
  have second : t.second < 100 := Nat.lt_of_le_of_lt fits.second (by decide)
  have fraction : fraction? (fraction t.nanos ++ ['Z']) = some (t.nanos, ['Z']) :=
    fraction?_fraction fits.nanos (by rintro c ⟨⟩; decide)
  simp only [chars, List.append_assoc, List.cons_append]
  rw [ofChars?, year?_yearText _ (by rintro c ⟨⟩; rfl)]
  simp only [Option.bind_eq_bind, Option.bind_some, mark?_cons dash, mark?_cons colon,
    field?_padded fits.month, field?_padded fits.day, field?_padded hour, field?_padded minute,
    field?_padded second, fraction, offset?_zulu]
  exact ofLocal?_zero t

/-- Every moment reads back from its text. -/
theorem ofText?_text (t : Timestamp) : ofText? t.text = some t := by
  rw [ofText?, text, String.toList_ofList, ofChars?_chars]

end StationPool.Timestamp
