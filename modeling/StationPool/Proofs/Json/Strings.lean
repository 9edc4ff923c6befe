import StationPool.Json.Printer
import StationPool.Json.Reader

/-!
# Written strings

A string reads back from its quoted form, with its characters beyond ASCII escaped or not
(`string?_quoted`): the reader takes back each character from what the writer makes of it, and
the closing quote is the first one that stands by itself.
-/

namespace StationPool.Json

open Reader

variable {ascii : Bool} {c : Char} {rest found : List Char} {fuel : Nat}

/-! ## Four hexadecimal digits -/

theorem hexValue?_digitChar : ∀ d < 16, hexValue? (Nat.digitChar d) = some d := by decide

/-- Four hexadecimal digits are enough for every number below 65536. -/
theorem unicodeEscape_eq {n : Nat} (fits : n < 65536) :
    unicodeEscape n = '\\' :: 'u' :: [Nat.digitChar (n / 4096), Nat.digitChar (n / 256 % 16),
      Nat.digitChar (n / 16 % 16), Nat.digitChar (n % 16)] := by
  have last {m : Nat} (small : m < 16) : Nat.toDigits 16 m = [Nat.digitChar m] :=
    Nat.toDigits_of_lt_base small
  have more {m : Nat} (large : 16 ≤ m) :
      Nat.toDigits 16 m = Nat.toDigits 16 (m / 16) ++ [Nat.digitChar (m % 16)] :=
    Nat.toDigits_of_base_le (by decide) large
  have two : n / 16 / 16 = n / 256 := Nat.div_div_eq_div_mul n 16 16
  have three : n / 256 / 16 = n / 4096 := Nat.div_div_eq_div_mul n 256 16
  unfold unicodeEscape
  by_cases one : n < 16
  · rw [last one, Nat.div_eq_of_lt (by omega : n < 4096), Nat.div_eq_of_lt (by omega : n < 256),
      Nat.div_eq_of_lt one, Nat.mod_eq_of_lt one]
    rfl
  rw [more (by omega)]
  by_cases few : n < 256
  · rw [last (by omega), Nat.div_eq_of_lt (by omega : n < 4096), Nat.div_eq_of_lt few,
      Nat.mod_eq_of_lt (by omega : n / 16 < 16)]
    rfl
  rw [more (by omega), two]
  by_cases some_ : n < 4096
  · rw [last (by omega), Nat.div_eq_of_lt some_, Nat.mod_eq_of_lt (by omega : n / 256 < 16)]
    rfl
  rw [more (by omega), three, last (by omega)]
  rfl

/-- Four hexadecimal digits are read back. -/
theorem hex4?_digits {n : Nat} (fits : n < 65536) :
    hex4? (Nat.digitChar (n / 4096) :: Nat.digitChar (n / 256 % 16) ::
      Nat.digitChar (n / 16 % 16) :: Nat.digitChar (n % 16) :: rest) = some (n, rest) := by
  have whole : n / 4096 * 4096 + n / 256 % 16 * 256 + n / 16 % 16 * 16 + n % 16 = n := by omega
  simp only [hex4?, hexValue?_digitChar _ (show n / 4096 < 16 by omega),
    hexValue?_digitChar _ (Nat.mod_lt _ (by decide)), Option.bind_eq_bind, Option.bind_some, whole]

/-! ## One character -/

/-- No character is half of a pair. -/
theorem toNat_range (c : Char) : c.toNat < 0xD800 ∨ 0xDFFF < c.toNat ∧ c.toNat < 0x110000 := c.valid

/-- An escape of a character of the basic plane is read back as that character. -/
theorem string?_basic (below : c.toNat < 65536) :
    string? (fuel + 1) found (unicodeEscape c.toNat ++ rest) = string? fuel (c :: found) rest := by
  have range := toNat_range c
  rw [unicodeEscape_eq below]
  simp only [List.cons_append, List.nil_append, string?, unicode?, hex4?_digits below,
    Option.bind_eq_bind, Option.bind_some]
  rw [if_neg (by omega), if_neg (by omega), Option.bind_some, Char.ofNat_toNat]

/-- The two halves of a pair are read as the character they stand for. -/
theorem string?_pair {high low : Nat} (isHigh : 0xD800 ≤ high ∧ high < 0xDC00)
    (isLow : 0xDC00 ≤ low ∧ low < 0xE000)
    (whole : 0x10000 + (high - 0xD800) * 1024 + (low - 0xDC00) = c.toNat) :
    string? (fuel + 1) found (unicodeEscape high ++ (unicodeEscape low ++ rest)) =
      string? fuel (c :: found) rest := by
  have first : high < 65536 := Nat.lt_trans isHigh.2 (by decide)
  have second : low < 65536 := Nat.lt_trans isLow.2 (by decide)
  rw [unicodeEscape_eq first, unicodeEscape_eq second]
  simp only [List.cons_append, List.nil_append, string?, unicode?, hex4?_digits first,
    hex4?_digits second, Option.bind_eq_bind, Option.bind_some, if_pos isHigh, if_pos isLow, whole,
    Char.ofNat_toNat]

/-- A character that stands for itself. -/
theorem string?_plain (quote : c ≠ '"') (backslash : c ≠ '\\') (visible : ¬ c.toNat < 0x20) :
    string? (fuel + 1) found (c :: rest) = string? fuel (c :: found) rest := by
  rw [string?, if_neg visible]
  case x_3 => exact quote
  case x_4 => exact fun _ same => absurd same backslash
  case x_5 => exact fun _ _ same => absurd same backslash

/-- The reader takes back what the writer makes of a character. -/
theorem string?_escapeChar (ascii : Bool) (c : Char) :
    string? (fuel + 1) found (escapeChar ascii c ++ rest) = string? fuel (c :: found) rest := by
  unfold escapeChar
  split
  case h_8 quote backslash _ _ _ _ _ =>
    dsimp only
    split
    case isTrue control => exact string?_basic (Nat.lt_trans control (by decide))
    case isFalse visible =>
      split
      case isTrue => exact string?_plain quote backslash visible
      case isFalse =>
        split
        case isTrue below => exact string?_basic below
        case isFalse above =>
          have range := toNat_range c
          rw [List.append_assoc]
          exact string?_pair (by omega) (by omega) (by omega)
  all_goals rfl

theorem unicodeEscape_ne_nil (n : Nat) : unicodeEscape n ≠ [] := List.cons_ne_nil _ _

theorem escapeChar_ne_nil (ascii : Bool) (c : Char) : escapeChar ascii c ≠ [] := by
  unfold escapeChar
  split
  case h_8 =>
    dsimp only
    split
    case isTrue => exact unicodeEscape_ne_nil _
    case isFalse =>
      split
      case isTrue => exact List.cons_ne_nil _ _
      case isFalse =>
        split
        case isTrue => exact unicodeEscape_ne_nil _
        case isFalse => exact List.append_ne_nil_of_left_ne_nil (unicodeEscape_ne_nil _) _
  all_goals exact List.cons_ne_nil _ _

/-- No character is written as nothing, so that a string is no longer than its text. -/
theorem length_le_flatMap_escapeChar (ascii : Bool) (cs : List Char) :
    cs.length ≤ (cs.flatMap (escapeChar ascii)).length := by
  induction cs with
  | nil => exact Nat.le_refl 0
  | cons c cs ih =>
    have here := List.length_pos_iff.mpr (escapeChar_ne_nil ascii c)
    rw [List.flatMap_cons, List.length_append, List.length_cons]
    omega

/-! ## A whole string -/

/-- A string is read up to the quote that closes it. -/
theorem string?_flatMap (ascii : Bool) (cs : List Char) (enough : cs.length < fuel) :
    string? fuel found (cs.flatMap (escapeChar ascii) ++ '"' :: rest) =
      some (String.ofList (found.reverse ++ cs), rest) := by
  induction cs generalizing fuel found with
  | nil =>
    obtain ⟨fuel, rfl⟩ := Nat.exists_eq_add_one.mpr enough
    rw [List.append_nil]
    rfl
  | cons c cs ih =>
    obtain ⟨fuel, rfl⟩ := Nat.exists_eq_add_one.mpr (Nat.lt_of_le_of_lt (Nat.zero_le _) enough)
    rw [List.flatMap_cons, List.append_assoc, string?_escapeChar,
      ih (Nat.lt_of_succ_lt_succ enough), List.reverse_cons, List.append_assoc]
    rfl

/-- What follows the quote that opens a string. -/
def quoted (ascii : Bool) (s : String) : List Char :=
  s.toList.flatMap (escapeChar ascii) ++ ['"']

theorem toList_stringText (ascii : Bool) (s : String) :
    (stringText ascii s).toList = '"' :: quoted ascii s := by
  rw [stringText, String.toList_ofList]
  rfl

/-- A string reads back from its quoted form. -/
theorem string?_quoted (ascii : Bool) (s : String) :
    string? ((quoted ascii s ++ rest).length + 1) [] (quoted ascii s ++ rest) = some (s, rest) := by
  have long := length_le_flatMap_escapeChar ascii s.toList
  rw [quoted, List.append_assoc, List.singleton_append, string?_flatMap]
  · rw [List.reverse_nil, List.nil_append, String.ofList_toList]
  · rw [List.length_append]
    omega

end StationPool.Json
