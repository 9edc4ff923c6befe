/-!
# Blank characters

The characters of the Unicode property White_Space, and trimming by them. Station ids, protocol
versions and the base URL are compared after trimming, so the class is the whole property and not
the ASCII part of it.

`trim` is stated on lists of characters: the blanks at either end go, and what lies between two
visible characters stays (`trimLeft_append_of_visible`).
-/

namespace StationPool.Text

/-- The Unicode property White_Space. -/
def isBlank (c : Char) : Bool :=
  let n := c.toNat
  (0x9 ≤ n && n ≤ 0xD) || n == 0x20 || n == 0x85 || n == 0xA0 || n == 0x1680
    || (0x2000 ≤ n && n ≤ 0x200A) || n == 0x2028 || n == 0x2029 || n == 0x202F || n == 0x205F
    || n == 0x3000

/-- The text without the blanks it starts with. -/
def trimLeft (cs : List Char) : List Char := cs.dropWhile isBlank

/-- The text without the blanks it ends with. -/
def trimRight (cs : List Char) : List Char := (trimLeft cs.reverse).reverse

/-- The text without the blanks at either end. -/
def trimChars (cs : List Char) : List Char := trimRight (trimLeft cs)

/-- The text without the blanks at either end. -/
def trim (s : String) : String := String.ofList (trimChars s.toList)

/-- Nothing but blanks. -/
def isBlankText (s : String) : Bool := s.toList.all isBlank

theorem trimLeft_nil : trimLeft [] = [] := rfl

theorem trimLeft_cons_of_blank {c : Char} (h : isBlank c = true) (r : List Char) :
    trimLeft (c :: r) = trimLeft r := by simp [trimLeft, h]

theorem trimLeft_cons_of_visible {c : Char} (h : isBlank c = false) (r : List Char) :
    trimLeft (c :: r) = c :: r := by simp [trimLeft, h]

/-- A text that starts with a visible character keeps its start, whatever follows it. -/
theorem trimLeft_append_of_visible {c : Char} (h : isBlank c = false) (r s : List Char) :
    trimLeft ((c :: r) ++ s) = (c :: r) ++ s := by simp [trimLeft, h]

/-- The characters that core counts as white space are blank. -/
theorem isBlank_of_isWhitespace {c : Char} (h : c.isWhitespace = true) : isBlank c = true := by
  simp only [Char.isWhitespace, Bool.or_eq_true, decide_eq_true_eq] at h
  rcases h with ((h | h) | h) | h <;> subst h <;> decide

end StationPool.Text
