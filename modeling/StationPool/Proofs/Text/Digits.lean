import StationPool.Text.Blank
import StationPool.Text.Digits

/-!
# Written numbers

What a number looks like in decimal digits, and that reading gives it back: a written number is made
of digits only, there is at least one, and zeros in front of it change its length and not its value.
-/

namespace StationPool.Text.Digits

variable {width n : Nat}

/-! ## Digits -/

theorem write_ne_nil : write n ≠ [] := Nat.toDigits_ne_nil

/-- No digit is a blank, so trimming never eats into a number. -/
theorem isBlank_of_isDigit {c : Char} (digit : c.isDigit = true) : isBlank c = false := by
  have range : 48 ≤ c.toNat ∧ c.toNat ≤ 57 := Char.isDigit_iff_toNat.mp digit
  simp only [isBlank, Bool.or_eq_false_iff, Bool.and_eq_false_iff, decide_eq_false_iff_not,
    beq_eq_false_iff_ne]
  omega

theorem isDigit_of_mem_write {c : Char} (mem : c ∈ write n) : c.isDigit = true :=
  Nat.isDigit_of_mem_toDigits (by decide) (by decide) mem

theorem isDigit_of_mem_padded {c : Char} (mem : c ∈ padded width n) : c.isDigit = true := by
  rcases List.mem_append.mp mem with zero | own
  · rw [List.eq_of_mem_replicate zero]
    rfl
  · exact isDigit_of_mem_write own

theorem exists_digit {ds : List Char} (digits : ∀ c ∈ ds, c.isDigit = true) (some_ : ds ≠ []) :
    ∃ d more, ds = d :: more ∧ d.isDigit = true := by
  obtain ⟨d, more, rfl⟩ := List.exists_cons_of_ne_nil some_
  exact ⟨d, more, rfl, digits d List.mem_cons_self⟩

/-- A run of digits ends where no digit follows. -/
theorem takeWhile_digits {ds rest : List Char} (digits : ∀ c ∈ ds, c.isDigit = true)
    (ends : ∀ c ∈ rest.head?, c.isDigit = false) : (ds ++ rest).takeWhile Char.isDigit = ds := by
  have stop : rest.takeWhile Char.isDigit = [] := by
    cases rest with
    | nil => rfl
    | cons c more => simp [ends c rfl]
  rw [List.takeWhile_append_of_pos digits, stop, List.append_nil]

/-- A number does not begin with a zero, unless it is zero. -/
theorem head_write_ne_zero (positive : 0 < n) : (write n).head? ≠ some '0' := by
  have digit : ∀ d < 10, 0 < d → Nat.digitChar d ≠ '0' := by decide
  induction n using Nat.strongRecOn with
  | ind n ih =>
    by_cases one : n < 10
    · rw [write, Nat.toDigits_of_lt_base one, List.head?_cons]
      exact fun zero => digit n one positive (Option.some.inj zero)
    · have front := ih (n / 10) (by omega) (by omega)
      obtain ⟨d, more, shape⟩ := List.exists_cons_of_ne_nil (write_ne_nil : write (n / 10) ≠ [])
      rw [shape] at front
      rw [write, Nat.toDigits_of_base_le (by decide) (Nat.le_of_not_lt one), ← write, shape]
      exact front

/-! ## Length -/

theorem padded_ne_nil : padded width n ≠ [] := List.append_ne_nil_of_right_ne_nil _ write_ne_nil

/-- A number that fits its width fills it. -/
theorem length_padded (wide : 0 < width) (fits : n < Nat.pow 10 width) :
    (padded width n).length = width := by
  have short : (write n).length ≤ width := (Nat.length_toDigits_le_iff (by decide) wide).mpr fits
  rw [padded, List.length_append, List.length_replicate]
  omega

/-! ## Value -/

theorem value_eq_ofDigitChars (ds : List Char) : value ds = Nat.ofDigitChars 10 ds 0 := by
  simp only [value, Nat.ofDigitChars_eq_foldl, Nat.mul_comm 10]
  rfl

/-- A number that is written is read back. -/
theorem value_write (n : Nat) : value (write n) = n := by
  rw [value_eq_ofDigitChars, write, Nat.ofDigitChars_ten_toDigits]

/-- Zeros in front make no difference to what is read. -/
theorem value_padded (width n : Nat) : value (padded width n) = n := by
  rw [value_eq_ofDigitChars, padded, Nat.ofDigitChars_append, Nat.ofDigitChars_replicate_zero,
    Nat.mul_zero, ← value_eq_ofDigitChars, value_write]

end StationPool.Text.Digits
