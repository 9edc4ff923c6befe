import StationPool.Text.Blank

/-!
# Trimmed texts

What trimming leaves of a text: the part between its first and its last visible character, and
nothing where there is none. A text is `Trimmed` where it ends with no blank on either side; these
are the texts that trimming gives, and the ones it leaves as they are.
-/

namespace StationPool.Text

variable {cs : List Char}

/-- A text that neither begins nor ends with a blank. -/
structure Trimmed (cs : List Char) : Prop where
  first : ∀ c ∈ cs.head?, isBlank c = false
  last : ∀ c ∈ cs.getLast?, isBlank c = false

/-- A text is blank if each of its characters is. -/
theorem isBlankText_iff {s : String} : isBlankText s = true ↔ ∀ c ∈ s.toList, isBlank c = true :=
  List.all_eq_true

/-! ## One side -/

theorem head_trimLeft (cs : List Char) : ∀ c ∈ (trimLeft cs).head?, isBlank c = false := by
  induction cs with
  | nil => exact nofun
  | cons c rest ih =>
    cases blank : isBlank c with
    | true =>
      rw [trimLeft_cons_of_blank blank]
      exact ih
    | false =>
      rw [trimLeft_cons_of_visible blank]
      rintro d ⟨⟩
      exact blank

/-- A text that does not begin with a blank stays. -/
theorem trimLeft_eq_self (first : ∀ c ∈ cs.head?, isBlank c = false) : trimLeft cs = cs := by
  cases cs with
  | nil => rfl
  | cons c rest => exact trimLeft_cons_of_visible (first c rfl) rest

theorem exists_trimLeft (cs : List Char) :
    ∃ front, cs = front ++ trimLeft cs ∧ ∀ c ∈ front, isBlank c = true :=
  ⟨cs.takeWhile isBlank, List.takeWhile_append_dropWhile.symm,
    List.all_eq_true.mp List.all_takeWhile⟩

theorem exists_trimRight (cs : List Char) :
    ∃ back, cs = trimRight cs ++ back ∧ ∀ c ∈ back, isBlank c = true := by
  obtain ⟨front, split, blank⟩ := exists_trimLeft cs.reverse
  refine ⟨front.reverse, ?_, fun c mem => blank c (List.mem_reverse.mp mem)⟩
  rw [trimRight, ← List.reverse_append, ← split, List.reverse_reverse]

/-! ## Both sides -/

/-- Trimming takes blanks off the two ends, and nothing else. -/
theorem exists_trimChars (cs : List Char) :
    ∃ front back, cs = front ++ trimChars cs ++ back ∧ (∀ c ∈ front, isBlank c = true) ∧
      ∀ c ∈ back, isBlank c = true := by
  obtain ⟨front, split, blank⟩ := exists_trimLeft cs
  obtain ⟨back, split', blank'⟩ := exists_trimRight (trimLeft cs)
  refine ⟨front, back, ?_, blank, blank'⟩
  rw [List.append_assoc, trimChars, ← split', ← split]

theorem trimmed_trimChars (cs : List Char) : Trimmed (trimChars cs) where
  first c mem := by
    -- what the right side loses, the left side keeps its beginning
    obtain ⟨back, split, -⟩ := exists_trimRight (trimLeft cs)
    have found : (trimRight (trimLeft cs)).head? = some c := mem
    refine head_trimLeft cs c ?_
    rw [split, List.head?_append, found]
    rfl
  last c mem := by
    rw [trimChars, trimRight, List.getLast?_reverse] at mem
    exact head_trimLeft _ c mem

/-- A text that is trimmed already stays as it is. -/
theorem trimChars_of_trimmed (trimmed : Trimmed cs) : trimChars cs = cs := by
  have last : ∀ c ∈ cs.reverse.head?, isBlank c = false := by
    rw [List.head?_reverse]
    exact trimmed.last
  rw [trimChars, trimLeft_eq_self trimmed.first, trimRight, trimLeft_eq_self last,
    List.reverse_reverse]

/-- Nothing is left of blanks, and of them only. -/
theorem trimChars_eq_nil_iff : trimChars cs = [] ↔ ∀ c ∈ cs, isBlank c = true := by
  obtain ⟨front, back, split, blank, blank'⟩ := exists_trimChars cs
  constructor
  · intro none_ c mem
    rw [split, none_, List.append_nil] at mem
    exact (List.mem_append.mp mem).elim (blank c) (blank' c)
  · intro all
    cases rest : trimChars cs with
    | nil => rfl
    | cons c more =>
      have visible := (trimmed_trimChars cs).first c (by rw [rest]; rfl)
      have mem : c ∈ cs := by
        rw [split, rest]
        simp
      rw [all c mem] at visible
      cases visible

/-! ## Texts as strings -/

theorem toList_trim (s : String) : (trim s).toList = trimChars s.toList := String.toList_ofList

/-- A text is blank if nothing of it is left after trimming. -/
theorem isEmpty_trim_iff {s : String} : (trim s).isEmpty = true ↔ isBlankText s = true := by
  rw [String.isEmpty_iff, ← String.toList_eq_nil_iff, toList_trim, trimChars_eq_nil_iff,
    isBlankText_iff]

end StationPool.Text
