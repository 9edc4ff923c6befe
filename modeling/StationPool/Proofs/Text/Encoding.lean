import StationPool.Text.Utf8

/-!
# The bytes of a text

The bytes of a text are the bytes of its characters, one after the other (`encode_eq`), and a
character is read off the front of them in one way only (`utf8EncodeChar_append_inj`).

In numbers: the first byte of a character tells how many follow (`lead`), and each of those has six
bits of it (`trail`). So a byte below 80 is always a character by itself (`mem_encode_of_ascii`).
-/

namespace StationPool.Text.Utf8

open String (utf8EncodeChar)

variable {c d : Char} {b : UInt8} {s : String} {n k : Nat}

/-! ## Characters -/

theorem isValidChar_toNat (c : Char) : c.toNat.isValidChar := c.valid

theorem toNat_ofNat (valid : n.isValidChar) : (Char.ofNat n).toNat = n := by
  rw [Char.ofNat, dif_pos valid]
  rfl

/-- What is left of a number without its last digits to the base 64, so many of them. -/
def upper (n : Nat) : Nat → Nat
  | 0 => n
  | k + 1 => upper n k / 64

theorem exists_upper (k m : Nat) : ∃ n, upper n k = m := by
  induction k generalizing m with
  | zero => exact ⟨m, rfl⟩
  | succ k ih =>
    obtain ⟨n, eq⟩ := ih (m * 64)
    exact ⟨n, by rw [upper, eq]; omega⟩

/-- The last bytes of a character, so many of them. -/
def trail (n : Nat) : Nat → Bytes
  | 0 => []
  | k + 1 => UInt8.ofNat (0x80 + upper n k % 64) :: trail n k

theorem length_trail (n k : Nat) : (trail n k).length = k := by
  induction k with
  | zero => rfl
  | succ k ih => rw [trail, List.length_cons, ih]

theorem le_of_mem_trail (mem : b ∈ trail n k) : 0x80 ≤ b.toNat := by
  induction k with
  | zero => cases mem
  | succ k ih =>
    rcases List.mem_cons.mp mem with rfl | later
    · rw [UInt8.toNat_ofNat']
      omega
    · exact ih later

/-- How many bytes follow the first byte of a character, and what the first byte is. -/
def lead (n : Nat) : Nat × Nat :=
  if n < 0x80 then (0, n)
  else if n < 0x800 then (1, 0xC0 + n / 64)
  else if n < 0x10000 then (2, 0xE0 + n / 64 / 64)
  else (3, 0xF0 + n / 64 / 64 / 64)

theorem lead_cases (n : Nat) :
    n < 0x80 ∧ lead n = (0, n) ∨ 0x80 ≤ n ∧ n < 0x800 ∧ lead n = (1, 0xC0 + n / 64) ∨
      0x800 ≤ n ∧ n < 0x10000 ∧ lead n = (2, 0xE0 + n / 64 / 64) ∨
      0x10000 ≤ n ∧ lead n = (3, 0xF0 + n / 64 / 64 / 64) := by
  unfold lead
  split
  · exact .inl ⟨‹_›, rfl⟩
  split
  · exact .inr (.inl ⟨by omega, ‹_›, rfl⟩)
  split
  · exact .inr (.inr (.inl ⟨by omega, ‹_›, rfl⟩))
  · exact .inr (.inr (.inr ⟨by omega, rfl⟩))

theorem lead_lt (valid : n.isValidChar) : (lead n).2 < 256 := by
  unfold Nat.isValidChar at valid
  rcases lead_cases n with ⟨_, eq⟩ | ⟨_, _, eq⟩ | ⟨_, _, eq⟩ | ⟨_, eq⟩ <;>
    simp only [eq] <;> omega

theorem cons_ofNat {m n : Nat} {bs bs' : Bytes} (head : m = n) (tail : bs = bs') :
    UInt8.ofNat m :: bs = UInt8.ofNat n :: bs' := by rw [head, tail]

/-- A character is encoded as a lead byte and the trail that it announces. -/
theorem utf8EncodeChar_eq (c : Char) :
    utf8EncodeChar c = UInt8.ofNat (lead c.toNat).2 :: trail c.toNat (lead c.toNat).1 := by
  have valid := isValidChar_toNat c
  have same : c.val.toNat = c.toNat := rfl
  simp only [Nat.isValidChar] at valid
  simp only [utf8EncodeChar, lead, same]
  generalize c.toNat = n at valid
  by_cases one : n < 0x80
  · rw [if_pos (by omega), if_pos one]
    rfl
  rw [if_neg (by omega), if_neg one]
  by_cases two : n < 0x800
  · rw [if_pos (by omega), if_pos two]
    simp only [trail, upper]
    exact cons_ofNat (by omega) (cons_ofNat (by omega) rfl)
  rw [if_neg (by omega), if_neg two]
  by_cases three : n < 0x10000
  · rw [if_pos (by omega), if_pos three]
    simp only [trail, upper]
    exact cons_ofNat (by omega) (cons_ofNat (by omega) (cons_ofNat (by omega) rfl))
  rw [if_neg (by omega), if_neg three]
  simp only [trail, upper]
  exact cons_ofNat (by omega)
    (cons_ofNat (by omega) (cons_ofNat (by omega) (cons_ofNat (by omega) rfl)))

theorem utf8EncodeChar_ne_nil (c : Char) : utf8EncodeChar c ≠ [] := by
  rw [utf8EncodeChar_eq]
  exact List.cons_ne_nil _ _

/-- One character and no other is read off the front of its bytes, whatever follows. -/
theorem utf8EncodeChar_append_inj {bs bs' : Bytes}
    (same : utf8EncodeChar c ++ bs = utf8EncodeChar d ++ bs') : c = d ∧ bs = bs' := by
  have decoded (c : Char) (bs : Bytes) :
      (utf8EncodeChar c ++ bs).toByteArray.utf8DecodeChar? 0 = some c := by
    rw [List.toByteArray_append]
    exact ByteArray.utf8DecodeChar?_utf8EncodeChar_append
  have eq : c = d := Option.some.inj (by rw [← decoded c bs, same, decoded])
  subst eq
  exact ⟨rfl, List.append_cancel_left same⟩

/-- A byte below 0x80 comes in the encoding of its own character only. -/
theorem mem_utf8EncodeChar_of_ascii (small : b.toNat < 0x80) :
    b ∈ utf8EncodeChar c ↔ c.toNat = b.toNat := by
  rw [utf8EncodeChar_eq, List.mem_cons]
  have valid := lead_lt (isValidChar_toNat c)
  have first : b = UInt8.ofNat (lead c.toNat).2 ↔ (lead c.toNat).2 = b.toNat := by
    rw [← UInt8.toNat_inj, UInt8.toNat_ofNat', Nat.mod_eq_of_lt valid]
    exact eq_comm
  have later : b ∉ trail c.toNat (lead c.toNat).1 := fun mem => by
    have := le_of_mem_trail mem
    omega
  rw [first, or_iff_left later]
  rcases lead_cases c.toNat with ⟨_, eq⟩ | ⟨_, _, eq⟩ | ⟨_, _, eq⟩ | ⟨_, eq⟩ <;>
    simp only [eq] <;> omega

/-! ## Texts -/

theorem toList_loop (bs : ByteArray) (i : Nat) (before : Bytes) :
    ByteArray.toList.loop bs i before = before.reverse ++ bs.data.toList.drop i := by
  fun_induction ByteArray.toList.loop bs i before with
  | case1 i before more ih =>
    have there : i < bs.data.toList.length := more
    have next : bs.get! i = bs.data.toList[i] := getElem!_pos bs.data i more
    rw [ih, next, List.drop_eq_getElem_cons there, List.reverse_cons, List.append_assoc,
      List.singleton_append]
  | case2 i before done =>
    rw [List.drop_eq_nil_of_le (Nat.le_of_not_lt done), List.append_nil]

theorem encode_ofList (cs : List Char) : encode (String.ofList cs) = cs.flatMap utf8EncodeChar := by
  have bytes : (String.ofList cs).toUTF8 = (cs.flatMap utf8EncodeChar).toByteArray :=
    String.toByteArray_ofList
  rw [encode, bytes, ByteArray.toList, toList_loop, List.toList_data_toByteArray]
  rfl

theorem encode_eq (s : String) : encode s = s.toList.flatMap utf8EncodeChar := by
  rw [← encode_ofList, String.ofList_toList]

theorem encode_append (s t : String) : encode (s ++ t) = encode s ++ encode t := by
  rw [encode_eq, encode_eq, encode_eq, String.toList_append, List.flatMap_append]

/-- A byte below 80 is among the bytes of a text where its character is in the text. -/
theorem mem_encode_of_ascii (small : b.toNat < 0x80) :
    b ∈ encode s ↔ ∃ c ∈ s.toList, c.toNat = b.toNat := by
  rw [encode_eq, List.mem_flatMap]
  simp only [mem_utf8EncodeChar_of_ascii small]

end StationPool.Text.Utf8
