import StationPool.Text.Base64

/-!
# Reading Base64 back

A digit stands for its value and no other character does, so what was written is read back
(`decode?_encode`), whatever the padding, and nothing else is read at all (`eq_encode_of_decode?`).
-/

namespace StationPool.Text.Base64

variable {bs : Bytes} {cs : List Char} {c : Char} {n : Nat}

/-! ## Digits -/

theorem value?_digit : ∀ n < 64, value? (digit n) = some n := by decide

theorem digit_ne_pad : ∀ n < 64, digit n ≠ '=' := by decide

theorem digit_visible : ∀ n < 64, 0x20 < (digit n).toNat ∧ (digit n).toNat < 0x7F := by decide

/-- A digit that is read is the digit of its value. -/
theorem digit_of_value? (read : value? c = some n) : n < 64 ∧ digit n = c := by
  simp only [value?] at read
  split at read
  case isTrue upper =>
    cases read
    refine ⟨by omega, ?_⟩
    rw [digit, if_pos (by omega), Nat.sub_add_cancel upper.1, Char.ofNat_toNat]
  split at read
  case isTrue lower =>
    cases read
    refine ⟨by omega, ?_⟩
    rw [digit, if_neg (by omega), if_pos (by omega), Nat.sub_add_cancel (by omega),
      Char.ofNat_toNat]
  split at read
  case isTrue decimal =>
    cases read
    refine ⟨by omega, ?_⟩
    rw [digit, if_neg (by omega), if_neg (by omega), if_pos (by omega), Nat.add_sub_cancel,
      Char.ofNat_toNat]
  split at read
  case isTrue plus =>
    cases read
    exact ⟨by omega, plus.symm⟩
  split at read
  case isTrue slash =>
    cases read
    exact ⟨by omega, slash.symm⟩
  cases read

/-! ## Groups of digits -/

theorem decode?_one {w x : Nat} (hw : w < 64) (hx : x < 64) (even : (w * 64 + x) % 16 = 0) :
    decode? [digit w, digit x, '=', '='] = some [UInt8.ofNat ((w * 64 + x) / 16)] := by
  rw [decode?, value?_digit w hw, value?_digit x hx]
  exact if_pos even

theorem decode?_two {w x y : Nat} (hw : w < 64) (hx : x < 64) (hy : y < 64)
    (even : (w * 4096 + x * 64 + y) % 4 = 0) :
    decode? [digit w, digit x, digit y, '='] =
      some [UInt8.ofNat ((w * 4096 + x * 64 + y) / 1024),
        UInt8.ofNat ((w * 4096 + x * 64 + y) / 4 % 256)] := by
  rw [decode?, value?_digit w hw, value?_digit x hx, value?_digit y hy]
  · exact if_pos even
  · exact digit_ne_pad y hy

theorem decode?_three {w x y z : Nat} (hw : w < 64) (hx : x < 64) (hy : y < 64) (hz : z < 64)
    (rest : decode? cs = some bs) :
    decode? (digit w :: digit x :: digit y :: digit z :: cs) =
      some (UInt8.ofNat ((w * 262144 + x * 4096 + y * 64 + z) / 65536) ::
        UInt8.ofNat ((w * 262144 + x * 4096 + y * 64 + z) / 256 % 256) ::
        UInt8.ofNat ((w * 262144 + x * 4096 + y * 64 + z) % 256) :: bs) := by
  rw [decode?, value?_digit w hw, value?_digit x hx, value?_digit y hy, value?_digit z hz, rest]
  · rfl
  · exact fun _ pad _ => digit_ne_pad z hz pad
  · exact fun pad _ => digit_ne_pad z hz pad

/-- A number that is a byte's is that byte. -/
theorem ofNat_eq {b : UInt8} (same : n = b.toNat) : UInt8.ofNat n = b := by
  rw [same, UInt8.ofNat_toNat]

/-- What was written is read back. -/
theorem decode?_encode (bs : Bytes) : decode? (encode bs) = some bs := by
  fun_induction encode bs with
  | case1 a b c rest n ih =>
    have ha := a.toNat_lt
    have hb := b.toNat_lt
    have hc := c.toNat_lt
    rw [decode?_three (by omega) (by omega) (by omega) (by omega) ih,
      ofNat_eq (b := a) (by omega), ofNat_eq (b := b) (by omega), ofNat_eq (b := c) (by omega)]
  | case2 a b n =>
    have ha := a.toNat_lt
    have hb := b.toNat_lt
    rw [decode?_two (by omega) (by omega) (by omega) (by omega),
      ofNat_eq (b := a) (by omega), ofNat_eq (b := b) (by omega)]
  | case3 a n =>
    have ha := a.toNat_lt
    rw [decode?_one (by omega) (by omega) (by omega), ofNat_eq (b := a) (by omega)]
  | case4 => rfl

/-- Every character that is written is visible. -/
theorem visible_of_mem_encode (mem : c ∈ encode bs) : 0x20 < c.toNat ∧ c.toNat < 0x7F := by
  have pad : 0x20 < '='.toNat ∧ '='.toNat < 0x7F := by decide
  fun_induction encode bs with
  | case1 a b c' rest n ih =>
    have ha := a.toNat_lt
    have hb := b.toNat_lt
    have hc := c'.toNat_lt
    simp only [List.mem_cons] at mem
    obtain rfl | rfl | rfl | rfl | later := mem
    · exact digit_visible _ (by omega)
    · exact digit_visible _ (by omega)
    · exact digit_visible _ (by omega)
    · exact digit_visible _ (by omega)
    · exact ih later
  | case2 a b n =>
    have ha := a.toNat_lt
    have hb := b.toNat_lt
    simp only [List.mem_cons, List.not_mem_nil, or_false] at mem
    obtain rfl | rfl | rfl | rfl := mem
    · exact digit_visible _ (by omega)
    · exact digit_visible _ (by omega)
    · exact digit_visible _ (by omega)
    · exact pad
  | case3 a n =>
    have ha := a.toNat_lt
    simp only [List.mem_cons, List.not_mem_nil, or_false] at mem
    obtain rfl | rfl | rfl | rfl := mem
    · exact digit_visible _ (by omega)
    · exact digit_visible _ (by omega)
    · exact pad
    · exact pad
  | case4 => cases mem

theorem cons_digit {m : Nat} {cs' : List Char} (read : value? c = some n) (head : n = m)
    (tail : cs = cs') : c :: cs = digit m :: cs' := by
  rw [← (digit_of_value? read).2, head, tail]

/-- Nothing is read but what the bytes it gives are written as. -/
theorem eq_encode_of_decode? (read : decode? cs = some bs) : cs = encode bs := by
  fun_induction decode? cs generalizing bs with
  | case1 =>
    cases read
    rfl
  | case2 w x =>
    simp only [Option.bind_eq_bind, Option.bind_eq_some_iff] at read
    obtain ⟨i, hw, j, hx, read⟩ := read
    have bi := (digit_of_value? hw).1
    have bj := (digit_of_value? hx).1
    split at read
    · cases read
      rw [encode, UInt8.toNat_ofNat']
      exact cons_digit hw (by omega) (cons_digit hx (by omega) rfl)
    · cases read
  | case3 w x y _ =>
    simp only [Option.bind_eq_bind, Option.bind_eq_some_iff] at read
    obtain ⟨i, hw, j, hx, k, hy, read⟩ := read
    have bi := (digit_of_value? hw).1
    have bj := (digit_of_value? hx).1
    have bk := (digit_of_value? hy).1
    split at read
    · cases read
      rw [encode, UInt8.toNat_ofNat', UInt8.toNat_ofNat']
      exact cons_digit hw (by omega) (cons_digit hx (by omega) (cons_digit hy (by omega) rfl))
    · cases read
  | case4 w x y z rest _ _ ih =>
    simp only [Option.bind_eq_bind, Option.bind_eq_some_iff] at read
    obtain ⟨i, hw, j, hx, k, hy, l, hz, tail, later, same⟩ := read
    have bi := (digit_of_value? hw).1
    have bj := (digit_of_value? hx).1
    have bk := (digit_of_value? hy).1
    have bl := (digit_of_value? hz).1
    cases same
    rw [encode, UInt8.toNat_ofNat', UInt8.toNat_ofNat', UInt8.toNat_ofNat']
    exact cons_digit hw (by omega) (cons_digit hx (by omega) (cons_digit hy (by omega)
      (cons_digit hz (by omega) (ih later))))
  | case5 => cases read

end StationPool.Text.Base64
