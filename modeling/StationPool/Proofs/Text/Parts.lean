import StationPool.Proofs.Text.Encoding

/-!
# The parts of a byte string

`Cut` says what the parts of a byte string are, without a reader: from the left, a character whose
bytes stand there, and where no character does, one maximal ill-formed piece (`Broken`). That is a
byte that begins no character, or the bytes of a character that was begun, as many as there are.

Every byte string has such parts and only one list of them (`Cut.unique`), and the reader finds them
(`cut_parts`). The induction is on the bytes; what carries it is that an open sequence knows which
characters it may still become (`Owed.Sound`). So what is well-formed for the reader is what some
text is written as (`wellFormed_iff`), and these are the byte strings that the lossy reading keeps
(`encode_lossy_iff`).
-/

namespace StationPool.Text.Utf8

open String (utf8EncodeChar)

variable {k n : Nat} {o : Owed} {b : UInt8} {c : Char} {bs m m' rest rest' : Bytes}
  {ps ps' : List Part}

/-! ## What the parts are -/

/-- A byte string that is some characters, one after the other. -/
def WellFormed (bs : Bytes) : Prop := ∃ cs : List Char, bs = cs.flatMap utf8EncodeChar

/-- Bytes that a character begins with. -/
def Begins (bs : Bytes) : Prop := ∃ c, bs <+: utf8EncodeChar c

/-- A maximal ill-formed piece: no character stands here, the piece is one byte or the beginning of
a character, and with the byte behind it it would be neither. -/
structure Broken (m rest : Bytes) : Prop where
  nonempty : m ≠ []
  unreadable : ∀ c, ¬ utf8EncodeChar c <+: m ++ rest
  begun : m.length = 1 ∨ Begins m
  longest : ∀ b, rest.head? = some b → ¬ Begins (m ++ [b])

/-- The parts of a byte string. -/
inductive Cut : Bytes → List Part → Prop where
  | nil : Cut [] []
  | scalar (c : Char) {rest : Bytes} {ps : List Part} (cut : Cut rest ps) :
      Cut (utf8EncodeChar c ++ rest) (.scalar c :: ps)
  | illFormed {m rest : Bytes} {ps : List Part} (broken : Broken m rest) (cut : Cut rest ps) :
      Cut (m ++ rest) (.illFormed m :: ps)

/-- The bytes that a part stands for. -/
def Part.bytes : Part → Bytes
  | .scalar c => utf8EncodeChar c
  | .illFormed m => m

theorem Cut.bytes (cut : Cut bs ps) : bs = ps.flatMap Part.bytes := by
  induction cut with
  | nil => rfl
  | scalar c _ ih => rw [List.flatMap_cons, ← ih, Part.bytes]
  | illFormed _ _ ih => rw [List.flatMap_cons, ← ih, Part.bytes]

theorem cut_scalars (cs : List Char) : Cut (cs.flatMap utf8EncodeChar) (cs.map .scalar) := by
  induction cs with
  | nil => exact .nil
  | cons c cs ih =>
    rw [List.flatMap_cons]
    exact .scalar c ih

/-! ## There is one list of parts -/

/-- Of two ill-formed pieces at one place neither is longer. -/
theorem Broken.length_le (broken : Broken m rest) (broken' : Broken m' rest')
    (same : m ++ rest = m' ++ rest') : m'.length ≤ m.length := by
  refine Nat.le_of_not_lt fun shorter => ?_
  obtain ⟨b, more, rfl⟩ : ∃ b more, m' = m ++ b :: more := by
    have part : m <+: m' := List.prefix_of_prefix_length_le (same ▸ List.prefix_append m rest)
      (List.prefix_append m' rest') (Nat.le_of_lt shorter)
    obtain ⟨more, rfl⟩ := part
    cases more with
    | nil => simp at shorter
    | cons b more => exact ⟨b, more, rfl⟩
  rw [List.append_assoc, List.append_cancel_left_eq] at same
  subst same
  rcases broken'.begun with single | ⟨c, begun⟩
  · have := List.length_pos_iff.mpr broken.nonempty
    rw [List.length_append, List.length_cons] at single
    omega
  · refine broken.longest b rfl ⟨c, List.IsPrefix.trans ?_ begun⟩
    rw [List.prefix_append_right_inj, List.cons_prefix_cons]
    exact ⟨rfl, List.nil_prefix⟩

/-- A text is cut into parts in one way only. -/
theorem Cut.unique (cut : Cut bs ps) (cut' : Cut bs ps') : ps = ps' := by
  induction cut generalizing ps' with
  | nil =>
    generalize same : ([] : Bytes) = bs at cut'
    cases cut' with
    | nil => rfl
    | scalar c _ => exact absurd (List.append_eq_nil_iff.mp same.symm).1 (utf8EncodeChar_ne_nil c)
    | illFormed broken _ => exact absurd (List.append_eq_nil_iff.mp same.symm).1 broken.nonempty
  | @scalar c rest _ cut ih =>
    generalize same : utf8EncodeChar c ++ rest = bs at cut'
    cases cut' with
    | nil => exact absurd (List.append_eq_nil_iff.mp same).1 (utf8EncodeChar_ne_nil c)
    | scalar d cut' =>
      obtain ⟨rfl, rfl⟩ := utf8EncodeChar_append_inj same
      rw [ih cut']
    | illFormed broken _ => exact absurd (same ▸ List.prefix_append _ _) (broken.unreadable c)
  | @illFormed m rest _ broken cut ih =>
    generalize same : m ++ rest = bs at cut'
    cases cut' with
    | nil => exact absurd (List.append_eq_nil_iff.mp same).1 broken.nonempty
    | scalar d _ => exact absurd (same.symm ▸ List.prefix_append _ _) (broken.unreadable d)
    | illFormed broken' cut' =>
      have length := Nat.le_antisymm (broken'.length_le broken same.symm)
        (broken.length_le broken' same)
      obtain ⟨rfl, rfl⟩ := List.append_inj same length
      rw [ih cut']

/-! ## What an open sequence may become -/

/-- The characters that an open sequence may still become, its next byte being the first of
`k + 1`. -/
def Owed.Meets (o : Owed) (k n : Nat) : Prop :=
  upper n (k + 1) = o.value ∧ o.low.toNat ≤ 0x80 + upper n k % 64 ∧
    0x80 + upper n k % 64 ≤ o.high.toNat

/-- An open sequence has taken the first bytes of just the characters that it may become. -/
structure Owed.Sound (k : Nat) (o : Owed) : Prop where
  more : o.more = k + 1
  taken : o.taken ≠ []
  low : 0x80 ≤ o.low.toNat
  low_le_high : o.low.toNat ≤ o.high.toNat
  high : o.high.toNat ≤ 0xBF
  complete : ∀ n, o.Meets k n →
    n.isValidChar ∧ utf8EncodeChar (Char.ofNat n) = o.taken.reverse ++ trail n (k + 1)
  only : ∀ c, o.taken.reverse <+: utf8EncodeChar c → o.Meets k c.toNat

namespace Owed.Sound

theorem spelled (sound : o.Sound k) (begun : o.taken.reverse <+: utf8EncodeChar c) :
    utf8EncodeChar c = o.taken.reverse ++ trail c.toNat (k + 1) := by
  have spelled := (sound.complete _ (sound.only c begun)).2
  rwa [Char.ofNat_toNat] at spelled

/-- A character goes on with its next digit. -/
theorem next (sound : o.Sound k) (begun : o.taken.reverse ++ [b] <+: utf8EncodeChar c) :
    o.Meets k c.toNat ∧ b.toNat = 0x80 + upper c.toNat k % 64 := by
  have before : o.taken.reverse <+: utf8EncodeChar c := (List.prefix_append _ _).trans begun
  rw [sound.spelled before, List.prefix_append_right_inj, trail, List.cons_prefix_cons] at begun
  refine ⟨sound.only c before, ?_⟩
  rw [begun.1, UInt8.toNat_ofNat']
  omega

/-- Some character begins with what an open sequence has taken. -/
theorem begins (sound : o.Sound k) : Begins o.taken.reverse := by
  obtain ⟨n, eq⟩ := exists_upper k (o.value * 64 + (o.low.toNat - 0x80))
  have low := sound.low
  have low_le_high := sound.low_le_high
  have high := sound.high
  have meets : o.Meets k n := by
    unfold Meets
    rw [upper, eq]
    omega
  exact ⟨Char.ofNat n, (sound.complete n meets).2 ▸ List.prefix_append _ _⟩

/-- An open sequence that cannot go on is a maximal ill-formed piece. -/
theorem broken (sound : o.Sound k)
    (longest : ∀ b, rest.head? = some b → ¬ Begins (o.taken.reverse ++ [b])) :
    Broken o.taken.reverse rest := by
  refine ⟨mt List.reverse_eq_nil_iff.mp sound.taken, fun c reads => ?_, .inr sound.begins, longest⟩
  rcases List.prefix_or_prefix_of_prefix reads (List.prefix_append _ _) with whole | part
  · -- no character is shorter than another that it begins
    obtain ⟨d, begun⟩ := sound.begins
    obtain ⟨more, eq⟩ := whole.trans begun
    obtain ⟨rfl, -⟩ := utf8EncodeChar_append_inj (eq.trans (List.append_nil _).symm)
    have length := whole.length_le
    rw [sound.spelled begun, List.length_append, length_trail] at length
    omega
  · rw [sound.spelled part, List.prefix_append_right_inj, trail] at reads
    cases rest with
    | nil => exact absurd reads.length_le (by simp)
    | cons b rest =>
      obtain ⟨rfl, -⟩ := List.cons_prefix_cons.mp reads
      refine longest _ rfl ⟨c, ?_⟩
      rw [sound.spelled part, trail, List.prefix_append_right_inj, List.cons_prefix_cons]
      exact ⟨rfl, List.nil_prefix⟩

end Owed.Sound

/-! ## What a byte begins -/

theorem lead_of_begins (begun : [b] <+: utf8EncodeChar c) : (lead c.toNat).2 = b.toNat := by
  rw [utf8EncodeChar_eq] at begun
  obtain ⟨eq, -⟩ := List.cons_prefix_cons.mp begun
  rw [eq, UInt8.toNat_ofNat', Nat.mod_eq_of_lt (lead_lt (isValidChar_toNat c))]

theorem not_begins (none_ : ∀ n : Nat, n.isValidChar → (lead n).2 ≠ b.toNat) : ¬ Begins [b] :=
  fun ⟨_, begun⟩ => none_ _ (isValidChar_toNat _) (lead_of_begins begun)

/-- A byte that begins no character is a broken part of its own. -/
theorem broken_of_not_begins (none_ : ¬ Begins [b]) : Broken [b] rest where
  nonempty := List.cons_ne_nil _ _
  unreadable c reads := by
    refine none_ ⟨c, ?_⟩
    rw [utf8EncodeChar_eq] at reads ⊢
    obtain ⟨rfl, -⟩ := List.cons_prefix_cons.mp reads
    exact List.cons_prefix_cons.mpr ⟨rfl, List.nil_prefix⟩
  begun := .inl rfl
  longest := by
    rintro b' - ⟨c, begun⟩
    exact none_ ⟨c, (List.prefix_append _ _).trans begun⟩

/-- A first byte opens a sequence for the characters that begin with it. -/
theorem sound_of_lead {low high : UInt8} {value : Nat} (above : 0x80 ≤ low.toNat)
    (low_le_high : low.toNat ≤ high.toNat) (below : high.toNat ≤ 0xBF)
    (meets_iff : ∀ n, (⟨k + 1, low, high, value, [b]⟩ : Owed).Meets k n ↔
      n.isValidChar ∧ (lead n).2 = b.toNat)
    (follow : ∀ n, n.isValidChar → (lead n).2 = b.toNat → (lead n).1 = k + 1) :
    (⟨k + 1, low, high, value, [b]⟩ : Owed).Sound k := by
  refine ⟨rfl, List.cons_ne_nil _ _, above, low_le_high, below, fun n meets => ?_,
    fun c begun => ?_⟩
  · obtain ⟨valid, first⟩ := (meets_iff n).mp meets
    refine ⟨valid, ?_⟩
    rw [utf8EncodeChar_eq, toNat_ofNat valid, first, follow n valid first, UInt8.ofNat_toNat]
    rfl
  · exact (meets_iff _).mpr ⟨isValidChar_toNat c, lead_of_begins begun⟩

/-- What a byte makes of a reader without an open sequence. -/
inductive Opening (b : UInt8) : Reader → Prop where
  | scalar {c : Char} (spelled : utf8EncodeChar c = [b]) : Opening b ⟨[.scalar c], none⟩
  | nothing (none_ : ¬ Begins [b]) : Opening b ⟨[.illFormed [b]], none⟩
  | opens {k : Nat} {o : Owed} (sound : o.Sound k) (taken : o.taken = [b]) :
      Opening b ⟨[], some o⟩

theorem opening_begin (b : UInt8) : Opening b (Reader.begin [] b) := by
  have byte := b.toNat_lt
  simp only [Reader.begin, UInt8.lt_iff_toNat_lt, beq_iff_eq, ← UInt8.toNat_inj,
    UInt8.reduceToNat]
  split
  · have valid : b.toNat.isValidChar := .inl (by omega)
    refine .scalar ?_
    rw [utf8EncodeChar_eq, toNat_ofNat valid]
    rcases lead_cases b.toNat with ⟨_, eq⟩ | ⟨_, _⟩ | ⟨_, _⟩ | ⟨_, _⟩
    · rw [eq, UInt8.ofNat_toNat]
      rfl
    all_goals omega
  split
  · refine .nothing (not_begins fun n valid first => ?_)
    rcases lead_cases n with ⟨_, eq⟩ | ⟨_, _, eq⟩ | ⟨_, _, eq⟩ | ⟨_, eq⟩ <;>
      simp only [eq] at first <;> omega
  -- the seven ranges of first bytes that others follow
  iterate 7
    split
    · refine .opens (sound_of_lead (by decide) (by decide) (by decide) (fun n => ?_)
        fun n valid first => ?_) rfl
      · simp only [Owed.Meets, Nat.isValidChar, upper, UInt8.reduceToNat]
        rcases lead_cases n with ⟨_, eq⟩ | ⟨_, _, eq⟩ | ⟨_, _, eq⟩ | ⟨_, eq⟩ <;>
          simp only [eq] <;> omega
      · unfold Nat.isValidChar at valid
        rcases lead_cases n with ⟨_, eq⟩ | ⟨_, _, eq⟩ | ⟨_, _, eq⟩ | ⟨_, eq⟩ <;>
          simp only [eq] at first ⊢ <;> omega
  · refine .nothing (not_begins fun n valid first => ?_)
    unfold Nat.isValidChar at valid
    rcases lead_cases n with ⟨_, eq⟩ | ⟨_, _, eq⟩ | ⟨_, _, eq⟩ | ⟨_, eq⟩ <;>
      simp only [eq] at first <;> omega

/-! ## What a byte makes of an open sequence -/

/-- What a byte makes of a reader with an open sequence. -/
inductive Advance (o : Owed) (b : UInt8) : Reader → Prop where
  | ends {c : Char} (spelled : utf8EncodeChar c = o.taken.reverse ++ [b]) :
      Advance o b ⟨[.scalar c], none⟩
  | goesOn {k : Nat} {o' : Owed} (sound : o'.Sound k) (taken : o'.taken = b :: o.taken) :
      Advance o b ⟨[], some o'⟩
  | breaks (none_ : ¬ Begins (o.taken.reverse ++ [b])) :
      Advance o b (Reader.begin [.illFormed o.taken.reverse] b)

/-- A byte in range that is not the last one leaves the characters that go on with it. -/
theorem Owed.Sound.goesOn (sound : o.Sound (k + 1))
    (fits : o.low.toNat ≤ b.toNat ∧ b.toNat ≤ o.high.toNat) :
    (⟨k + 1, 0x80, 0xBF, o.value * 64 + (b.toNat - 0x80), b :: o.taken⟩ : Owed).Sound k := by
  have low := sound.low
  have high := sound.high
  refine ⟨rfl, List.cons_ne_nil _ _, Nat.le_refl _, Nat.le_of_ble_eq_true rfl, Nat.le_refl _,
    fun n meets => ?_, fun c begun => ?_⟩
  · simp only [Meets, upper, UInt8.reduceToNat] at meets
    have before : o.Meets (k + 1) n := by
      simp only [Meets, upper]
      omega
    have digit : 0x80 + upper n (k + 1) % 64 = b.toNat := by
      simp only [upper]
      omega
    obtain ⟨valid, spelled⟩ := sound.complete n before
    refine ⟨valid, ?_⟩
    rw [spelled, trail, digit, UInt8.ofNat_toNat, List.reverse_cons, List.append_assoc]
    rfl
  · simp only [List.reverse_cons] at begun
    obtain ⟨meets, digit⟩ := sound.next begun
    simp only [Meets, upper, UInt8.reduceToNat] at meets digit ⊢
    omega

theorem Owed.Sound.advance (sound : o.Sound k) (b : UInt8) :
    Advance o b (Reader.feed ⟨[], some o⟩ b) := by
  have low := sound.low
  have high := sound.high
  simp only [Reader.feed, Bool.and_eq_true, decide_eq_true_eq, UInt8.le_iff_toNat_le, sound.more]
  split
  · rename_i fits
    cases k with
    | zero =>
      rw [if_pos (Nat.le_refl _)]
      have meets : o.Meets 0 (o.value * 64 + (b.toNat - 0x80)) := by
        simp only [Owed.Meets, upper]
        omega
      obtain ⟨-, spelled⟩ := sound.complete _ meets
      refine .ends (spelled.trans ?_)
      have digit : 0x80 + (o.value * 64 + (b.toNat - 0x80)) % 64 = b.toNat := by omega
      simp only [trail, upper, digit, UInt8.ofNat_toNat]
    | succ k =>
      rw [if_neg (by omega)]
      exact .goesOn (sound.goesOn fits) rfl
  · rename_i unfit
    refine .breaks ?_
    rintro ⟨c, begun⟩
    refine unfit ?_
    obtain ⟨meets, digit⟩ := sound.next begun
    simp only [Owed.Meets] at meets
    omega

/-! ## The reader finds the parts -/

theorem begin_found (found : List Part) (b : UInt8) : Reader.begin found b =
    ⟨(Reader.begin [] b).found ++ found, (Reader.begin [] b).owed⟩ := by
  simp only [Reader.begin]
  repeat' split
  all_goals rfl

/-- What a reader has found before does not matter for what it finds. -/
theorem feed_found (found : List Part) (owed : Option Owed) (b : UInt8) :
    Reader.feed ⟨found, owed⟩ b =
      ⟨(Reader.feed ⟨[], owed⟩ b).found ++ found, (Reader.feed ⟨[], owed⟩ b).owed⟩ := by
  cases owed with
  | none => exact begin_found found b
  | some o =>
    simp only [Reader.feed]
    split
    · split <;> rfl
    · rw [begin_found, begin_found [_], List.append_assoc]
      rfl

theorem finish_found (found : List Part) (owed : Option Owed) (bs : Bytes) :
    (bs.foldl Reader.feed ⟨found, owed⟩).finish =
      found.reverse ++ (bs.foldl Reader.feed ⟨[], owed⟩).finish := by
  induction bs generalizing found owed with
  | nil => cases owed <;> simp [Reader.finish]
  | cons b bs ih =>
    rw [List.foldl_cons, List.foldl_cons, feed_found, ih, ih (Reader.feed ⟨[], owed⟩ b).found,
      List.reverse_append, List.append_assoc]

/-- What a reader finishes with is a cut of all it was fed. The induction is on the bytes, both for
a reader between two parts and for one in the midst of a character. -/
theorem cut_finish (bs : Bytes) : Cut bs (bs.foldl Reader.feed ⟨[], none⟩).finish ∧
    ∀ {k : Nat} {o : Owed}, o.Sound k →
      Cut (o.taken.reverse ++ bs) (bs.foldl Reader.feed ⟨[], some o⟩).finish := by
  induction bs with
  | nil => exact ⟨.nil, fun sound => .illFormed (sound.broken nofun) .nil⟩
  | cons b bs ih =>
    obtain ⟨closed, opened⟩ := ih
    have anew : Cut (b :: bs) (bs.foldl Reader.feed (Reader.begin [] b)).finish := by
      have opening := opening_begin b
      generalize Reader.begin [] b = r at opening
      cases opening with
      | @scalar c spelled =>
        rw [finish_found]
        have cut := Cut.scalar c closed
        rwa [spelled] at cut
      | nothing none_ =>
        rw [finish_found]
        exact .illFormed (broken_of_not_begins none_) closed
      | opens sound taken =>
        have cut := opened sound
        rwa [taken] at cut
    refine ⟨anew, fun {k o} sound => ?_⟩
    rw [List.foldl_cons]
    have advance := sound.advance b
    generalize Reader.feed ⟨[], some o⟩ b = r at advance
    cases advance with
    | @ends c spelled =>
      rw [finish_found]
      have cut := Cut.scalar c closed
      rwa [spelled, List.append_assoc] at cut
    | goesOn sound taken =>
      have cut := opened sound
      rwa [taken, List.reverse_cons, List.append_assoc] at cut
    | breaks none_ =>
      have longest : ∀ b', (b :: bs).head? = some b' → ¬ Begins (o.taken.reverse ++ [b']) := by
        rintro b' ⟨⟩
        exact none_
      rw [begin_found, finish_found, List.reverse_append, List.append_assoc, ← finish_found]
      exact .illFormed (sound.broken longest) anew

/-- The parts of a text are a cut of it. -/
theorem cut_parts (bs : Bytes) : Cut bs (parts bs) := (cut_finish bs).1

/-! ## The two readings -/

theorem parts_flatMap (cs : List Char) : parts (cs.flatMap utf8EncodeChar) = cs.map .scalar :=
  (cut_parts _).unique (cut_scalars cs)

theorem scalar?_map_scalar (cs : List Char) :
    ((cs.map Part.scalar).all (·.scalar?.isSome)) = true := by
  simp [Part.scalar?]

theorem map_shown_scalar (cs : List Char) : (cs.map Part.scalar).map Part.shown = cs := by
  simp [Function.comp_def, Part.shown]

/-- Parts without an ill-formed one are characters. -/
theorem exists_scalars (all : ps.all (·.scalar?.isSome) = true) :
    ∃ cs : List Char, ps = cs.map .scalar := by
  induction ps with
  | nil => exact ⟨[], rfl⟩
  | cons p ps ih =>
    rw [List.all_cons, Bool.and_eq_true] at all
    obtain ⟨cs, rfl⟩ := ih all.2
    cases p with
    | scalar c => exact ⟨c :: cs, rfl⟩
    | illFormed m => cases all.1

/-- The check of a text is exact: it passes what is the encoding of some characters, and nothing
else. -/
theorem wellFormed_iff : wellFormed bs = true ↔ WellFormed bs := by
  constructor
  · intro all
    obtain ⟨cs, eq⟩ := exists_scalars all
    refine ⟨cs, ?_⟩
    rw [(cut_parts bs).bytes, eq, List.flatMap_map]
    rfl
  · rintro ⟨cs, rfl⟩
    rw [wellFormed, parts_flatMap]
    exact scalar?_map_scalar cs

/-- The lossy reading keeps what is well-formed, and nothing else. -/
theorem encode_lossy_iff : encode (lossy bs) = bs ↔ WellFormed bs := by
  constructor
  · intro same
    exact ⟨_, same.symm.trans (encode_ofList _)⟩
  · rintro ⟨cs, rfl⟩
    rw [lossy, parts_flatMap, map_shown_scalar, encode_ofList]

/-- What is encoded is read back. -/
theorem decode?_encode (s : String) : decode? (encode s) = some s := by
  rw [decode?, encode_eq, parts_flatMap, if_pos (scalar?_map_scalar _), map_shown_scalar,
    String.ofList_toList]

end StationPool.Text.Utf8
