import StationPool.Proofs.Json.Strings
import StationPool.Proofs.Text.Digits

/-!
# Values there and back

A value reads back from its compact form (`ofText?_text`, `ofText?_asciiText`) where it is plain:
its numbers are whole and no object has a name twice.

The reader's measure falls with every value, item and member it begins, so the proof is by induction
on the measure and not on the value: each of the three readers finds what was written as long as its
measure is above the length of it (`Finds`).
-/

namespace StationPool.Json

open Reader Text.Digits

mutual

/-- Whole numbers only, and each name of an object once. -/
def Plain : Json → Prop
  | .real _ => False
  | .arr items => PlainItems items
  | .obj members => (members.map Prod.fst).Nodup ∧ PlainMembers members
  | _ => True

/-- All items are plain. -/
def PlainItems : List Json → Prop
  | [] => True
  | v :: rest => v.Plain ∧ PlainItems rest

/-- All values of members are plain. -/
def PlainMembers : List (String × Json) → Prop
  | [] => True
  | (_, v) :: rest => v.Plain ∧ PlainMembers rest

end

/-- A text or nothing has no numbers and no names, so that it is plain. -/
theorem plain_ofOption (s : Option String) : (ofOption s).Plain := by
  cases s <;> trivial

/-! ## The compact form in characters -/

mutual

/-- The characters of the compact form. -/
def chars (ascii : Bool) : Json → List Char
  | .null => ['n', 'u', 'l', 'l']
  | .bool true => ['t', 'r', 'u', 'e']
  | .bool false => ['f', 'a', 'l', 's', 'e']
  | .int n => (toString n).toList
  | .real text => text.toList
  | .str s => '"' :: quoted ascii s
  | .arr [] => ['[', ']']
  | .arr (v :: rest) => '[' :: (chars ascii v ++ (itemChars ascii rest ++ [']']))
  | .obj [] => ['\x7b', '\x7d']
  | .obj ((k, v) :: rest) =>
    '\x7b' :: '"' :: (quoted ascii k ++ ':' ::
      (chars ascii v ++ (memberChars ascii rest ++ ['\x7d'])))

/-- The characters of further items, each after a comma. -/
def itemChars (ascii : Bool) : List Json → List Char
  | [] => []
  | v :: rest => ',' :: (chars ascii v ++ itemChars ascii rest)

/-- The characters of further members, each after a comma. -/
def memberChars (ascii : Bool) : List (String × Json) → List Char
  | [] => []
  | (k, v) :: rest =>
    ',' :: '"' :: (quoted ascii k ++ ':' :: (chars ascii v ++ memberChars ascii rest))

end

mutual

theorem toList_append (ascii : Bool) (out : String) :
    ∀ j : Json, (append ascii out j).toList = out.toList ++ chars ascii j
  | .null => by simp [append, chars]
  | .bool true => by simp [append, chars]
  | .bool false => by simp [append, chars]
  | .int n => by simp [append, chars]
  | .real text => by simp [append, chars]
  | .str s => by simp [append, chars, toList_stringText]
  | .arr [] => by simp [append, chars]
  | .arr (v :: rest) => by
    simp [append, chars, toList_appendItems ascii _ rest, toList_append ascii _ v]
  | .obj [] => by simp [append, chars]
  | .obj ((k, v) :: rest) => by
    simp [append, chars, toList_appendMembers ascii _ rest, toList_append ascii _ v,
      toList_stringText]

theorem toList_appendItems (ascii : Bool) (out : String) :
    ∀ items : List Json, (appendItems ascii out items).toList = out.toList ++ itemChars ascii items
  | [] => by simp [appendItems, itemChars]
  | v :: rest => by
    simp [appendItems, itemChars, toList_appendItems ascii _ rest, toList_append ascii _ v]

theorem toList_appendMembers (ascii : Bool) (out : String) :
    ∀ members : List (String × Json),
      (appendMembers ascii out members).toList = out.toList ++ memberChars ascii members
  | [] => by simp [appendMembers, memberChars]
  | (k, v) :: rest => by
    simp [appendMembers, memberChars, toList_appendMembers ascii _ rest, toList_append ascii _ v,
      toList_stringText]

end

/-! ## Numbers -/

/-- What may follow a value. -/
inductive Ends : List Char → Prop
  | nothing : Ends []
  | comma (rest : List Char) : Ends (',' :: rest)
  | bracket (rest : List Char) : Ends (']' :: rest)
  | brace (rest : List Char) : Ends ('\x7d' :: rest)

variable {ascii : Bool} {rest : List Char} {fuel : Nat}

/-- The digits of a number are read back as far as they go, since no digit may follow a value. -/
theorem digits?_write {n : Nat} (ends : Ends rest) :
    digits? (write n ++ rest) = some (write n, rest) := by
  have other : ∀ c ∈ rest.head?, c.isDigit = false := by
    cases ends <;> rintro c ⟨⟩ <;> rfl
  have read := takeWhile_digits (fun _ => isDigit_of_mem_write (n := n)) other
  simp only [digits?, read, List.isEmpty_iff, if_neg write_ne_nil, List.drop_left]

/-- A number has no zero in front, unless it is zero. -/
theorem no_leading_zero (n : Nat) :
    (decide ((write n).length > 1) && (write n).head? == some '0') = false := by
  cases n with
  | zero => rfl
  | succ n =>
    have front := head_write_ne_zero (Nat.succ_pos n)
    rw [beq_false_of_ne front, Bool.and_false]

/-- A number is read back. -/
theorem number?_write {n : Nat} (ends : Ends rest) :
    number? (write n ++ rest) = some (.int n, rest) := by
  obtain ⟨d, more, shape, digit⟩ :=
    exists_digit (fun _ => isDigit_of_mem_write) (write_ne_nil : write n ≠ [])
  unfold number?
  split
  case h_1 sign cs taken =>
    split at taken
    case h_1 minus =>
      rw [shape] at minus
      cases minus
      cases digit
    case h_2 =>
      cases taken
      simp only [digits?_write ends, Option.bind_eq_bind, Option.bind_some, no_leading_zero]
      cases ends <;> simp [value_write]

/-- Behind a minus, where no zero is. -/
theorem number?_minus {n : Nat} (ends : Ends rest) (nonzero : n ≠ 0) :
    number? ('-' :: (write n ++ rest)) = some (.int (-n), rest) := by
  unfold number?
  simp only [digits?_write ends, Option.bind_eq_bind, Option.bind_some, no_leading_zero]
  cases ends <;> simp [value_write, nonzero]

/-! ## Values -/

/-- A character that is no space is not skipped. -/
theorem skip_cons {c : Char} (visible : isSpace c = false) : skip (c :: rest) = c :: rest := by
  rw [skip, List.dropWhile_cons_of_neg (by rw [visible]; exact Bool.false_ne_true)]

/-- What a number begins with is no space. -/
theorem isSpace_of_start {d : Char} (start : d.isDigit = true ∨ d = '-') : isSpace d = false := by
  refine Bool.eq_false_iff.mpr fun space => ?_
  simp only [isSpace, Bool.or_eq_true, beq_iff_eq] at space
  rcases space with ((rfl | rfl) | rfl) | rfl <;> exact absurd start (by decide)

/-- What begins like a number is read as one. -/
theorem value?_number {d : Char} (start : d.isDigit = true ∨ d = '-') :
    value? (fuel + 1) (d :: rest) = number? (d :: rest) := by
  rw [value?, skip_cons (isSpace_of_start start)]
  split
  case h_7 => rfl
  all_goals
    rename_i same
    obtain ⟨rfl, -⟩ := List.cons.inj same
    exact absurd start (by decide)

theorem toList_natCast (n : Nat) : (toString (Int.ofNat n)).toList = write n := Nat.toList_repr

theorem toList_negSucc (n : Nat) : (toString (Int.negSucc n)).toList = '-' :: write (n + 1) := by
  have text : toString (Int.negSucc n) = "-" ++ (n + 1).repr := rfl
  rw [text, String.toList_append, Nat.toList_repr]
  rfl

/-- A number begins with a digit or a minus. -/
theorem exists_toList_int (n : Int) :
    ∃ d more, (toString n).toList = d :: more ∧ (d.isDigit = true ∨ d = '-') := by
  cases n with
  | ofNat n =>
    obtain ⟨d, more, shape, digit⟩ :=
      exists_digit (fun _ => isDigit_of_mem_write) (write_ne_nil : write n ≠ [])
    exact ⟨d, more, by rw [toList_natCast, shape], .inl digit⟩
  | negSucc n => exact ⟨'-', write (n + 1), toList_negSucc n, .inr rfl⟩

/-- An integer is read back, whatever its sign. -/
theorem value?_int (n : Int) (ends : Ends rest) :
    value? (fuel + 1) ((toString n).toList ++ rest) = some (.int n, rest) := by
  obtain ⟨d, more, shape, start⟩ := exists_toList_int n
  rw [shape, List.cons_append, value?_number start, ← List.cons_append, ← shape]
  cases n with
  | ofNat n =>
    rw [toList_natCast]
    exact number?_write ends
  | negSucc n =>
    rw [toList_negSucc]
    exact number?_minus ends (Nat.succ_ne_zero n)

/-! ## Items and members -/

/-- A value begins with what neither is skipped nor closes an array. -/
theorem exists_chars (ascii : Bool) {j : Json} (plain : j.Plain) :
    ∃ c more, chars ascii j = c :: more ∧ isSpace c = false ∧ c ≠ ']' := by
  cases j with
  | null => exact ⟨_, _, rfl, rfl, by decide⟩
  | bool b => cases b <;> exact ⟨_, _, rfl, rfl, by decide⟩
  | int n =>
    obtain ⟨d, more, shape, start⟩ := exists_toList_int n
    refine ⟨d, more, by rw [chars, shape], isSpace_of_start start, ?_⟩
    rintro rfl
    exact absurd start (by decide)
  | real text => cases plain
  | str s => exact ⟨'"', quoted ascii s, by rw [chars], rfl, by decide⟩
  | arr items => cases items <;> exact ⟨'[', _, by rw [chars], rfl, by decide⟩
  | obj members =>
    cases members with
    | nil => exact ⟨'\x7b', _, by rw [chars], rfl, by decide⟩
    | cons m rest => exact ⟨'\x7b', _, by rw [chars], rfl, by decide⟩

/-- A name that is new comes last among the members. -/
theorem put_of_fresh {key : String} {value : Json} {kept : List (String × Json)}
    (fresh : key ∉ kept.map Prod.fst) : put key value kept = kept ++ [(key, value)] := by
  induction kept with
  | nil => rfl
  | cons m rest ih =>
    obtain ⟨k, v⟩ := m
    rw [List.map_cons, List.mem_cons, not_or] at fresh
    rw [put, if_neg (Ne.symm fresh.1), ih fresh.2, List.cons_append]

/-- Where each name stands once, no member is replaced. -/
theorem dedup_of_nodup {members : List (String × Json)} (once : (members.map Prod.fst).Nodup) :
    dedup members = members := by
  have onto (rest kept : List (String × Json)) (once : ((kept ++ rest).map Prod.fst).Nodup) :
      rest.foldl (fun kept m => put m.1 m.2 kept) kept = kept ++ rest := by
    induction rest generalizing kept with
    | nil => rw [List.foldl_nil, List.append_nil]
    | cons m rest ih =>
      obtain ⟨k, v⟩ := m
      have fresh : k ∉ kept.map Prod.fst := by
        rw [List.map_append, List.nodup_append] at once
        exact fun mem => once.2.2 k mem k List.mem_cons_self rfl
      have moved : kept ++ (k, v) :: rest = (kept ++ [(k, v)]) ++ rest := by simp
      rw [moved] at once ⊢
      rw [← ih _ once, ← put_of_fresh fresh]
      rfl
  exact onto members [] once

/-- The characters of one member. -/
def memberText (ascii : Bool) (k : String) (v : Json) : List Char :=
  '"' :: (quoted ascii k ++ ':' :: chars ascii v)

/-- An object is written as its first member and the others, each behind a comma. -/
theorem chars_obj_cons (ascii : Bool) (k : String) (v : Json) (more : List (String × Json)) :
    chars ascii (.obj ((k, v) :: more)) =
      '\x7b' :: (memberText ascii k v ++ (memberChars ascii more ++ ['\x7d'])) := by
  simp only [chars, memberText, List.cons_append, List.append_assoc]

/-- A further member is written as a comma and its text. -/
theorem memberChars_cons (ascii : Bool) (k : String) (v : Json) (more : List (String × Json)) :
    memberChars ascii ((k, v) :: more) = ',' :: (memberText ascii k v ++ memberChars ascii more) := by
  simp only [memberChars, memberText, List.cons_append, List.append_assoc]

/-- The value of a member is shorter than the member, which is what the measure of the readers asks.
-/
theorem length_chars_lt_memberText (ascii : Bool) (k : String) (v : Json) :
    (chars ascii v).length < (memberText ascii k v).length := by
  simp only [memberText, List.length_cons, List.length_append]
  omega

/-- What the reader of items does behind an item. -/
def behindItem (fuel : Nat) (found : List Json) : List Char → Option (Json × List Char)
  | ',' :: r => Reader.items? fuel found r
  | ']' :: r => some (.arr found.reverse, r)
  | _ => none

/-- An item is read, and then what stands behind it decides. -/
theorem items?_item {v : Json} {found : List Json}
    (read : value? fuel (chars ascii v ++ rest) = some (v, rest)) :
    Reader.items? (fuel + 1) found (chars ascii v ++ rest) =
      behindItem fuel (v :: found) (skip rest) := by
  rw [Reader.items?, read]
  rfl

/-- What the reader of members does behind a member. -/
def behindMember (fuel : Nat) (found : List (String × Json)) :
    List Char → Option (Json × List Char)
  | ',' :: r => members? fuel found r
  | '\x7d' :: r => some (.obj (dedup found.reverse), r)
  | _ => none

/-- A member is read, and then what stands behind it decides. -/
theorem members?_member {k : String} {v : Json} {found : List (String × Json)}
    (read : value? fuel (chars ascii v ++ rest) = some (v, rest)) :
    members? (fuel + 1) found (memberText ascii k v ++ rest) =
      behindMember fuel ((k, v) :: found) (skip rest) := by
  simp only [memberText, List.cons_append, List.append_assoc, members?, skip_cons (c := '"') rfl,
    string?_quoted, Option.bind_eq_bind, Option.bind_some, skip_cons (c := ':') rfl, read]
  rfl

/-! ## The three readers -/

/-- What each reader finds of what was written, with a measure above the length of it. -/
structure Finds (ascii : Bool) (fuel : Nat) : Prop where
  value : ∀ (j : Json) (rest : List Char), j.Plain → (chars ascii j).length < fuel → Ends rest →
    value? fuel (chars ascii j ++ rest) = some (j, rest)
  items : ∀ (v : Json) (more found : List Json) (rest : List Char), v.Plain → PlainItems more →
    (chars ascii v).length + (itemChars ascii more).length + 1 < fuel →
    Reader.items? fuel found (chars ascii v ++ (itemChars ascii more ++ ']' :: rest)) =
      some (.arr (found.reverse ++ v :: more), rest)
  members : ∀ (k : String) (v : Json) (more found : List (String × Json)) (rest : List Char),
    v.Plain → PlainMembers more →
    (memberText ascii k v).length + (memberChars ascii more).length + 1 < fuel →
    members? fuel found (memberText ascii k v ++ (memberChars ascii more ++ '\x7d' :: rest)) =
      some (.obj (dedup (found.reverse ++ (k, v) :: more)), rest)

namespace Finds

/-- Without fuel nothing is asked, as no text is shorter than nothing. -/
theorem zero (ascii : Bool) : Finds ascii 0 where
  value _ _ _ short := absurd short (Nat.not_lt_zero _)
  items _ _ _ _ _ _ short := absurd short (Nat.not_lt_zero _)
  members _ _ _ _ _ _ _ short := absurd short (Nat.not_lt_zero _)

/-- A list is read back if its items are. -/
theorem value_arr (h : Finds ascii fuel) (items : List Json) (plain : (Json.arr items).Plain)
    (short : (chars ascii (.arr items)).length < fuel + 1) :
    value? (fuel + 1) (chars ascii (.arr items) ++ rest) = some (.arr items, rest) := by
  cases items with
  | nil => rfl
  | cons v more =>
    simp only [chars, List.length_cons, List.length_append, List.length_nil] at short
    have read := h.items v more [] rest plain.1 plain.2 (by omega)
    obtain ⟨c, tail, shape, visible, other⟩ := exists_chars ascii plain.1
    simp only [chars, List.cons_append, List.append_assoc, List.nil_append, value?,
      skip_cons (c := '[') rfl]
    rw [shape, List.cons_append, skip_cons visible, ← List.cons_append, ← shape]
    split
    case h_1 closed =>
      rw [shape] at closed
      exact absurd (List.cons.inj closed).1 other
    case h_2 => exact read

/-- An object is read back if its members are. -/
theorem value_obj (h : Finds ascii fuel) (members : List (String × Json))
    (plain : (Json.obj members).Plain)
    (short : (chars ascii (.obj members)).length < fuel + 1) :
    value? (fuel + 1) (chars ascii (.obj members) ++ rest) = some (.obj members, rest) := by
  cases members with
  | nil => rfl
  | cons m more =>
    obtain ⟨k, v⟩ := m
    simp only [chars_obj_cons, List.length_cons, List.length_append, List.length_nil] at short
    have read := h.members k v more [] rest plain.2.1 plain.2.2 (by omega)
    rw [List.reverse_nil, List.nil_append, dedup_of_nodup plain.1] at read
    simp only [chars_obj_cons, List.cons_append, List.append_assoc, List.nil_append, value?,
      skip_cons (c := '\x7b') rfl]
    -- the name that comes first begins with a quote, so the object is not empty
    rw [memberText, List.cons_append, skip_cons (c := '"') rfl, ← List.cons_append, ← memberText]
    exact read

/-- A value is read back with one unit of fuel more than its parts need. -/
theorem value_succ (h : Finds ascii fuel) (j : Json) (rest : List Char) (plain : j.Plain)
    (short : (chars ascii j).length < fuel + 1) (ends : Ends rest) :
    value? (fuel + 1) (chars ascii j ++ rest) = some (j, rest) := by
  cases j with
  | null => rfl
  | bool b => cases b <;> rfl
  | int n =>
    rw [chars]
    exact value?_int n ends
  | real text => cases plain
  | str s =>
    rw [chars, List.cons_append, value?, skip_cons rfl]
    simp only [string?_quoted, Option.map_some]
  | arr items => exact h.value_arr items plain short
  | obj members => exact h.value_obj members plain short

/-- Items are read back one after the other, up to the bracket. -/
theorem items_succ (h : Finds ascii fuel) (v : Json) (more found : List Json) (rest : List Char)
    (plain : v.Plain) (plains : PlainItems more)
    (short : (chars ascii v).length + (itemChars ascii more).length + 1 < fuel + 1) :
    Reader.items? (fuel + 1) found (chars ascii v ++ (itemChars ascii more ++ ']' :: rest)) =
      some (.arr (found.reverse ++ v :: more), rest) := by
  cases more with
  | nil =>
    have read := h.value v (']' :: rest) plain (by omega) (.bracket rest)
    rw [itemChars, List.nil_append, items?_item read, skip_cons rfl, ← List.reverse_cons]
    rfl
  | cons w more =>
    rw [itemChars, List.length_cons, List.length_append] at short
    have next := h.items w more (v :: found) rest plains.1 plains.2 (by omega)
    rw [List.reverse_cons, List.append_assoc, List.singleton_append] at next
    rw [itemChars, List.cons_append, List.append_assoc,
      items?_item (h.value v _ plain (by omega) (.comma _)), skip_cons rfl]
    exact next

/-- Members are read back one after the other, up to the brace. Names that come twice are put
together there, and plain objects have none. -/
theorem members_succ (h : Finds ascii fuel) (k : String) (v : Json)
    (more found : List (String × Json)) (rest : List Char) (plain : v.Plain)
    (plains : PlainMembers more)
    (short : (memberText ascii k v).length + (memberChars ascii more).length + 1 < fuel + 1) :
    members? (fuel + 1) found (memberText ascii k v ++ (memberChars ascii more ++ '\x7d' :: rest)) =
      some (.obj (dedup (found.reverse ++ (k, v) :: more)), rest) := by
  have value := length_chars_lt_memberText ascii k v
  cases more with
  | nil =>
    have read := h.value v ('\x7d' :: rest) plain (by omega) (.brace rest)
    rw [memberChars, List.nil_append, members?_member read, skip_cons rfl, ← List.reverse_cons]
    rfl
  | cons m more =>
    obtain ⟨l, w⟩ := m
    rw [memberChars_cons, List.length_cons, List.length_append] at short
    have next := h.members l w more ((k, v) :: found) rest plains.1 plains.2 (by omega)
    rw [List.reverse_cons, List.append_assoc, List.singleton_append] at next
    rw [memberChars_cons, List.cons_append, List.append_assoc,
      members?_member (h.value v _ plain (by omega) (.comma _)), skip_cons rfl]
    exact next

end Finds

/-- Every fuel above the length of a text suffices to read it back. The induction is on the fuel,
over the three readers at once. -/
theorem finds (ascii : Bool) (fuel : Nat) : Finds ascii fuel := by
  induction fuel with
  | zero => exact .zero ascii
  | succ fuel ih => exact ⟨ih.value_succ, ih.items_succ, ih.members_succ⟩

/-! ## Texts -/

/-- The compact form of a plain value is read back, with or without escapes for what is not ASCII.
-/
theorem ofText?_append (ascii : Bool) {j : Json} (plain : j.Plain) :
    ofText? (append ascii "" j) = some j := by
  have read := (finds ascii _).value j [] plain (Nat.lt_succ_self _) .nothing
  rw [List.append_nil] at read
  rw [ofText?, toList_append]
  simp only [String.toList_empty, List.nil_append, read, Option.bind_eq_bind, Option.bind_some]
  rfl

/-- A plain value reads back from its compact form. -/
theorem ofText?_text {j : Json} (plain : j.Plain) : ofText? j.text = some j :=
  ofText?_append false plain

/-- A plain value reads back from its compact form in ASCII. -/
theorem ofText?_asciiText {j : Json} (plain : j.Plain) : ofText? j.asciiText = some j :=
  ofText?_append true plain

end StationPool.Json
