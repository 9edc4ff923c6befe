/-!
# UTF-8

Byte strings read as UTF-8, part by part. A part is either one scalar value or a maximal ill-formed
piece: a byte that starts nothing, or the longest start of a sequence that the next byte breaks off.
`parts` cuts every byte string into parts, and the two readings of the library are two views of
that one list:

- `decode?` accepts a byte string without ill-formed parts;
- `lossy` puts U+FFFD in the place of each ill-formed part.

The reader keeps what is still owed to a sequence (`Owed`) and takes one byte at a time, so it is a
fold over the bytes. The bounds of the second byte keep out overlong forms, surrogates and all
above U+10FFFF; later bytes are 80 to BF.
-/

namespace StationPool

/-- A payload, a file, what goes over a socket. -/
abbrev Bytes := List UInt8

namespace Text.Utf8

/-- A piece of a byte string, as a reader of UTF-8 sees it. -/
inductive Part where
  /-- One scalar value. -/
  | scalar (c : Char)
  /-- A maximal piece that belongs to no well-formed sequence. -/
  | illFormed (bytes : Bytes)
  deriving DecidableEq, Repr

/-- A sequence that has begun and wants `more` continuation bytes, the next one from `low` to
`high`. -/
structure Owed where
  more : Nat
  low : UInt8
  high : UInt8
  /-- The scalar value so far. -/
  value : Nat
  /-- The bytes taken so far, the last one first. -/
  taken : Bytes
  deriving DecidableEq, Repr

/-- The reader between two bytes: the parts found so far, the last one first, and the sequence that
has begun. -/
structure Reader where
  found : List Part := []
  owed : Option Owed := none
  deriving DecidableEq, Repr

/-- What a byte begins, when no sequence is open. -/
def Reader.begin (found : List Part) (b : UInt8) : Reader :=
  let open? (more : Nat) (low high : UInt8) (value : Nat) : Reader :=
    ⟨found, some ⟨more, low, high, value, [b]⟩⟩
  if b < 0x80 then ⟨.scalar (Char.ofNat b.toNat) :: found, none⟩
  else if b < 0xC2 then ⟨.illFormed [b] :: found, none⟩
  else if b < 0xE0 then open? 1 0x80 0xBF (b.toNat - 0xC0)
  else if b == 0xE0 then open? 2 0xA0 0xBF 0
  else if b == 0xED then open? 2 0x80 0x9F 0xD
  else if b < 0xF0 then open? 2 0x80 0xBF (b.toNat - 0xE0)
  else if b == 0xF0 then open? 3 0x90 0xBF 0
  else if b < 0xF4 then open? 3 0x80 0xBF (b.toNat - 0xF0)
  else if b == 0xF4 then open? 3 0x80 0x8F 4
  else ⟨.illFormed [b] :: found, none⟩

/-- Takes one byte: it continues the open sequence, or that sequence ends ill-formed and the byte
begins anew. -/
def Reader.feed (r : Reader) (b : UInt8) : Reader :=
  match r.owed with
  | none => Reader.begin r.found b
  | some o =>
    if o.low ≤ b && b ≤ o.high then
      let value := o.value * 64 + (b.toNat - 0x80)
      if o.more ≤ 1 then ⟨.scalar (Char.ofNat value) :: r.found, none⟩
      else ⟨r.found, some ⟨o.more - 1, 0x80, 0xBF, value, b :: o.taken⟩⟩
    else Reader.begin (.illFormed o.taken.reverse :: r.found) b

/-- The parts when no byte follows: an open sequence ends ill-formed. -/
def Reader.finish (r : Reader) : List Part :=
  match r.owed with
  | none => r.found.reverse
  | some o => (.illFormed o.taken.reverse :: r.found).reverse

/-- The parts of a byte string, in order. -/
def parts (bs : Bytes) : List Part := (bs.foldl Reader.feed {}).finish

/-- The character of a part that has one. -/
def Part.scalar? : Part → Option Char
  | .scalar c => some c
  | .illFormed _ => none

/-- The character that stands for a part. -/
def Part.shown : Part → Char
  | .scalar c => c
  | .illFormed _ => '\uFFFD'

/-- The text of a well-formed byte string. -/
def decode? (bs : Bytes) : Option String :=
  let ps := parts bs
  if ps.all (·.scalar?.isSome) then some (String.ofList (ps.map Part.shown)) else none

/-- Whether a byte string is well-formed UTF-8. -/
def wellFormed (bs : Bytes) : Bool := (parts bs).all (·.scalar?.isSome)

/-- The text of a byte string, each ill-formed part shown as U+FFFD. -/
def lossy (bs : Bytes) : String := String.ofList ((parts bs).map Part.shown)

/-- The bytes of a text. -/
def encode (s : String) : Bytes := s.toUTF8.toList

end Text.Utf8

end StationPool
