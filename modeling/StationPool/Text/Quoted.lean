import StationPool.Text.Unprintable

/-!
# Quoted text

A text in double quotes, as messages show it: the quote, the backslash and the common controls
behind a backslash, characters without a form of their own as `\u{…}` in lower-case hexadecimal,
all else as it is. A single quote stays.
-/

namespace StationPool.Text.Quoted

/-- The hexadecimal digits of a code point, lower-case and without leading zeros. -/
def hex (n : Nat) : List Char := Nat.toDigits 16 n

/-- One character between the quotes. -/
def escape (c : Char) : List Char :=
  match c with
  | '"' => ['\\', '"']
  | '\\' => ['\\', '\\']
  | '\n' => ['\\', 'n']
  | '\t' => ['\\', 't']
  | '\r' => ['\\', 'r']
  | '\x00' => ['\\', '0']
  | c => if Unprintable.has c then ['\\', 'u', '\x7b'] ++ hex c.toNat ++ ['\x7d'] else [c]

/-- The text in double quotes. -/
def quote (s : String) : String :=
  String.ofList ('"' :: s.toList.flatMap escape ++ ['"'])

end StationPool.Text.Quoted
