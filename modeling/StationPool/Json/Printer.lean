import StationPool.Json.Basic

/-!
# JSON text, written

The compact form: no blanks, members in their order, and in strings only what has to be escaped:
the quote, the backslash and the characters below the space. `asciiText` writes characters beyond
ASCII as escapes too, as surrogate pairs above U+FFFF.
-/

namespace StationPool.Json

/-- Four hexadecimal digits behind `\u`. -/
def unicodeEscape (n : Nat) : List Char :=
  let digits := Nat.toDigits 16 n
  ['\\', 'u'] ++ List.replicate (4 - digits.length) '0' ++ digits

/-- One character of a string. -/
def escapeChar (ascii : Bool) (c : Char) : List Char :=
  match c with
  | '"' => ['\\', '"']
  | '\\' => ['\\', '\\']
  | '\x08' => ['\\', 'b']
  | '\x0c' => ['\\', 'f']
  | '\n' => ['\\', 'n']
  | '\r' => ['\\', 'r']
  | '\t' => ['\\', 't']
  | c =>
    let n := c.toNat
    if n < 0x20 then unicodeEscape n
    else if !ascii || n < 0x7F then [c]
    else if n < 0x10000 then unicodeEscape n
    else
      let m := n - 0x10000
      unicodeEscape (0xD800 + m / 1024) ++ unicodeEscape (0xDC00 + m % 1024)

/-- A string in quotes. -/
def stringText (ascii : Bool) (s : String) : String :=
  String.ofList ('"' :: s.toList.flatMap (escapeChar ascii) ++ ['"'])

mutual

/-- A text followed by the compact form of a value. -/
def append (ascii : Bool) (out : String) : Json → String
  | .null => out ++ "null"
  | .bool true => out ++ "true"
  | .bool false => out ++ "false"
  | .int n => out ++ toString n
  | .real text => out ++ text
  | .str s => out ++ stringText ascii s
  | .arr [] => out ++ "[]"
  | .arr (v :: rest) => appendItems ascii (append ascii (out ++ "[") v) rest ++ "]"
  | .obj [] => out ++ "\x7b\x7d"
  | .obj ((k, v) :: rest) =>
    appendMembers ascii (append ascii (out ++ "\x7b" ++ stringText ascii k ++ ":") v) rest ++ "\x7d"

/-- Further items, each after a comma. -/
def appendItems (ascii : Bool) (out : String) : List Json → String
  | [] => out
  | v :: rest => appendItems ascii (append ascii (out ++ ",") v) rest

/-- Further members, each after a comma. -/
def appendMembers (ascii : Bool) (out : String) : List (String × Json) → String
  | [] => out
  | (k, v) :: rest =>
    appendMembers ascii (append ascii (out ++ "," ++ stringText ascii k ++ ":") v) rest

end

/-- The compact form. -/
def text (j : Json) : String := append false "" j

/-- The compact form in ASCII. -/
def asciiText (j : Json) : String := append true "" j

end StationPool.Json
