import StationPool.Toml.Scalar

/-!
# TOML documents

A document line by line: comments, `key = value`, `[table]` and `[[array of tables]]`. The builder
(`Builder`) holds the finished part of the document and the table that is being filled; a header
puts that table in its place and opens the next one.

A key may be set once. Dotted keys may add to a table that dotted keys began, a header may name a
table that so far was only named as a parent, and a header in double brackets adds to an array that
such headers began; every other second naming is refused. Arrays and inline tables may be nested 79
deep, and a key may have 79 parts.
-/

namespace StationPool.Toml

open Scalar

/-- Entries of a table, in the order they were added. -/
abbrev Entries := List (String × Toml)

/-- The bound on nesting and on the parts of a key. -/
def depthLimit : Nat := 80

/-! ## Keys -/

/-- The characters of a bare key. -/
def isBareKeyChar (c : Char) : Bool := c.isAlphanum || c == '-' || c == '_'

/-- One part of a key. -/
def keyPart? (cs : List Char) : Option (String × List Char) :=
  match cs with
  | '"' :: _ | '\'' :: _ => quoted? cs
  | _ =>
    let name := cs.takeWhile isBareKeyChar
    if name.isEmpty then none else some (String.ofList name, cs.drop name.length)

/-- The parts of a key with dots between them. -/
def key? : Nat → List Char → Option (List String × List Char)
  | 0, _ => none
  | fuel + 1, cs => do
    let (part, r) ← keyPart? (skip cs)
    match skip r with
    | '.' :: r =>
      let (parts, r) ← key? fuel r
      some (part :: parts, r)
    | r => some ([part], r)

/-- A key of less parts than the limit. -/
def boundedKey? (cs : List Char) : Option (List String × List Char) := key? (depthLimit - 1) cs

/-! ## Tables under construction -/

/-- Adds one entry at the end of a path of dotted keys, making the tables on the way. The way goes
through tables that no header named; the entry goes into the current table or into one that dotted
keys began. `here` tells how the table at hand came about, and is `dotted` for the current one. -/
def addDotted (key : String) (value : Toml) : List String → Opening → Entries → Option Entries
  | [], here, entries =>
    if here ≠ .dotted ∨ (Json.lookup key entries).isSome then none
    else some (entries ++ [(key, value)])
  | part :: path, _, entries =>
    match Json.lookup part entries with
    | none => do
      let inner ← addDotted key value path .dotted []
      some (entries ++ [(part, .table .dotted inner)])
    | some (.table .dotted inner) => do
      let inner ← addDotted key value path .dotted inner
      some (Json.put part (.table .dotted inner) entries)
    | some (.table .implied inner) => do
      let inner ← addDotted key value path .implied inner
      some (Json.put part (.table .implied inner) entries)
    | some (.tables items) =>
      match items.getLast? with
      | none => none
      | some last => do
        let last ← addDotted key value path .header last
        some (Json.put part (.tables (items.dropLast ++ [last])) entries)
    | some _ => none

/-- Changes the table that a header's path leads to, making the tables on the way. The way goes
through tables that are not in braces and through the last table of an array of tables. -/
def within (change : Entries → Option Entries) : List String → Entries → Option Entries
  | [], entries => change entries
  | part :: path, entries =>
    match Json.lookup part entries with
    | none => do
      let inner ← within change path []
      some (entries ++ [(part, .table .implied inner)])
    | some (.table .braces _) => none
    | some (.table opening inner) => do
      let inner ← within change path inner
      some (Json.put part (.table opening inner) entries)
    | some (.tables items) =>
      match items.getLast? with
      | none => none
      | some last => do
        let last ← within change path last
        some (Json.put part (.tables (items.dropLast ++ [last])) entries)
    | some _ => none

/-- The entries without one key. -/
def erase (key : String) (entries : Entries) : Entries := entries.filter (·.1 != key)

/-- The table that is being filled. -/
inductive Open where
  | root
  | table (path : List String) (key : String)
  | tables (path : List String) (key : String)

/-- A document under construction. -/
structure Builder where
  /-- The finished part. -/
  finished : Entries := []
  /-- Where the current table belongs. -/
  place : Open := .root
  /-- The current table. -/
  current : Entries := []

namespace Builder

/-- Sets a key of the current table. -/
def set (b : Builder) (path : List String) (key : String) (value : Toml) : Option Builder :=
  (addDotted key value path .dotted b.current).map fun entries => { b with current := entries }

/-- The document with the current table in its place. -/
def close (b : Builder) : Option Entries :=
  match b.place with
  | .root => some b.current
  | .table path key =>
    within (fun es => some (Json.put key (.table .header b.current) es)) path b.finished
  | .tables path key =>
    within (fun es =>
      match Json.lookup key es with
      | none => some (Json.put key (.tables [b.current]) es)
      | some (.tables items) => some (Json.put key (.tables (items ++ [b.current])) es)
      | some _ => none) path b.finished

/-- The table that a header finds under its key: nothing, or one that was only named as a parent. -/
def reopened? (key : String) (entries : Entries) : Option Entries :=
  match Json.lookup key entries with
  | none => some []
  | some (.table .implied inner) => some inner
  | some _ => none

/-- The table at the end of a header's path, as it stands. -/
def follow? : List String → Entries → Option Entries
  | [], entries => some entries
  | part :: path, entries =>
    match Json.lookup part entries with
    | none => some []
    | some (.table .braces _) => none
    | some (.table _ inner) => follow? path inner
    | some (.tables items) => items.getLast?.bind (follow? path)
    | some _ => none

/-- A header in single brackets. -/
def openTable (b : Builder) (path : List String) (key : String) : Option Builder := do
  let finished ← b.close
  let parent ← follow? path finished
  let inner ← reopened? key parent
  let finished ← within (fun es => some (erase key es)) path finished
  some ⟨finished, .table path key, inner⟩

/-- A header in double brackets. -/
def openTables (b : Builder) (path : List String) (key : String) : Option Builder := do
  let finished ← b.close
  let parent ← follow? path finished
  match Json.lookup key parent with
  | none | some (.tables _) =>
    let finished ← within some path finished
    some ⟨finished, .tables path key, []⟩
  | some _ => none

end Builder

/-! ## Values -/

/-- The text after blanks, line ends and comments. -/
def skipAll : Nat → List Char → List Char
  | 0, cs => cs
  | fuel + 1, cs =>
    match skipLines cs with
    | '#' :: r =>
      let r := r.dropWhile isCommentChar
      match newline? r with
      | some r => skipAll fuel r
      | none => '#' :: r
    | r => r

/-- A key's parts before the last one, and the last one. -/
def splitKey (parts : List String) : List String × String :=
  (parts.dropLast, parts.getLast?.getD "")

mutual

/-- A value. `depth` counts the arrays and inline tables around it. -/
def value? : Nat → Nat → List Char → Option (Toml × List Char)
  | 0, _, _ => none
  | fuel + 1, depth, cs =>
    match cs with
    | [] => none
    | c :: r =>
      if c == '"' || c == '\'' then (string? cs).map fun (s, r) => (.str s, r)
      else if c == '[' then
        if depth + 1 < depthLimit then items? fuel (depth + 1) [] r else none
      else if c == '\x7b' then
        if depth + 1 < depthLimit then
          match skip r with
          | '\x7d' :: r => some (.table .braces [], r)
          | r => pairs? fuel (depth + 1) [] r
        else none
      else if c == '+' || c == '-' || c.isDigit || c == 'i' || c == 'n' then numeral? cs
      else bool? cs

/-- The items of an array up to its end; those found so far are reversed. -/
def items? : Nat → Nat → List Toml → List Char → Option (Toml × List Char)
  | 0, _, _, _ => none
  | fuel + 1, depth, found, cs =>
    match skipAll cs.length cs with
    | ']' :: r => some (.arr found.reverse, r)
    | r => do
      let (v, r) ← value? fuel depth r
      match skipAll r.length r with
      | ',' :: r => items? fuel depth (v :: found) r
      | ']' :: r => some (.arr (v :: found).reverse, r)
      | _ => none

/-- The pairs of an inline table up to its end. -/
def pairs? : Nat → Nat → Entries → List Char → Option (Toml × List Char)
  | 0, _, _, _ => none
  | fuel + 1, depth, found, cs => do
    let (parts, r) ← boundedKey? cs
    let r ← mark? '=' r
    let (v, r) ← value? fuel depth (skip r)
    let (path, key) := splitKey parts
    let found ← addDotted key v path .dotted found
    match skip r with
    | ',' :: r => pairs? fuel depth found r
    | '\x7d' :: r => some (.table .braces found, r)
    | _ => none

end

/-! ## Lines -/

/-- The end of a line after blanks and a comment, or the end of the text. -/
def lineEnd? (cs : List Char) : Option (List Char) :=
  match skipComment (skip cs) with
  | [] => some []
  | r => newline? r

/-- One line of a document, the blanks before it skipped. -/
def line? (b : Builder) (cs : List Char) : Option (Builder × List Char) :=
  match cs with
  | '#' :: _ => (lineEnd? cs).map (b, ·)
  | '\n' :: _ | '\r' :: _ => (newline? cs).map (b, ·)
  | '[' :: '[' :: r => do
    let (parts, r) ← boundedKey? r
    let r ← mark? ']' r
    let r ← mark? ']' r
    let r ← lineEnd? r
    let (path, key) := splitKey parts
    some (← b.openTables path key, r)
  | '[' :: r => do
    let (parts, r) ← boundedKey? r
    let r ← mark? ']' r
    let r ← lineEnd? r
    let (path, key) := splitKey parts
    some (← b.openTable path key, r)
  | _ => do
    let (parts, r) ← boundedKey? cs
    let r ← mark? '=' r
    let r := skip r
    let (v, r) ← value? (2 * r.length + 2) 0 r
    let r ← lineEnd? r
    let (path, key) := splitKey parts
    some (← b.set path key v, r)

/-- The lines of a document to its end. -/
def lines? : Nat → Builder → List Char → Option Builder
  | 0, _, _ => none
  | fuel + 1, b, cs =>
    match skip cs with
    | [] => some b
    | r => (line? b r).bind fun (b, r) => lines? fuel b r

/-- The root table of a document. A byte order mark at its start is skipped. -/
def parse? (text : String) : Option Toml := do
  let cs := text.toList
  let cs := if cs.head? == some '\uFEFF' then cs.drop 1 else cs
  let b ← lines? (cs.length + 1) {} cs
  some (.table .header (← b.close))

end StationPool.Toml
