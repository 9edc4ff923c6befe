import StationPool.Error.WebSocket
import StationPool.Text.Digits

/-!
# URIs

The URIs that an endpoint may be given as: an optional scheme, an authority, a path and a query;
a fragment is read and dropped. A text without a scheme is a bare path, an asterisk, or a bare
authority.

Reading checks characters, not meaning: which scheme it is and whether the port is a number is left
to those who ask (`port?`). Characters beyond ASCII may stand in path and query only.
-/

namespace StationPool

/-- A URI in its parts. -/
structure Uri where
  scheme : Option String
  authority : Option String
  /-- The path as written, perhaps empty. -/
  rawPath : String
  query : Option String
  deriving DecidableEq, Repr

namespace Uri

/-! ## Characters -/

/-- The characters of a scheme, the colon after it aside. -/
def isSchemeChar (c : Char) : Bool := c.isAlphanum || c == '+' || c == '-' || c == '.' || c == '~'

/-- The characters an authority may hold without special meaning. -/
def isPlainAuthorityChar (c : Char) : Bool :=
  c.isAlphanum
    || ['!', '$', '&', '\'', '(', ')', '*', '+', ',', '-', '.', ';', '=', '_', '~'].contains c

/-- The characters that end an authority. -/
def endsAuthority (c : Char) : Bool := c == '/' || c == '?' || c == '#'

/-- The characters of a path. -/
def isPathChar (c : Char) : Bool :=
  let n := c.toNat
  n == 0x21 || (0x24 ≤ n && n ≤ 0x3B) || n == 0x3D || (0x40 ≤ n && n ≤ 0x5F)
    || (0x61 ≤ n && n ≤ 0x7A) || n == 0x7C || 0x7E ≤ n || c == '"' || c == '\x7b' || c == '\x7d'

/-- The characters of a query. -/
def isQueryChar (c : Char) : Bool :=
  let n := c.toNat
  n == 0x21 || (0x24 ≤ n && n ≤ 0x3B) || n == 0x3D || 0x3F ≤ n

/-! ## Scheme -/

/-- The longest scheme. -/
def maxSchemeLength : Nat := 64

/-- The scheme in front of `://`, as it is kept, and what follows. The two schemes of HTTP are kept
in lower case. A text of less than four characters has none. -/
def splitScheme? (cs : List Char) : Except UriError (Option (String × List Char)) :=
  let lower := (cs.take 8).map Char.toLower
  if lower.take 7 = "http://".toList then .ok (some ("http", cs.drop 7))
  else if lower = "https://".toList then .ok (some ("https", cs.drop 8))
  else if cs.length ≤ 3 then .ok none
  else
    let name := cs.takeWhile isSchemeChar
    match cs.drop name.length with
    | ':' :: '/' :: '/' :: rest =>
      if name.length > maxSchemeLength then .error .schemeTooLong
      else .ok (some (String.ofList name, rest))
    | _ => .ok none

/-! ## Authority -/

/-- What the reader of an authority remembers. -/
structure AuthorityScan where
  /-- Colons since the last `@` or `]`. -/
  colons : Nat := 0
  opened : Bool := false
  closed : Bool := false
  /-- Whether a percent sign stands after the last `@` or `]`. -/
  percent : Bool := false
  /-- Whether the last character was an `@`. -/
  afterAt : Bool := false

/-- The most colons without an `@` or `]` between them. -/
def maxColons : Nat := 8

/-- Takes one character of an authority. -/
def AuthorityScan.take (s : AuthorityScan) (c : Char) : Except UriError AuthorityScan :=
  let next := { s with afterAt := false }
  if c == ':' then
    if maxColons ≤ s.colons then .error .invalidAuthority
    else .ok { next with colons := s.colons + 1 }
  else if c == '[' then
    if s.percent || s.opened then .error .invalidAuthority else .ok { next with opened := true }
  else if c == ']' then
    if !s.opened || s.closed then .error .invalidAuthority
    else .ok { next with closed := true, colons := 0, percent := false }
  else if c == '@' then .ok { s with colons := 0, percent := false, afterAt := true }
  else if c == '%' then .ok { next with percent := true }
  else if isPlainAuthorityChar c then .ok next
  else .error .invalidCharacter

/-- What must hold at the end of an authority: brackets in pairs, one colon at most after the host,
something after an `@`, and no percent sign outside the user's part. -/
def AuthorityScan.isComplete (s : AuthorityScan) : Bool :=
  s.opened == s.closed && s.colons ≤ 1 && !s.afterAt && !s.percent

/-- The authority at the start of a text, and what follows. The empty text has none. -/
def splitAuthority (cs : List Char) : Except UriError (String × List Char) := do
  if cs.isEmpty then throw .empty
  let name := cs.takeWhile (!endsAuthority ·)
  let scan ← name.foldlM AuthorityScan.take {}
  if scan.isComplete then return (String.ofList name, cs.drop name.length)
  else throw .invalidAuthority

/-! ## Path and query -/

/-- The path and the query; a fragment is dropped. -/
def pathAndQuery (cs : List Char) : Except UriError (String × Option String) :=
  let path := cs.takeWhile (fun c => c != '?' && c != '#')
  if !path.all isPathChar then .error .invalidCharacter
  else match cs.drop path.length with
    | '?' :: rest =>
      let query := rest.takeWhile (· != '#')
      if query.all isQueryChar then .ok (String.ofList path, some (String.ofList query))
      else .error .invalidCharacter
    | _ => .ok (String.ofList path, none)

/-! ## The whole -/

/-- The longest URI, in bytes. -/
def maxLength : Nat := 65534

/-- A bare authority, which has to be the whole text. -/
def ofBareAuthority (cs : List Char) (ifMore : UriError) : Except UriError Uri := do
  let (name, rest) ← splitAuthority cs
  if rest.isEmpty then return ⟨none, some name, "", none⟩ else throw ifMore

/-- The URI that a text writes. -/
def ofText (s : String) : Except UriError Uri :=
  if s.utf8ByteSize > maxLength then .error .tooLong
  else match s.toList with
    | [] => .error .empty
    | ['/'] => .ok ⟨none, none, "/", none⟩
    | ['*'] => .ok ⟨none, none, "*", none⟩
    | '/' :: rest => do
      let (path, query) ← pathAndQuery ('/' :: rest)
      return ⟨none, none, path, query⟩
    | [c] => ofBareAuthority [c] .invalidCharacter
    | cs => do
      match ← splitScheme? cs with
      | none => ofBareAuthority cs .invalidFormat
      | some (scheme, rest) =>
        let (name, rest) ← splitAuthority rest
        if name.isEmpty then throw .invalidFormat
        let (path, query) ← pathAndQuery rest
        return ⟨some scheme, some name, path, query⟩

/-! ## Views -/

/-- The path that is asked for: an empty one is `/`, unless the URI is an authority alone. -/
def path (u : Uri) : String :=
  if u.rawPath.isEmpty && (u.scheme.isSome || u.query.isSome) then "/" else u.rawPath

/-- The part of an authority after the last `@`. -/
def hostAndPort (authority : String) : List Char :=
  (authority.toList.reverse.takeWhile (· != '@')).reverse

/-- The host: an address in brackets with them, else what stands before the first colon. -/
def host? (u : Uri) : Option String :=
  u.authority.map fun a =>
    match hostAndPort a with
    | '[' :: rest => String.ofList ('[' :: rest.takeWhile (· != ']') ++ [']'])
    | cs => String.ofList (cs.takeWhile (· != ':'))

/-- The port: the digits after the last colon of the authority, if they name one. -/
def port? (u : Uri) : Option Nat := do
  let cs := (← u.authority).toList
  if !cs.contains ':' then none
  let text := (cs.reverse.takeWhile (· != ':')).reverse
  let digits := match text with
    | '+' :: rest => rest
    | rest => rest
  if digits.isEmpty || !digits.all Char.isDigit then none
  else
    let n := Text.Digits.value digits
    if n < 65536 then some n else none

/-- The host and port as a request names them: the authority after its first `@`. -/
def hostHeader? (u : Uri) : Option String :=
  u.authority.map fun a =>
    match a.toList.dropWhile (· != '@') with
    | _ :: rest => String.ofList rest
    | [] => a

/-- The path with the query: what a request asks for. -/
def target (u : Uri) : String :=
  u.path ++ match u.query with
    | none => ""
    | some q => "?" ++ q

end Uri

end StationPool
