import Callpoint.Text.Utf8

/-!
# Request targets

A target is a path with an optional query, an authority alone, an asterisk, or an absolute form with
scheme, authority and path.  A fragment is dropped.
-/

namespace Callpoint.Http

/-- **Why a text is no target.** -/
inductive UriError where
  | invalidChar
  | invalidAuthority
  | invalidFormat
  | tooLong
  | empty
  | schemeTooLong
deriving DecidableEq, Repr

/-- The wording of a target error. -/
def UriError.message : UriError → String
  | .invalidChar => "invalid uri character"
  | .invalidAuthority => "invalid authority"
  | .invalidFormat => "invalid format"
  | .tooLong => "uri too long"
  | .empty => "empty string"
  | .schemeTooLong => "scheme too long"

/-- **A request target.** `path` is what was written, which may be empty in front of a query. -/
structure Uri where
  scheme : Option (List Char)
  authority : Option (List Char)
  path : List Char
  query : Option (List Char)
deriving DecidableEq, Repr

namespace Uri

/-- Characters of a scheme, and the colon that ends it. -/
def isSchemeChar (c : Char) : Bool := c.isAlphanum || c == '+' || c == '-' || c == '.' || c == ':'

/-- Characters of an authority, and those that end it. -/
def isUriChar (c : Char) : Bool := c.isAlphanum || "-._~:/?#[]@!$&'()*+,;=".toList.contains c

/-- Characters of a path. -/
def isPathChar (c : Char) : Bool :=
  let n := c.toNat
  n == 0x21 || (0x24 ≤ n && n ≤ 0x3b) || n == 0x3d || (0x40 ≤ n && n ≤ 0x5f)
    || (0x61 ≤ n && n ≤ 0x7a) || n == 0x7c || n == 0x7e || 0x7f ≤ n
    || c == '"' || c == '\x7b' || c == '\x7d'

/-- Characters of a query. -/
def isQueryChar (c : Char) : Bool :=
  let n := c.toNat
  n == 0x21 || (0x24 ≤ n && n ≤ 0x3b) || n == 0x3d || 0x3f ≤ n

/-- The query behind its question mark, up to a fragment. -/
def parseQuery : List Char → Except UriError (List Char)
  | [] => .ok []
  | c :: cs =>
    if c = '#' then .ok []
    else if isQueryChar c then (parseQuery cs).map (c :: ·)
    else .error .invalidChar

/-- A path and its query, up to a fragment. -/
def parsePath : List Char → Except UriError (List Char × Option (List Char))
  | [] => .ok ([], none)
  | c :: cs =>
    if c = '?' then (parseQuery cs).map fun q => ([], some q)
    else if c = '#' then .ok ([], none)
    else if isPathChar c then (parsePath cs).map fun (p, q) => (c :: p, q)
    else .error .invalidChar

/-- **What is known of an authority** after some of its characters: colons since the last `@` or
`]`, brackets seen, a percent sign since the last `@` or `]`, whether the last character was the
last `@`, and the characters so far, last first. -/
structure AuthorityScan where
  colons : Nat := 0
  opened : Bool := false
  closed : Bool := false
  percent : Bool := false
  endsInAt : Bool := false
  read : List Char := []

/-- One character of an authority. -/
def AuthorityScan.step (s : AuthorityScan) (c : Char) : Except UriError AuthorityScan :=
  let s' := { s with read := c :: s.read, endsInAt := c = '@' }
  if c = ':' then
    if 8 ≤ s.colons then .error .invalidAuthority else .ok { s' with colons := s.colons + 1 }
  else if c = '[' then
    if s.percent || s.opened then .error .invalidAuthority else .ok { s' with opened := true }
  else if c = ']' then
    if !s.opened || s.closed then .error .invalidAuthority
    else .ok { s' with closed := true, colons := 0, percent := false }
  else if c = '@' then .ok { s' with colons := 0, percent := false }
  else if c = '%' then .ok { s' with percent := true }
  else if isUriChar c then .ok s'
  else .error .invalidChar

/-- Whether a character ends an authority. -/
def endsAuthority (c : Char) : Bool := c == '/' || c == '?' || c == '#'

/-- An authority and what follows it. -/
def scanAuthority (s : AuthorityScan) : List Char → Except UriError (List Char × List Char)
  | c :: cs =>
    if endsAuthority c then finish (c :: cs)
    else match s.step c with
      | .ok s => scanAuthority s cs
      | .error e => .error e
  | [] => finish []
where
  /-- The checks at the end of an authority. -/
  finish (rest : List Char) : Except UriError (List Char × List Char) :=
    if s.opened != s.closed || 1 < s.colons || s.endsInAt || s.percent then
      .error .invalidAuthority
    else .ok (s.read.reverse, rest)

/-- An authority that is not missing altogether, and what follows it. -/
def parseAuthority (cs : List Char) : Except UriError (List Char × List Char) :=
  if cs.isEmpty then .error .empty else scanAuthority {} cs

/-- The scheme ahead of `://` and what follows them, if there is one. -/
def parseScheme (cs : List Char) : Except UriError (Option (List Char × List Char)) :=
  let lower := cs.map Char.toLower
  if lower.take 7 = "http://".toList then .ok (some ("http".toList, cs.drop 7))
  else if lower.take 8 = "https://".toList then .ok (some ("https".toList, cs.drop 8))
  else if cs.length ≤ 3 then .ok none
  else
    let scheme := cs.takeWhile fun c => isSchemeChar c && c != ':'
    let rest := cs.drop scheme.length
    if rest.take 3 = "://".toList then
      if 64 < scheme.length then .error .schemeTooLong else .ok (some (scheme, rest.drop 3))
    else .ok none

/-- A target in absolute form, or an authority alone. -/
def parseFull (cs : List Char) : Except UriError Uri := do
  match ← parseScheme cs with
  | none =>
    let (authority, rest) ← parseAuthority cs
    if rest.isEmpty then return ⟨none, some authority, [], none⟩ else .error .invalidFormat
  | some (scheme, cs) =>
    let (authority, rest) ← parseAuthority cs
    if authority.isEmpty then .error .invalidFormat
    else
      let (path, query) ← parsePath rest
      return ⟨some scheme, some authority, path, query⟩

/-- **The target that a text writes.** -/
def parse (s : String) : Except UriError Uri :=
  let cs := s.toList
  if 65534 < s.utf8ByteSize then .error .tooLong
  else match cs with
    | [] => .error .empty
    | ['*'] => .ok ⟨none, none, ['*'], none⟩
    | ['/'] => .ok ⟨none, none, ['/'], none⟩
    | [c] => do
      let (authority, rest) ← parseAuthority [c]
      if rest.isEmpty then return ⟨none, some authority, [], none⟩ else .error .invalidChar
    | '/' :: _ => do
      let (path, query) ← parsePath cs
      return ⟨none, none, path, query⟩
    | _ => parseFull cs

/-- The path as it is shown: an absolute form has at least a slash. -/
def shownPath (u : Uri) : List Char :=
  if u.path.isEmpty && (u.scheme.isSome || u.query.isSome) then ['/'] else u.path

/-- The text of a target. -/
def text (u : Uri) : String :=
  String.ofList (
    (match u.scheme with
      | some s => s ++ "://".toList
      | none => [])
    ++ u.authority.getD []
    ++ u.shownPath
    ++ (match u.query with
      | some q => '?' :: q
      | none => []))

end Uri

end Callpoint.Http
