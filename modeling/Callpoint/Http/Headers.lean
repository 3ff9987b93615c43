import Callpoint.Text.Utf8

/-!
# Headers

A header map holds lines of a name and a value, in order; a name may have several values.  Names are
kept in lower case, so a look-up by any spelling finds them.
-/

namespace Callpoint.Http

/-- The value of a header. -/
abbrev HeaderValue := Bytes

/-- Characters of names and methods. -/
def isTokenChar (c : Char) : Bool :=
  c.isAlphanum || "!#$%&'*+-.^_\x60|~".toList.contains c

/-- The name of a header in lower case, if the text is one. -/
def headerName? (s : String) : Option String :=
  let cs := s.toList
  if cs ≠ [] ∧ cs.length < 65536 ∧ cs.all isTokenChar then
    some (String.ofList (cs.map Char.toLower))
  else none

/-- Whether a byte may stand in a value. -/
def isValueByte (b : UInt8) : Bool := (0x20 ≤ b && b ≠ 0x7f) || b = 0x09

/-- A value, if the bytes are one. -/
def headerValue? (bytes : Bytes) : Option HeaderValue :=
  if bytes.all isValueByte then some bytes else none

/-- The wording for a text that is no name. -/
def invalidName : String := "invalid HTTP header name"

/-- The wording for bytes that are no value. -/
def invalidValue : String := "failed to parse header value"

/-- **Header lines in order.** -/
abbrev Headers := List (String × HeaderValue)

namespace Headers

/-- The spelling under which a name is kept. -/
def key (name : String) : String := String.ofList (name.toList.map Char.toLower)

/-- Adds a line behind those of the same name. -/
def append (h : Headers) (name : String) (value : HeaderValue) : Headers := h ++ [(key name, value)]

/-- Replaces all lines of a name by one. -/
def insert (h : Headers) (name : String) (value : HeaderValue) : Headers :=
  h.filter (fun line => line.1 ≠ key name) ++ [(key name, value)]

/-- The values of a name, in order. -/
def values (h : Headers) (name : String) : List HeaderValue :=
  (h.filter fun line => line.1 = key name).map Prod.snd

/-- The first value of a name. -/
def get? (h : Headers) (name : String) : Option HeaderValue := (h.values name).head?

/-- Whether a name has a line. -/
def contains (h : Headers) (name : String) : Bool := h.any fun line => line.1 = key name

/-- The text of a value that consists of visible characters and tabs. -/
def text? (value : HeaderValue) : Option String :=
  if value.all (fun b => isValueByte b && b < 0x7f) then Text.decode? value else none

/-- The text of the first value of a name. -/
def getText? (h : Headers) (name : String) : Option String := h.get? name >>= text?

/-- Adds those lines of `more` whose names are not there yet. -/
def addMissing (h more : Headers) : Headers := h ++ more.filter fun line => !h.contains line.1

/-- The lines sorted by name, those of one name in order. -/
def sorted (h : Headers) : Headers := h.mergeSort fun a b => decide (a.1 ≤ b.1)

end Headers

end Callpoint.Http
