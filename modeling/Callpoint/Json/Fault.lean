/-!
# Faults of a JSON text

Where and why a text stops being JSON.  A fault is located by the number of bytes that were left to
read, which a reader on a list of bytes knows without counting; `Fault.position` turns that into a
line and a column.
-/

namespace Callpoint.Json

/-- **What is wrong at a place in a text.** -/
inductive Flaw where
  | endInList
  | endInObject
  | endInString
  | endInValue
  | expectedColon
  | expectedListCommaOrEnd
  | expectedObjectCommaOrEnd
  | expectedIdent
  | expectedValue
  | invalidEscape
  | invalidNumber
  | numberOutOfRange
  | invalidCodePoint
  | controlCharacter
  | keyMustBeString
  | loneSurrogate
  | trailingComma
  | trailingCharacters
  | unexpectedEndOfEscape
  | recursionLimit
deriving DecidableEq, Repr

/-- The wording of a flaw. -/
def Flaw.message : Flaw → String
  | .endInList => "EOF while parsing a list"
  | .endInObject => "EOF while parsing an object"
  | .endInString => "EOF while parsing a string"
  | .endInValue => "EOF while parsing a value"
  | .expectedColon => "expected \x60:\x60"
  | .expectedListCommaOrEnd => "expected \x60,\x60 or \x60]\x60"
  | .expectedObjectCommaOrEnd => "expected \x60,\x60 or \x60\x7d\x60"
  | .expectedIdent => "expected ident"
  | .expectedValue => "expected value"
  | .invalidEscape => "invalid escape"
  | .invalidNumber => "invalid number"
  | .numberOutOfRange => "number out of range"
  | .invalidCodePoint => "invalid unicode code point"
  | .controlCharacter => "control character (\\u0000-\\u001F) found while parsing a string"
  | .keyMustBeString => "key must be a string"
  | .loneSurrogate => "lone leading surrogate in hex escape"
  | .trailingComma => "trailing comma"
  | .trailingCharacters => "trailing characters"
  | .unexpectedEndOfEscape => "unexpected end of hex escape"
  | .recursionLimit => "recursion limit exceeded"

/-- **A flaw and its place,** given by the number of bytes not yet read. -/
structure Fault where
  flaw : Flaw
  left : Nat
deriving DecidableEq, Repr

/-- A flaw found when everything before `rest` was read. -/
def Flaw.before (f : Flaw) (rest : List UInt8) : Fault := ⟨f, rest.length⟩

/-- A flaw that is the next byte of `rest` itself, or the end of the text. -/
def Flaw.atNext (f : Flaw) (rest : List UInt8) : Fault := ⟨f, rest.length - 1⟩

/-- Line and column after some bytes were read: the line counts the line feeds, the column the
bytes behind the last of them. -/
def positionAfter (bytes : List UInt8) : Nat × Nat :=
  bytes.foldl (fun place b => if b = 0x0a then (place.1 + 1, 0) else (place.1, place.2 + 1)) (1, 0)

/-- The message of a fault in a text, with its place. -/
def Fault.describe (bytes : List UInt8) (f : Fault) : String :=
  let (line, column) := positionAfter (bytes.take (bytes.length - f.left))
  f.flaw.message ++ " at line " ++ toString line ++ " column " ++ toString column

end Callpoint.Json
