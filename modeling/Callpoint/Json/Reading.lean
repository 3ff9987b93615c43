import Callpoint.Json.Numeral
import Callpoint.Json.StringToken

/-!
# Readings

A `Reading` is what a text says, as far as it says anything: the values up to the first fault, and
the fault in the place where a value, an item or a member was expected.  Decoding walks a reading
from left to right, so a wrong type ahead of a syntax fault is reported first, and a value that
nobody looks at need only be well formed.  `Reading.toJson` takes a reading as a free-form value.
-/

namespace Callpoint.Json

/-- **A text as read.** `behind` is what follows an opening bracket; `stop` is the fault that ended
a list of items or members before its closing bracket. -/
inductive Reading where
  | null
  | bool (value : Bool)
  | number (value : Except Fault Json.Number)
  | string (value : Except Fault String)
  | array (behind : List UInt8) (items : List Reading) (stop : Option Fault)
  | object (behind : List UInt8) (members : List (Except Fault String × Reading))
    (stop : Option Fault)
  | broken (fault : Fault)

namespace Reading

/-- Whether a byte is JSON white space. -/
def isSpace (b : UInt8) : Bool := b = 0x20 || b = 0x0a || b = 0x09 || b = 0x0d

/-- The bytes behind leading white space. -/
def skipSpace (bytes : List UInt8) : List UInt8 := bytes.dropWhile isSpace

/-- Reads the letters of a word; the fault is behind the first that differs. -/
def readWord : List UInt8 → List UInt8 → Except Fault (List UInt8)
  | [], rest => .ok rest
  | _ :: _, [] => .error (Flaw.endInValue.before [])
  | w :: ws, b :: rest =>
    if b = w then readWord ws rest else .error (Flaw.expectedIdent.before rest)

/-- A reading and what is left behind it; `none` when nothing can be read on. -/
abbrev Outcome (α : Type) := α × Option (List UInt8)

/-- A literal word as a reading. -/
def literal (value : Reading) (word rest : List UInt8) : Outcome Reading :=
  match readWord word rest with
  | .ok rest => (value, some rest)
  | .error f => (.broken f, none)

/-- A number behind its sign as a reading. -/
def numeral (negative : Bool) (rest : List UInt8) : Outcome Reading :=
  match Numeral.read negative rest with
  | .ok (n, rest) => (.number (n.value rest), some rest)
  | .error f => (.broken f, none)

/-- What stands ahead of a further item: a comma, or nothing ahead of the first one.  `none` is the
closing bracket. -/
def itemAhead (first : Bool) (bytes : List UInt8) : Except Fault (Option (List UInt8)) :=
  match skipSpace bytes with
  | [] => .error (Flaw.endInList.atNext [])
  | b :: rest =>
    if b = 0x5d then .ok none
    else if first then .ok (some (b :: rest))
    else if b = 0x2c then
      match skipSpace rest with
      | [] => .error (Flaw.endInValue.atNext [])
      | c :: rest =>
        if c = 0x5d then .error (Flaw.trailingComma.atNext (c :: rest)) else .ok (some (c :: rest))
    else .error (Flaw.expectedListCommaOrEnd.atNext (b :: rest))

/-- What stands behind the opening quote of a further name.  `none` is the closing brace. -/
def nameAhead (first : Bool) (bytes : List UInt8) : Except Fault (Option (List UInt8)) :=
  match skipSpace bytes with
  | [] => .error (Flaw.endInObject.atNext [])
  | b :: rest =>
    if b = 0x7d then .ok none
    else if first then
      if b = 0x22 then .ok (some rest) else .error (Flaw.keyMustBeString.atNext (b :: rest))
    else if b = 0x2c then
      match skipSpace rest with
      | [] => .error (Flaw.endInValue.atNext [])
      | c :: rest =>
        if c = 0x22 then .ok (some rest)
        else if c = 0x7d then .error (Flaw.trailingComma.atNext (c :: rest))
        else .error (Flaw.keyMustBeString.atNext (c :: rest))
    else .error (Flaw.expectedObjectCommaOrEnd.atNext (b :: rest))

/-- What stands behind the colon of a member. -/
def behindColon (bytes : List UInt8) : Except Fault (List UInt8) :=
  match skipSpace bytes with
  | [] => .error (Flaw.endInObject.atNext [])
  | b :: rest => if b = 0x3a then .ok rest else .error (Flaw.expectedColon.atNext (b :: rest))

/-- The bytes behind the closing bracket that comes next. -/
def behindClosing (bytes : List UInt8) : List UInt8 := (skipSpace bytes).drop 1

mutual

/-- Reads one value.  `fuel` bounds the number of values, items and members still to read. -/
def readValue (fuel : Nat) (bytes : List UInt8) : Outcome Reading :=
  match fuel with
  | 0 => (.broken (Flaw.endInValue.before bytes), none)
  | fuel + 1 =>
    match skipSpace bytes with
    | [] => (.broken (Flaw.endInValue.atNext []), none)
    | b :: rest =>
      if b = 0x6e then literal .null [0x75, 0x6c, 0x6c] rest
      else if b = 0x74 then literal (.bool true) [0x72, 0x75, 0x65] rest
      else if b = 0x66 then literal (.bool false) [0x61, 0x6c, 0x73, 0x65] rest
      else if b = 0x2d then numeral true rest
      else if isDigit b then numeral false (b :: rest)
      else if b = 0x22 then
        match readString [] none rest with
        | .ok (s, rest) => (.string s, some rest)
        | .error f => (.broken f, none)
      else if b = 0x5b then
        let ((items, stop), after) := readItems fuel true rest
        (.array rest items stop, after)
      else if b = 0x7b then
        let ((members, stop), after) := readMembers fuel true rest
        (.object rest members stop, after)
      else (.broken (Flaw.expectedValue.atNext (b :: rest)), none)

/-- Reads the items up to the closing bracket. -/
def readItems (fuel : Nat) (first : Bool) (bytes : List UInt8) :
    Outcome (List Reading × Option Fault) :=
  match fuel with
  | 0 => (([], some (Flaw.endInList.before bytes)), none)
  | fuel + 1 =>
    match itemAhead first bytes with
    | .error f => (([], some f), none)
    | .ok none => (([], none), some (behindClosing bytes))
    | .ok (some bytes) =>
      match readValue fuel bytes with
      | (v, none) => (([v], none), none)
      | (v, some rest) =>
        let ((items, stop), after) := readItems fuel false rest
        ((v :: items, stop), after)

/-- Reads the members up to the closing brace. -/
def readMembers (fuel : Nat) (first : Bool) (bytes : List UInt8) :
    Outcome (List (Except Fault String × Reading) × Option Fault) :=
  match fuel with
  | 0 => (([], some (Flaw.endInObject.before bytes)), none)
  | fuel + 1 =>
    match nameAhead first bytes with
    | .error f => (([], some f), none)
    | .ok none => (([], none), some (behindClosing bytes))
    | .ok (some bytes) =>
      match readString [] none bytes with
      | .error f => (([], some f), none)
      | .ok (name, rest) =>
        match behindColon rest with
        | .error f => (([(name, .broken f)], none), none)
        | .ok rest =>
          match readValue fuel rest with
          | (v, none) => (([(name, v)], none), none)
          | (v, some rest) =>
            let ((members, stop), after) := readMembers fuel false rest
            (((name, v) :: members, stop), after)

end

/-- Reads a whole text: its value, and the fault of anything that follows it. -/
def ofBytes (bytes : List UInt8) : Reading × Option Fault :=
  match readValue (2 * bytes.length + 2) bytes with
  | (v, none) => (v, none)
  | (v, some rest) =>
    match skipSpace rest with
    | [] => (v, none)
    | rest => (v, some (Flaw.trailingCharacters.atNext rest))

/-- How many brackets may be open at once. -/
def maxDepth : Nat := 127

mutual

/-- The reading as a value, if nothing is wrong with it and no more than `depth` brackets are open
at once. -/
def toJson (depth : Nat) : Reading → Except Fault Json
  | .null => .ok .null
  | .bool b => .ok (.bool b)
  | .number n => n.map .number
  | .string s => s.map .string
  | .broken f => .error f
  | .array behind items stop =>
    match depth with
    | 0 => .error (Flaw.recursionLimit.before behind)
    | depth + 1 => do
      let items ← toItems depth items
      match stop with
      | some f => .error f
      | none => .ok (.array items)
  | .object behind members stop =>
    match depth with
    | 0 => .error (Flaw.recursionLimit.before behind)
    | depth + 1 => do
      let members ← toMembers depth members []
      match stop with
      | some f => .error f
      | none => .ok (.object members)

/-- `toJson` on items. -/
def toItems (depth : Nat) : List Reading → Except Fault (List Json)
  | [] => .ok []
  | r :: rs => do
    let v ← toJson depth r
    let vs ← toItems depth rs
    return v :: vs

/-- `toJson` on members, which are put into `acc` in turn. -/
def toMembers (depth : Nat) :
    List (Except Fault String × Reading) → List (String × Json) →
      Except Fault (List (String × Json))
  | [], acc => .ok acc
  | (name, r) :: rs, acc => do
    let name ← name
    let v ← toJson depth r
    toMembers depth rs (insertMember name v acc)

end

mutual

/-- A value as a reading without faults. -/
def ofJson : Json → Reading
  | .null => .null
  | .bool b => .bool b
  | .number n => .number (.ok n)
  | .string s => .string (.ok s)
  | .array vs => .array [] (ofItems vs) none
  | .object ms => .object [] (ofMembers ms) none

/-- `ofJson` on items. -/
def ofItems : List Json → List Reading
  | [] => []
  | v :: vs => ofJson v :: ofItems vs

/-- `ofJson` on members. -/
def ofMembers : List (String × Json) → List (Except Fault String × Reading)
  | [] => []
  | (k, v) :: ms => (.ok k, ofJson v) :: ofMembers ms

end

end Reading

/-- **Reads a text as a free-form value.** The first fault in text order is reported. -/
def parse (bytes : List UInt8) : Except Fault Json := do
  let (reading, behind) := Reading.ofBytes bytes
  let v ← reading.toJson Reading.maxDepth
  match behind with
  | some f => .error f
  | none => .ok v

end Callpoint.Json
