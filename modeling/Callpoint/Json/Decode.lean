import Callpoint.Assoc
import Callpoint.Json.Reading
import Callpoint.Json.Text

/-!
# Decoding readings

A `Decoder` takes a reading to a typed value or to the first error in text order.  Records are
described by their `Fields`, one after the other; a record is read from an object in the order of
its members, or from an array by position.
-/

namespace Callpoint.Json

open Callpoint.Number

/-- **What was found where something else was expected.** -/
inductive Found where
  | null
  | bool (value : Bool)
  | number (value : Json.Number)
  | string (value : String)
  | sequence
  | map

/-- The wording of what was found. -/
def Found.text : Found → String
  | .null => "null"
  | .bool b => "boolean \x60" ++ toString b ++ "\x60"
  | .number (.int i) => "integer \x60" ++ toString i ++ "\x60"
  | .number (.float x) => "floating point \x60" ++ (Number.float x).text ++ "\x60"
  | .string s => "string " ++ Text.quoted s
  | .sequence => "sequence"
  | .map => "map"

/-- **Why a reading is not of the wanted type.** -/
inductive DecodeError where
  | unreadable (fault : Fault)
  | wrongType (found : Found) (expected : String)
  | wrongValue (found : Found) (expected : String)
  | wrongLength (length : Nat) (expected : String)
  | surplus (length : Nat)
  | surplusInText
  | missingField (name : String)
  | repeatedField (name : String)
  | unknownField (name : String) (known : List String)
  | unknownVariant (name : String) (known : List String)
  | severalKeys
  | noVariant (name : String)

/-- A list of names to choose from. -/
def choice : List String → String
  | [a] => "\x60" ++ a ++ "\x60"
  | [a, b] => "\x60" ++ a ++ "\x60 or \x60" ++ b ++ "\x60"
  | names => "one of " ++ ", ".intercalate (names.map fun n => "\x60" ++ n ++ "\x60")

/-- The wording of an error, without a place. -/
def DecodeError.message : DecodeError → String
  | .unreadable f => f.flaw.message
  | .wrongType found expected => "invalid type: " ++ found.text ++ ", expected " ++ expected
  | .wrongValue found expected => "invalid value: " ++ found.text ++ ", expected " ++ expected
  | .wrongLength n expected => "invalid length " ++ toString n ++ ", expected " ++ expected
  | .surplus n => "invalid length " ++ toString n ++ ", expected fewer elements in array"
  | .surplusInText => Flaw.trailingCharacters.message
  | .missingField n => "missing field \x60" ++ n ++ "\x60"
  | .repeatedField n => "duplicate field \x60" ++ n ++ "\x60"
  | .unknownField n [] => "unknown field \x60" ++ n ++ "\x60, there are no fields"
  | .unknownField n known => "unknown field \x60" ++ n ++ "\x60, expected " ++ choice known
  | .unknownVariant n known => "unknown variant \x60" ++ n ++ "\x60, expected " ++ choice known
  | .severalKeys => "invalid value: map, expected map with a single key"
  | .noVariant n => "data did not match any variant of untagged enum " ++ n

/-- **A decoder of `α`.** It is given how many brackets may still be opened. -/
def Decoder (α : Type) := Nat → Reading → Except DecodeError α

namespace Decoder

/-- The same decoder with its result changed. -/
def map {α β : Type} (f : α → β) (d : Decoder α) : Decoder β :=
  fun depth r => (d depth r).map f

/-- A fault met on the way. -/
def lift {α : Type} : Except Fault α → Except DecodeError α
  | .ok a => .ok a
  | .error f => .error (.unreadable f)

/-- The error of a reading that is not what was expected. -/
def unexpected {α : Type} (expected : String) : Reading → Except DecodeError α
  | .broken f => .error (.unreadable f)
  | .null => .error (.wrongType .null expected)
  | .bool b => .error (.wrongType (.bool b) expected)
  | .number n => lift n >>= fun n => .error (.wrongType (.number n) expected)
  | .string s => lift s >>= fun s => .error (.wrongType (.string s) expected)
  | .array .. => .error (.wrongType .sequence expected)
  | .object .. => .error (.wrongType .map expected)

/-- A text. -/
def string : Decoder String
  | _, .string s => lift s
  | _, r => unexpected "a string" r

/-- A truth value. -/
def bool : Decoder Bool
  | _, .bool b => .ok b
  | _, r => unexpected "a boolean" r

/-- An integer between two bounds, of a kind that is called `name`. -/
def integer (name : String) (low high : Int) : Decoder Int
  | _, .number n => do
    match ← lift n with
    | .int i => if low ≤ i ∧ i ≤ high then .ok i else .error (.wrongValue (.number (.int i)) name)
    | .float x => .error (.wrongType (.number (.float x)) name)
  | _, r => unexpected name r

/-- A natural number below `2 ^ bits`, of a kind that is called `name`. -/
def unsigned (name : String) (bits : Nat) : Decoder Nat :=
  (integer name 0 (Int.pow 2 bits - 1)).map Int.toNat

/-- A binary number; integers are rounded to one. -/
def binary : Decoder Binary64
  | _, .number n => do
    match ← lift n with
    | .int i => .ok (Binary64.ofInt i)
    | .float x => .ok x
  | _, r => unexpected "f64" r

/-- Null or what `d` decodes. -/
def option {α : Type} (d : Decoder α) : Decoder (Option α)
  | _, .null => .ok none
  | depth, r => (d depth r).map some

/-- Any value as it stands. -/
def value : Decoder Json := fun depth r => lift (r.toJson depth)

/-- A bracket may be opened only while `depth` allows it. -/
def opened {α : Type} (depth : Nat) (behind : List UInt8)
    (body : Nat → Except DecodeError α) : Except DecodeError α :=
  match depth with
  | 0 => .error (.unreadable (Flaw.recursionLimit.before behind))
  | depth + 1 => body depth

/-- The fault that ended a list, if any. -/
def closed : Option Fault → Except DecodeError Unit
  | none => .ok ()
  | some f => .error (.unreadable f)

/-- A name out of a list, as a text or as the only key of an object whose value is null. -/
def variant (known : List String) : Decoder String
  | _, .string s => lift s >>= pick
  | _, .object _ [(name, r)] none => do
    let name ← lift name >>= pick
    match r with
    | .null => .ok name
    | r => unexpected "unit" r
  | _, .object .. => .error .severalKeys
  | _, r => unexpected "string or map" r
where
  /-- The name itself, if it is in the list. -/
  pick (name : String) : Except DecodeError String :=
    if known.contains name then .ok name else .error (.unknownVariant name known)

/-- A name out of a list, read straight from a text: what is neither a text nor an object, and what
stands behind the only key of an object, is no value at all. -/
def variantInText (known : List String) : Decoder String
  | _, .string s => lift s >>= variant.pick known
  | _, .broken f =>
    .error (.unreadable (if f.flaw = .endInValue then f else { f with flaw := .expectedValue }))
  | depth, .object behind members stop => opened depth behind fun _ =>
    match members, stop with
    | [], none => .error (.unreadable (Flaw.expectedValue.before behind))
    | [], some f =>
      .error (.unreadable
        { f with flaw := if f.flaw = .endInObject then .endInValue else .expectedValue })
    | (name, r) :: rest, stop => do
      let name ← lift name >>= variant.pick known
      match r, rest, stop with
      | .null, [], none => .ok name
      | .null, [], some f =>
        .error (.unreadable
          (if f.flaw = .endInObject then f else { f with flaw := .expectedValue }))
      | .null, _ :: _, _ => .error (.unreadable (Flaw.expectedValue.before behind))
      | r, _, _ => unexpected "unit" r
  | _, _ => .error (.unreadable (Flaw.expectedValue.before []))

/-- A list. -/
def list {α : Type} (d : Decoder α) : Decoder (List α)
  | depth, .array behind items stop => opened depth behind fun depth => do
    let out ← items.mapM (d depth)
    closed stop
    return out
  | _, r => unexpected "a sequence" r

/-- An object with values of one type, in the order of first appearance. -/
def mapping {α : Type} (d : Decoder α) : Decoder (Assoc α)
  | depth, .object behind members stop => opened depth behind fun depth => do
    let out ← members.foldlM (fun (acc : Assoc α) (name, r) => do
      let name ← lift name
      let a ← d depth r
      return acc.set name a) []
    closed stop
    return out
  | _, r => unexpected "a map" r

end Decoder

mutual

/-- The first fault of a reading that is skipped: numbers and strings only have to be tokens. -/
def Reading.skipFault : Reading → Option Fault
  | .broken f => some f
  | .array _ items stop => skipItems items <|> stop
  | .object _ members stop => skipMembers members <|> stop
  | _ => none

/-- `skipFault` of the first item that has one. -/
def Reading.skipItems : List Reading → Option Fault
  | [] => none
  | r :: rs => r.skipFault <|> skipItems rs

/-- `skipFault` of the first member that has one. -/
def Reading.skipMembers : List (Except Fault String × Reading) → Option Fault
  | [] => none
  | (_, r) :: rs => r.skipFault <|> skipMembers rs

end

/-- **An array read by position:** the items ahead, the fault behind them, and how many were taken.
-/
structure Places where
  taken : Nat
  items : List Reading
  stop : Option Fault

/-- **The fields of a record.** `Slots` holds what was read of them so far. -/
structure Fields (α : Type) : Type 1 where
  Slots : Type
  start : Slots
  names : List String
  accept : Nat → String → Reading → Slots → Option (Except DecodeError Slots)
  finish : Slots → Except DecodeError α
  place : Nat → String → Places → Except DecodeError (α × Places)

namespace Fields

/-- No field at all. -/
def pure {α : Type} (a : α) : Fields α where
  Slots := Unit
  start := ()
  names := []
  accept _ _ _ _ := none
  finish _ := .ok a
  place _ _ p := .ok (a, p)

/-- The fields of a function and then those of its argument. -/
def seq {α β : Type} (f : Fields (α → β)) (x : Fields α) : Fields β where
  Slots := f.Slots × x.Slots
  start := (f.start, x.start)
  names := f.names ++ x.names
  accept depth name r slots :=
    match f.accept depth name r slots.1 with
    | some out => some (out.map fun s => (s, slots.2))
    | none => (x.accept depth name r slots.2).map fun out => out.map fun s => (slots.1, s)
  finish slots := do
    let g ← f.finish slots.1
    let a ← x.finish slots.2
    return g a
  place depth expected p := do
    let (g, p) ← f.place depth expected p
    let (a, p) ← x.place depth expected p
    return (g a, p)

/-- The same fields with the result changed. -/
def map {α β : Type} (f : α → β) (x : Fields α) : Fields β where
  Slots := x.Slots
  start := x.start
  names := x.names
  accept := x.accept
  finish slots := (x.finish slots).map f
  place depth expected p := (x.place depth expected p).map fun (a, p) => (f a, p)

instance : Functor Fields where
  map := Fields.map

instance : Applicative Fields where
  pure := Fields.pure
  seq f x := Fields.seq f (x ())

/-- One field: its value when the object lacks it and its value when the array is too short. -/
def field {α : Type} (name : String) (d : Decoder α) (absent absentPlace : Option α) :
    Fields α where
  Slots := Option α
  start := none
  names := [name]
  accept depth n r slot :=
    if n = name then
      some (match slot with
        | some _ => .error (.repeatedField name)
        | none => (d depth r).map some)
    else none
  finish slot :=
    match slot <|> absent with
    | some a => .ok a
    | none => .error (.missingField name)
  place depth expected p :=
    match p.items with
    | r :: rest => (d depth r).map fun a => (a, ⟨p.taken + 1, rest, p.stop⟩)
    | [] =>
      match p.stop, absentPlace with
      | some f, _ => .error (.unreadable f)
      | none, some a => .ok (a, p)
      | none, none => .error (.wrongLength p.taken expected)

/-- A field that must be there. -/
def required {α : Type} (name : String) (d : Decoder α) : Fields α := field name d none none

/-- A field that may be missing from an object. -/
def optional {α : Type} (name : String) (d : Decoder α) : Fields (Option α) :=
  field name (Decoder.option d) (some none) none

/-- A field with a value of its own when it is missing. -/
def defaulted {α : Type} (name : String) (d : Decoder α) (a : α) : Fields α :=
  field name d (some a) (some a)

/-- An optional field with a value of its own, nothing, also by position. -/
def omissible {α : Type} (name : String) (d : Decoder α) : Fields (Option α) :=
  defaulted name (Decoder.option d) none

/-- Reads the members of an object into the slots. -/
def members {α : Type} (fs : Fields α) (closedRecord : Bool) (depth : Nat) :
    List (Except Fault String × Reading) → fs.Slots → Except DecodeError fs.Slots
  | [], slots => .ok slots
  | (name, r) :: rest, slots => do
    let name ← Decoder.lift name
    match fs.accept depth name r slots with
    | some out => members fs closedRecord depth rest (← out)
    | none =>
      if closedRecord then .error (.unknownField name fs.names)
      else match r.skipFault with
        | some f => .error (.unreadable f)
        | none => members fs closedRecord depth rest slots

end Fields

/-- A fault behind the last place of a record, where nothing more is expected of the array but its
end. -/
def Fault.behindPlaces (f : Fault) : Fault :=
  match f.flaw with
  | .endInList | .trailingComma => f
  | _ => { f with flaw := .trailingCharacters }

/-- The wording of what a record expects of an array. -/
def expectedElements (name : String) (count : Nat) : String :=
  "struct " ++ name ++ " with " ++ toString count ++ (if count = 1 then " element" else " elements")

/-- **A record.** A closed record refuses members that are none of its fields. -/
def Decoder.record {α : Type} (name : String) (closedRecord : Bool) (fs : Fields α) : Decoder α
  | depth, .object behind members stop => opened depth behind fun depth => do
    let slots ← fs.members closedRecord depth members fs.start
    closed stop
    fs.finish slots
  | depth, .array behind items stop => opened depth behind fun depth => do
    let (a, p) ← fs.place depth (expectedElements name fs.names.length) ⟨0, items, stop⟩
    if p.items.isEmpty then
      closed (p.stop.map Fault.behindPlaces)
      return a
    else .error (.surplus items.length)
  | _, r => unexpected ("struct " ++ name) r

/-- Decodes a value already read. -/
def decodeValue {α : Type} (d : Decoder α) (v : Json) : Except DecodeError α :=
  d Reading.maxDepth (Reading.ofJson v)

/-- An error in a text: items beyond the places of a record are not counted there. -/
def DecodeError.inText : DecodeError → DecodeError
  | .surplus _ => .surplusInText
  | e => e

/-- Decodes a text; what follows the value is reported last. -/
def decodeText {α : Type} (d : Decoder α) (bytes : List UInt8) : Except DecodeError α := do
  let (reading, behind) := Reading.ofBytes bytes
  let a ← (d Reading.maxDepth reading).mapError DecodeError.inText
  Decoder.closed behind
  return a

end Callpoint.Json
