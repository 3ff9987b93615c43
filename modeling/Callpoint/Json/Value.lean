import Callpoint.Number.Shortest

/-!
# JSON values

The value type that bodies, details, examples and documents are made of.  Members of an object are
a list, so a value written for a reader keeps the order its author chose; `Json.ofMembers` builds
the free-form objects, whose members are sorted by name and distinct.
-/

namespace Callpoint

open Callpoint.Number

/-- **A JSON number.** An integer between `-2 ^ 63` and `2 ^ 64 - 1` is kept exactly, every other
number as a binary one. -/
inductive Json.Number where
  | int (value : Int)
  | float (value : Binary64)
deriving DecidableEq, Repr, Inhabited

/-- **A JSON value.** -/
inductive Json where
  | null
  | bool (value : Bool)
  | number (value : Json.Number)
  | string (value : String)
  | array (items : List Json)
  | object (members : List (String × Json))
deriving Inhabited

namespace Json

/-- A natural number as a value. -/
def nat (n : Nat) : Json := .number (.int n)

/-- A binary number as a value; what has no numeral becomes null. -/
def ofBinary (x : Binary64) : Json :=
  if x.isFinite then .number (.float x) else .null

/-- A text or nothing. -/
def ofOption : Option String → Json
  | none => .null
  | some s => .string s

/-- Numbers that are equal as numbers of one kind. -/
def Number.same : Json.Number → Json.Number → Bool
  | .int i, .int j => i == j
  | .float x, .float y => x.sameNumber y
  | _, _ => false

mutual

/-- Equality of values, with numbers compared as numbers and members in order. -/
def same : Json → Json → Bool
  | .null, .null => true
  | .bool a, .bool b => a == b
  | .number a, .number b => a.same b
  | .string a, .string b => a == b
  | .array a, .array b => sameItems a b
  | .object a, .object b => sameMembers a b
  | _, _ => false

/-- `same` on lists. -/
def sameItems : List Json → List Json → Bool
  | [], [] => true
  | a :: as, b :: bs => same a b && sameItems as bs
  | _, _ => false

/-- `same` on members. -/
def sameMembers : List (String × Json) → List (String × Json) → Bool
  | [], [] => true
  | (k, a) :: as, (l, b) :: bs => k == l && same a b && sameMembers as bs
  | _, _ => false

end

/-- A member put into a list sorted by name; a member of that name is replaced. -/
def insertMember (name : String) (v : Json) : List (String × Json) → List (String × Json)
  | [] => [(name, v)]
  | (n, w) :: rest =>
    if name < n then (name, v) :: (n, w) :: rest
    else if name = n then (name, v) :: rest
    else (n, w) :: insertMember name v rest

/-- The object with the given members, sorted; of members with one name the last counts. -/
def ofMembers (members : List (String × Json)) : Json :=
  .object (members.foldl (fun acc (n, v) => insertMember n v acc) [])

mutual

/-- The free-form value with the same content: all members sorted. -/
def freeForm : Json → Json
  | .array vs => .array (freeFormItems vs)
  | .object ms => ofMembers (freeFormMembers ms)
  | v => v

/-- `freeForm` on items. -/
def freeFormItems : List Json → List Json
  | [] => []
  | v :: vs => freeForm v :: freeFormItems vs

/-- `freeForm` on members. -/
def freeFormMembers : List (String × Json) → List (String × Json)
  | [] => []
  | (n, v) :: ms => (n, freeForm v) :: freeFormMembers ms

end

/-- The member of that name, if the value is an object that has one. -/
def get? (name : String) : Json → Option Json
  | .object members => members.lookup name
  | _ => none

/-- Optional members of a record under construction: only those present are written. -/
def presentMembers (members : List (String × Option Json)) : List (String × Json) :=
  members.filterMap fun (n, v) => v.map (n, ·)

end Json

end Callpoint
