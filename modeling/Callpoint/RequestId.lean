import Callpoint.Text.Hex

/-!
# Request identifiers

A request is identified by a 128 bit number that is written as 32 hexadecimal digits in five groups.
Reading also takes the digits without the dashes, the grouped form in braces and the grouped form as
a name in the `urn:uuid:` space, in either case of letters.
-/

namespace Callpoint

/-- **The identifier of a request.** -/
structure RequestId where
  value : BitVec 128
deriving DecidableEq, Repr, Inhabited

namespace RequestId

/-- The value of a hexadecimal digit. -/
def digitValue? (c : Char) : Option Nat :=
  if c.toNat < 0x80 then Text.hexValue? c.toNat.toUInt8 else none

/-- The value of hexadecimal digits, continuing `n`. -/
def digitsValue? (n : Nat) : List Char → Option Nat
  | [] => some n
  | c :: cs => do digitsValue? (n * 16 + (← digitValue? c)) cs

/-- The identifier written by 32 digits. -/
def ofDigits? (cs : List Char) : Option RequestId :=
  if cs.length = 32 then (digitsValue? 0 cs).map fun n => ⟨BitVec.ofNat 128 n⟩ else none

/-- The identifier written by digits in groups of 8, 4, 4, 4 and 12. -/
def ofGroups? (cs : List Char) : Option RequestId :=
  if cs.length = 36 ∧ [8, 13, 18, 23].all (fun i => cs[i]? = some '-') then
    ofDigits? (cs.take 8 ++ (cs.drop 9).take 4 ++ (cs.drop 14).take 4 ++ (cs.drop 19).take 4
      ++ cs.drop 24)
  else none

/-- The identifier that a text writes in any of the accepted forms. -/
def parse? (s : String) : Option RequestId :=
  let cs := s.toList
  if cs.length = 32 then ofDigits? cs
  else if cs.length = 36 then ofGroups? cs
  else if cs.length = 38 then
    if cs.head? = some '\x7b' ∧ cs.getLast? = some '\x7d' then ofGroups? (cs.drop 1).dropLast
    else none
  else if cs.length = 45 then
    if (cs.take 9).map Char.toLower = "urn:uuid:".toList then ofGroups? (cs.drop 9) else none
  else none

/-- A lower case hexadecimal digit of the value, counted from the left. -/
def digit (r : RequestId) (i : Nat) : Char :=
  Text.hexLower (r.value.toNat / Nat.pow 16 (31 - i) % 16)

/-- Some consecutive digits. -/
def digits (r : RequestId) (start count : Nat) : List Char :=
  (List.range count).map fun i => r.digit (start + i)

/-- The canonical text of an identifier. -/
def text (r : RequestId) : String :=
  String.ofList (r.digits 0 8 ++ '-' :: r.digits 8 4 ++ '-' :: r.digits 12 4 ++ '-' :: r.digits 16 4
    ++ '-' :: r.digits 20 12)

end RequestId

end Callpoint
