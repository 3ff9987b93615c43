import Callpoint.Proofs.Json.Numerals
import Callpoint.Proofs.Json.Strings

/-!
# Compact texts as bytes

The text of a value begins with a bracket, a quote or the first byte of a word or a numeral, and
each further item and member stands behind a comma.  What a value is asked for to be found again in
its text is that its numbers are integers (`Integral`), that the members of its objects are sorted
(`Sorted`), and that not too many brackets are open at once (`depth`).
-/

namespace Callpoint.Json

open Callpoint.Text

/-! ### Values that are found again -/

mutual

/-- **Every number is an integer of 64 bits**, with a sign or without one. -/
def Integral : Json → Prop
  | .null => True
  | .bool _ => True
  | .number (.int i) => -0x8000000000000000 ≤ i ∧ i < 0x10000000000000000
  | .number (.float _) => False
  | .string _ => True
  | .array vs => IntegralItems vs
  | .object ms => IntegralMembers ms

/-- `Integral` on items. -/
def IntegralItems : List Json → Prop
  | [] => True
  | v :: vs => v.Integral ∧ IntegralItems vs

/-- `Integral` on members. -/
def IntegralMembers : List (String × Json) → Prop
  | [] => True
  | (_, v) :: ms => v.Integral ∧ IntegralMembers ms

end

mutual

/-- **The members of every object are sorted by name**, and no two have the same name. -/
def Sorted : Json → Prop
  | .null => True
  | .bool _ => True
  | .number _ => True
  | .string _ => True
  | .array vs => SortedItems vs
  | .object ms => (ms.map Prod.fst).Pairwise (· < ·) ∧ SortedMembers ms

/-- `Sorted` on items. -/
def SortedItems : List Json → Prop
  | [] => True
  | v :: vs => v.Sorted ∧ SortedItems vs

/-- `Sorted` on members. -/
def SortedMembers : List (String × Json) → Prop
  | [] => True
  | (_, v) :: ms => v.Sorted ∧ SortedMembers ms

end

mutual

/-- **How many brackets are open at once** in the text of a value. -/
def depth : Json → Nat
  | .null => 0
  | .bool _ => 0
  | .number _ => 0
  | .string _ => 0
  | .array vs => depthItems vs + 1
  | .object ms => depthMembers ms + 1

/-- The greatest `depth` of the items. -/
def depthItems : List Json → Nat
  | [] => 0
  | v :: vs => max v.depth (depthItems vs)

/-- The greatest `depth` of the members. -/
def depthMembers : List (String × Json) → Nat
  | [] => 0
  | (_, v) :: ms => max v.depth (depthMembers ms)

end

/-! ### Texts -/

theorem encode_null : encode (compact .null) = [0x6e, 0x75, 0x6c, 0x6c] :=
  (encode_eq_flatMap "null").trans rfl

theorem encode_true : encode (compact (.bool true)) = [0x74, 0x72, 0x75, 0x65] :=
  (encode_eq_flatMap "true").trans rfl

theorem encode_false : encode (compact (.bool false)) = [0x66, 0x61, 0x6c, 0x73, 0x65] :=
  (encode_eq_flatMap "false").trans rfl

theorem encode_empty_array : encode (compact (.array [])) = [0x5b, 0x5d] :=
  (encode_eq_flatMap "[]").trans rfl

theorem encode_empty_object : encode (compact (.object [])) = [0x7b, 0x7d] :=
  (encode_eq_flatMap "\x7b\x7d").trans rfl

theorem encode_no_items : encode (compactItems []) = [] := (encode_eq_flatMap "").trans rfl

theorem encode_no_members : encode (compactMembers []) = [] := (encode_eq_flatMap "").trans rfl

/-- Each further item stands behind a comma. -/
theorem encode_items (v : Json) (vs : List Json) :
    encode (compactItems (v :: vs)) = 0x2c :: (encode v.compact ++ encode (compactItems vs)) := by
  have hcomma : encode "," = [0x2c] := (encode_eq_flatMap ",").trans rfl
  simp only [compactItems, encode_append, hcomma, List.cons_append, List.nil_append]

/-- The first item of an array stands behind its bracket. -/
theorem encode_array (v : Json) (vs : List Json) :
    encode (compact (.array (v :: vs)))
      = 0x5b :: (encode v.compact ++ (encode (compactItems vs) ++ [0x5d])) := by
  have hopening : encode "[" = [0x5b] := (encode_eq_flatMap "[").trans rfl
  have hclosing : encode "]" = [0x5d] := (encode_eq_flatMap "]").trans rfl
  simp only [compact, encode_append, hopening, hclosing, List.append_assoc, List.cons_append,
    List.nil_append]

/-- A member behind the quote that opens its name. -/
def memberBytes (k : String) (v : Json) : Bytes :=
  escaped k.toList ++ 0x22 :: 0x3a :: encode v.compact

/-- Each further member stands behind a comma, and its name in quotes. -/
theorem encode_members (k : String) (v : Json) (ms : List (String × Json)) :
    encode (compactMembers ((k, v) :: ms))
      = 0x2c :: 0x22 :: (memberBytes k v ++ encode (compactMembers ms)) := by
  have hcomma : encode "," = [0x2c] := (encode_eq_flatMap ",").trans rfl
  have hcolon : encode ":" = [0x3a] := (encode_eq_flatMap ":").trans rfl
  simp only [compactMembers, encode_append, hcomma, hcolon, encode_quote, memberBytes,
    List.append_assoc, List.cons_append, List.nil_append]

theorem encode_object (k : String) (v : Json) (ms : List (String × Json)) :
    encode (compact (.object ((k, v) :: ms)))
      = 0x7b :: 0x22 :: (memberBytes k v ++ (encode (compactMembers ms) ++ [0x7d])) := by
  have hopening : encode "\x7b" = [0x7b] := (encode_eq_flatMap "\x7b").trans rfl
  have hclosing : encode "\x7d" = [0x7d] := (encode_eq_flatMap "\x7d").trans rfl
  have hcolon : encode ":" = [0x3a] := (encode_eq_flatMap ":").trans rfl
  simp only [compact, encode_append, hopening, hclosing, hcolon, encode_quote, memberBytes,
    List.append_assoc, List.cons_append, List.nil_append]

end Callpoint.Json
