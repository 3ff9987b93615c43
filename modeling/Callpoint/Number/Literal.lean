import Callpoint.Number.Binary64

/-!
# Number literals

Texts that stand for numbers in rules, examples and settings: a sign, decimal digits, and for binary
numbers a point, an exponent and the words for infinity and for no number.
-/

namespace Callpoint.Number

/-- The value of a decimal digit. -/
def digitValue? (c : Char) : Option Nat :=
  if '0' ≤ c ∧ c ≤ '9' then some (c.toNat - 0x30) else none

/-- The value of decimal digits, continuing `n`; all characters must be digits. -/
def digitsFrom? (n : Nat) : List Char → Option Nat
  | [] => some n
  | c :: cs => do digitsFrom? (n * 10 + (← digitValue? c)) cs

/-- The value of at least one decimal digit. -/
def digits? (cs : List Char) : Option Nat :=
  if cs.isEmpty then none else digitsFrom? 0 cs

/-- A natural number below `2 ^ bits`, with an optional plus sign. -/
def natural? (bits : Nat) (cs : List Char) : Option Nat := do
  let n ← digits? (match cs with
    | '+' :: rest => rest
    | _ => cs)
  if n < Nat.pow 2 bits then some n else none

/-- An integer of 64 bits with an optional sign. -/
def integer? (cs : List Char) : Option Int :=
  let bounded (i : Int) : Option Int :=
    if -0x8000000000000000 ≤ i ∧ i < 0x8000000000000000 then some i else none
  match cs with
  | '+' :: rest => digits? rest >>= fun n => bounded n
  | '-' :: rest => digits? rest >>= fun n => bounded (-n)
  | _ => digits? cs >>= fun n => bounded n

/-- The digits of a text and what follows them. -/
def spanDigits (cs : List Char) : List Char × List Char :=
  (cs.takeWhile Char.isDigit, cs.dropWhile Char.isDigit)

/-- An exponent with its sign. -/
def exponent? (cs : List Char) : Option Int :=
  match cs with
  | '+' :: rest => (digits? rest).map fun n => (n : Int)
  | '-' :: rest => (digits? rest).map fun n => -(n : Int)
  | _ => (digits? cs).map fun n => (n : Int)

/-- A binary number without its sign. -/
def unsignedBinary? (negative : Bool) (cs : List Char) : Option Binary64 :=
  let word := String.ofList (cs.map Char.toLower)
  if word = "inf" ∨ word = "infinity" then some (.infinite negative)
  else if word = "nan" then some .nan
  else
    let (whole, rest) := spanDigits cs
    let (fraction, rest) := match rest with
      | '.' :: r => spanDigits r
      | r => ([], r)
    match digits? (whole ++ fraction) with
    | none => none
    | some n =>
      let value (e : Int) := Binary64.ofDecimal negative n (e - fraction.length)
      match rest with
      | [] => some (value 0)
      | c :: r => if c = 'e' ∨ c = 'E' then (exponent? r).map value else none

/-- The binary number nearest to what a text says. -/
def binary? : List Char → Option Binary64
  | '+' :: cs => unsignedBinary? false cs
  | '-' :: cs => unsignedBinary? true cs
  | cs => unsignedBinary? false cs

end Callpoint.Number
