import Callpoint.Number.Binary64

/-!
# Shortest decimal text

The digits written for a binary number are the fewest that read back as the same number, and of
those the ones nearest to it.  `shortestDigits` looks at the two neighbours of the number on the
decimal grids of 1, 2, … 17 digits; `Binary64.text` lays the digits out.
-/

namespace Callpoint.Number

/-- **Decimal digits with a place.** `digits · 10 ^ exponent`. -/
structure Decimal where
  digits : Nat
  exponent : Int
deriving DecidableEq, Repr

/-- `⌊n / 10 ^ e · 2 ^ q⌋` and whether that is exact, for `n · 2 ^ q` and a grid of `10 ^ e`. -/
def gridFloor (n : Nat) (q e : Int) : Nat × Nat × Nat :=
  let num := n * Nat.pow 2 q.toNat * Nat.pow 10 (-e).toNat
  let den := Nat.pow 2 (-q).toNat * Nat.pow 10 e.toNat
  (num / den, num % den, den)

/-- Whether `d · 10 ^ e` reads back as `m · 2 ^ q`: its distance from it is less than half of the
distance to the next number on that side, or equal to it when `m` is even. -/
def readsBack (m : Nat) (q : Int) (d : Nat) (e : Int) : Bool :=
  Binary64.ofDecimal false d e == .finite false m q

/-- The nearer of the two grid points `d` and `d + 1` around a number, when `r / den` is how far
the number lies above `d`; `low` and `high` say which of the two read back. -/
def nearerPoint (d r den : Nat) (low high : Bool) : Option Nat :=
  match low, high with
  | false, false => none
  | true, false => some d
  | false, true => some (d + 1)
  | true, true =>
    if 2 * r < den then some d else if den < 2 * r then some (d + 1)
    else some (if d % 2 = 0 then d else d + 1)

/-- The decimal exponent of `m · 2 ^ q`: the greatest `k` with `10 ^ k ≤ m · 2 ^ q`, searched
downwards from `k` for at most `fuel` steps. -/
def decimalExponentFrom (m : Nat) (q : Int) : Nat → Int → Int
  | 0, k => k
  | fuel + 1, k =>
    if Nat.pow 10 k.toNat * Nat.pow 2 (-q).toNat ≤ m * Nat.pow 2 q.toNat * Nat.pow 10 (-k).toNat
    then k
    else decimalExponentFrom m q fuel (k - 1)

/-- The decimal exponent of a positive binary number.  The search starts at an estimate that is
never too small. -/
def decimalExponent (m : Nat) (q : Int) : Int :=
  let bits : Int := (Nat.log2 m : Int) + 1 + q
  let start : Int := if 0 ≤ bits then bits * 30103 / 100000 + 1 else bits * 30102 / 100000 + 1
  decimalExponentFrom m q 4 start

/-- The first grid, from `count` digits on, that has a point reading back as the number. -/
def digitsOnGrid (m : Nat) (q k : Int) : Nat → Nat → Decimal
  | 0, _ => ⟨m, 0⟩
  | fuel + 1, count =>
    let e := k - (count : Int) + 1
    let (d, r, den) := gridFloor m q e
    match nearerPoint d r den (readsBack m q d e) (readsBack m q (d + 1) e) with
    | some d => ⟨d, e⟩
    | none => digitsOnGrid m q k fuel (count + 1)

/-- A decimal without the zeros at its end. -/
def Decimal.strip (d : Decimal) : Nat → Decimal
  | 0 => d
  | fuel + 1 => if d.digits ≠ 0 ∧ d.digits % 10 = 0 then
      Decimal.strip ⟨d.digits / 10, d.exponent + 1⟩ fuel
    else d

/-- The fewest digits that read back as `m · 2 ^ q`. -/
def shortestDigits (m : Nat) (q : Int) : Decimal :=
  (digitsOnGrid m q (decimalExponent m q) 17 1).strip 20

/-- The digits of a natural number. -/
def digitChars (n : Nat) : List Char := Nat.toDigits 10 n

/-- Digits with a point inside or around them, for the place `point` of the point counted from the
first digit; a whole number ends in `.0`. -/
def positional (ds : List Char) (point : Int) : List Char :=
  if point ≤ 0 then ['0', '.'] ++ List.replicate (-point).toNat '0' ++ ds
  else if ds.length ≤ point.toNat then
    ds ++ List.replicate (point.toNat - ds.length) '0' ++ ['.', '0']
  else ds.take point.toNat ++ '.' :: ds.drop point.toNat

/-- Digits with the point behind the first one and an exponent with its sign. -/
def scientific (ds : List Char) (e : Int) : List Char :=
  let mantissa := match ds with
    | [] => []
    | [d] => [d]
    | d :: rest => d :: '.' :: rest
  mantissa ++ ['e', if e < 0 then '-' else '+'] ++ digitChars e.natAbs

/-- **The text of a decimal.** Exponents from -5 to 15 are written out, others with an `e`. -/
def Decimal.text (d : Decimal) : List Char :=
  let ds := digitChars d.digits
  let e : Int := d.exponent + ds.length - 1
  if -5 ≤ e ∧ e ≤ 15 then positional ds (e + 1) else scientific ds e

/-- The shortest text of a finite number; `none` for the others, which have no numeral. -/
def Binary64.text? : Binary64 → Option String
  | .finite s m q =>
    let body := if m = 0 then ['0', '.', '0'] else (shortestDigits m q).text
    some (String.ofList (if s then '-' :: body else body))
  | _ => none

end Callpoint.Number
