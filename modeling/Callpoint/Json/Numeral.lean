import Callpoint.Json.Value
import Callpoint.Json.Fault

/-!
# JSON numerals

A numeral is read in two steps: its parts are split off (`Numeral.read`), then its value is formed
from them (`Numeral.value`).  Integers that fit 64 bits are exact.  Any other value is formed from
the leading digits that fit 64 bits and one multiplication or division by a power of ten.
-/

namespace Callpoint.Json

open Callpoint.Number

/-- **The parts of a numeral.** The digits before the point, the digits behind it if there is one,
and the exponent's sign and digits if it has one. -/
structure Numeral where
  negative : Bool
  whole : List UInt8
  fraction : Option (List UInt8)
  exponent : Option (Bool × List UInt8)

/-- Whether a byte is a decimal digit. -/
def isDigit (b : UInt8) : Bool := 0x30 ≤ b && b ≤ 0x39

/-- The value of a digit. -/
def digitValue (b : UInt8) : Nat := b.toNat - 0x30

/-- The greatest integer kept exactly. -/
def maxUnsigned : Nat := Nat.pow 2 64 - 1

/-- Digits taken into a significand as long as it fits 64 bits, and those left over. -/
def takeDigits (significand : Nat) : List UInt8 → Nat × List UInt8
  | [] => (significand, [])
  | d :: ds =>
    if significand * 10 + digitValue d ≤ maxUnsigned then
      takeDigits (significand * 10 + digitValue d) ds
    else (significand, d :: ds)

/-- A number times `10 ^ exponent`, in steps of at most `10 ^ 308`; `none` beyond the range. -/
def scaleByTen (fuel : Nat) (x : Binary64) (exponent : Int) : Option Binary64 :=
  if exponent.natAbs ≤ 308 then
    let power := Binary64.ofDecimal false 1 exponent.natAbs
    let y := if 0 ≤ exponent then x.mul power else x.div power
    if 0 ≤ exponent && !y.isFinite then none else some y
  else if x.sameNumber (.zero false) then some x
  else if 0 ≤ exponent then none
  else match fuel with
    | 0 => some (.zero false)
    | fuel + 1 => scaleByTen fuel (x.div (Binary64.ofDecimal false 1 308)) (exponent + 308)

/-- The binary number `± significand · 10 ^ exponent` as numerals form it. -/
def formBinary (negative : Bool) (significand : Nat) (exponent : Int) : Option Binary64 :=
  (scaleByTen 8 (Binary64.ofNat significand) exponent).map fun x => if negative then x.neg else x

/-- The greatest exponent that is read as such. -/
def maxExponent : Nat := Nat.pow 2 31 - 1

/-- The value of an exponent's digits, or the digits left when it grew too large. -/
def exponentValue (e : Nat) : List UInt8 → Except (List UInt8) Nat
  | [] => .ok e
  | d :: ds =>
    if e * 10 + digitValue d ≤ maxExponent then exponentValue (e * 10 + digitValue d) ds
    else .error ds

/-- The value of a numeral with a fraction, an exponent or too many digits, ahead of `rest`. -/
def Numeral.binary (n : Numeral) (rest : List UInt8) : Except Fault Json.Number :=
  let (wholePart, dropped) := takeDigits 0 n.whole
  let (significand, used) := match n.fraction with
    | none => (wholePart, 0)
    | some ds =>
      let (s, unused) := takeDigits wholePart ds
      (s, ds.length - unused.length)
  let start : Int := dropped.length - used
  let result (e : Int) : Except Fault Json.Number :=
    match formBinary n.negative significand e with
    | some x => .ok (.float x)
    | none => .error (Flaw.numberOutOfRange.before rest)
  match n.exponent with
  | none => result start
  | some (down, ds) =>
    match exponentValue 0 ds with
    | .ok e => result (if down then start - e else start + e)
    | .error unread =>
      if significand ≠ 0 && !down then .error (Flaw.numberOutOfRange.before (unread ++ rest))
      else .ok (.float (.zero n.negative))

/-- The value of a numeral ahead of `rest`. -/
def Numeral.value (n : Numeral) (rest : List UInt8) : Except Fault Json.Number :=
  match n.fraction, n.exponent, takeDigits 0 n.whole with
  | none, none, (m, []) =>
    if !n.negative then .ok (.int m)
    else if m = 0 ∨ Nat.pow 2 63 < m then .ok (.float (Binary64.ofNat m).neg)
    else .ok (.int (-m))
  | _, _, _ => n.binary rest

/-- The exponent behind its letter: its sign, its digits and what follows. -/
def readExponent (rest : List UInt8) : Except Fault ((Bool × List UInt8) × List UInt8) :=
  let (down, rest) := match rest with
    | 0x2b :: r => (false, r)
    | 0x2d :: r => (true, r)
    | r => (false, r)
  match rest with
  | [] => .error (Flaw.endInValue.before [])
  | d :: r =>
    if isDigit d then .ok ((down, d :: r.takeWhile isDigit), r.dropWhile isDigit)
    else .error (Flaw.invalidNumber.before r)

/-- An exponent, if a letter announces one. -/
def readExponent? (rest : List UInt8) :
    Except Fault (Option (Bool × List UInt8) × List UInt8) :=
  match rest with
  | b :: r =>
    if b = 0x65 ∨ b = 0x45 then (readExponent r).map fun (e, r) => (some e, r) else .ok (none, rest)
  | [] => .ok (none, [])

/-- The fraction behind its point, which has a digit. -/
def readFraction (rest : List UInt8) : Except Fault (List UInt8 × List UInt8) :=
  match rest with
  | [] => .error (Flaw.endInValue.atNext [])
  | d :: r =>
    if isDigit d then .ok (d :: r.takeWhile isDigit, r.dropWhile isDigit)
    else .error (Flaw.invalidNumber.atNext rest)

/-- A numeral behind its sign, and what follows it. -/
def Numeral.read (negative : Bool) (rest : List UInt8) : Except Fault (Numeral × List UInt8) := do
  let (whole, rest) ← match rest with
    | [] => .error (Flaw.endInValue.before [])
    | 0x30 :: r =>
      match r with
      | d :: _ => if isDigit d then .error (Flaw.invalidNumber.atNext r) else .ok ([0x30], r)
      | [] => .ok ([0x30], [])
    | d :: r =>
      if isDigit d then .ok (d :: r.takeWhile isDigit, r.dropWhile isDigit)
      else .error (Flaw.invalidNumber.before r)
  match rest with
  | 0x2e :: r =>
    let (fraction, r) ← readFraction r
    let (exponent, r) ← readExponent? r
    return (⟨negative, whole, some fraction, exponent⟩, r)
  | _ =>
    let (exponent, r) ← readExponent? rest
    return (⟨negative, whole, none, exponent⟩, r)

end Callpoint.Json
