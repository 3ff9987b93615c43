/-!
# Binary floating point

Numbers with a 53 bit significand.  A finite number is kept as the integers it is made of, so that
every operation is integer arithmetic: an exact ratio is formed and rounded once, to the nearest
number and on a tie to the one with the even significand.
-/

namespace Callpoint.Number

/-- **A binary64 number.** `finite negative m q` stands for `± m · 2 ^ q`.  The numbers that
`Binary64.ofRatio` makes have `m < 2 ^ 53` and `-1074 ≤ q ≤ 971`, and `2 ^ 52 ≤ m` unless
`q = -1074`, so equal numbers of one sign are equal data. -/
inductive Binary64 where
  | finite (negative : Bool) (significand : Nat) (exponent : Int)
  | infinite (negative : Bool)
  | nan
deriving DecidableEq, Repr, Inhabited

namespace Binary64

/-- Zero with a sign. -/
def zero (negative : Bool) : Binary64 := .finite negative 0 (-1074)

/-- `num / den` to the nearest integer, a tie to the even one. -/
def divideToEven (num den : Nat) : Nat :=
  let q := num / den
  let r := num % den
  if 2 * r < den then q else if den < 2 * r then q + 1 else if q % 2 = 0 then q else q + 1

/-- `num / den · 2 ^ (-e)` to the nearest integer. -/
def scaledToEven (num den : Nat) (e : Int) : Nat :=
  if 0 ≤ e then divideToEven num (den * Nat.pow 2 e.toNat)
  else divideToEven (num * Nat.pow 2 (-e).toNat) den

/-- The exponent `e` with `2 ^ e ≤ num / den < 2 ^ (e + 1)`, for positive `num` and `den`. -/
def ratioExponent (num den : Nat) : Int :=
  let e : Int := (Nat.log2 num : Int) - (Nat.log2 den : Int)
  if 0 ≤ e then (if den * Nat.pow 2 e.toNat ≤ num then e else e - 1)
  else (if den ≤ num * Nat.pow 2 (-e).toNat then e else e - 1)

/-- The number nearest to `± num / den`. -/
def ofRatio (negative : Bool) (num den : Nat) : Binary64 :=
  if num = 0 then zero negative
  else
    let q := max (ratioExponent num den - 52) (-1074)
    let m := scaledToEven num den q
    let (m, q) := if m = Nat.pow 2 53 then (Nat.pow 2 52, q + 1) else (m, q)
    if 971 < q then .infinite negative else .finite negative m q

/-- The number nearest to a natural number. -/
def ofNat (n : Nat) : Binary64 := ofRatio false n 1

/-- The number nearest to an integer. -/
def ofInt (i : Int) : Binary64 := ofRatio (decide (i < 0)) i.natAbs 1

/-- The number nearest to `± digits · 10 ^ exponent`.  Beyond the range the answer is known without
forming the power. -/
def ofDecimal (negative : Bool) (digits : Nat) (exponent : Int) : Binary64 :=
  if digits = 0 then zero negative
  else
    let top : Int := (Nat.toDigits 10 digits).length + exponent
    if 310 < top then .infinite negative
    else if top < -330 then zero negative
    else if 0 ≤ exponent then ofRatio negative (digits * Nat.pow 10 exponent.toNat) 1
    else ofRatio negative digits (Nat.pow 10 (-exponent).toNat)

/-- The same number with its sign turned. -/
def neg : Binary64 → Binary64
  | .finite s m q => .finite (!s) m q
  | .infinite s => .infinite (!s)
  | .nan => .nan

/-- `± m · 2 ^ q` for any integers, rounded. -/
def ofScaled (negative : Bool) (m : Nat) (q : Int) : Binary64 :=
  if 0 ≤ q then ofRatio negative (m * Nat.pow 2 q.toNat) 1
  else ofRatio negative m (Nat.pow 2 (-q).toNat)

/-- The rounded product. -/
def mul : Binary64 → Binary64 → Binary64
  | .finite s m q, .finite s' m' q' => ofScaled (s != s') (m * m') (q + q')
  | .nan, _ | _, .nan => .nan
  | .infinite s, .finite s' m _ => if m = 0 then .nan else .infinite (s != s')
  | .finite s m _, .infinite s' => if m = 0 then .nan else .infinite (s != s')
  | .infinite s, .infinite s' => .infinite (s != s')

/-- The rounded quotient. -/
def div : Binary64 → Binary64 → Binary64
  | .finite s m q, .finite s' m' q' =>
    if m' = 0 then (if m = 0 then .nan else .infinite (s != s'))
    else if q' ≤ q then ofRatio (s != s') (m * Nat.pow 2 (q - q').toNat) m'
    else ofRatio (s != s') m (m' * Nat.pow 2 (q' - q).toNat)
  | .nan, _ | _, .nan => .nan
  | .infinite _, .infinite _ => .nan
  | .infinite s, .finite s' _ _ => .infinite (s != s')
  | .finite s _ _, .infinite s' => zero (s != s')

/-- Whether the number is neither infinite nor no number. -/
def isFinite : Binary64 → Bool
  | .finite .. => true
  | _ => false

/-- Equality as numbers: the two zeros are equal and nothing equals what is no number. -/
def sameNumber : Binary64 → Binary64 → Bool
  | .finite s m q, .finite s' m' q' => (m == 0 && m' == 0) || (s == s' && m == m' && q == q')
  | .infinite s, .infinite s' => s == s'
  | _, _ => false

end Binary64

end Callpoint.Number
