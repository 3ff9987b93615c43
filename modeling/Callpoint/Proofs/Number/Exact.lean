import Mathlib.Algebra.Order.Field.Rat
import Mathlib.Algebra.Order.Ring.Rat
import Mathlib.Algebra.Order.Field.Power
import Mathlib.Tactic.NormNum
import Callpoint.Number.Binary64

/-!
# Integers that binary numbers have exactly

A natural number up to `2 ^ 53` is rounded to itself: its quotient by the power of two that its
length asks for has no remainder (`value?_ofRatio_one`).  Longer ones may be rounded, but none of at
most 64 bits is infinite (`isFinite_ofRatio_one`).
-/

namespace Callpoint.Number.Binary64

/-- The value of a finite number. -/
def value? : Binary64 → Option ℚ
  | .finite negative m q => some ((if negative then -(m : ℚ) else m) * 2 ^ q)
  | _ => none

theorem divideToEven_mul (n : Nat) {den : Nat} (hden : 0 < den) :
    divideToEven (n * den) den = n := by
  rw [divideToEven, Nat.mul_mod_left, Nat.mul_div_cancel n hden]
  exact if_pos (by omega)

/-- The exponent of a whole number is one less than its length. -/
theorem ratioExponent_one {n : Nat} (hn : n ≠ 0) : ratioExponent n 1 = Nat.log2 n := by
  have hlog : Nat.log2 1 = 0 := by decide
  have hle : 1 * Nat.pow 2 ((Nat.log2 n : Int) - (Nat.log2 1 : Int)).toNat ≤ n := by
    rw [hlog, one_mul, Int.natCast_zero, sub_zero, Int.toNat_natCast]
    exact Nat.log2_self_le hn
  have hnonneg : (0 : Int) ≤ (Nat.log2 n : Int) - (Nat.log2 1 : Int) := by
    rw [hlog]
    omega
  rw [ratioExponent]
  simp only [if_pos hnonneg, if_pos hle]
  rw [hlog]
  omega

/-- A whole number below `2 ^ 64` is scaled by the exponent that its length asks for; it is far from
infinite, even if rounding carries. -/
theorem ofRatio_one (negative : Bool) {n : Nat} (hn : n ≠ 0) (hlt : n < 2 ^ 64) :
    ofRatio negative n 1
      = if scaledToEven n 1 ((Nat.log2 n : Int) - 52) = 2 ^ 53
        then .finite negative (2 ^ 52) ((Nat.log2 n : Int) - 51)
        else .finite negative (scaledToEven n 1 ((Nat.log2 n : Int) - 52))
          ((Nat.log2 n : Int) - 52) := by
  have hlog := (Nat.log2_lt hn).mpr hlt
  have hexponent : max (ratioExponent n 1 - 52) (-1074) = (Nat.log2 n : Int) - 52 := by
    rw [ratioExponent_one hn]
    omega
  have hcarry : (Nat.log2 n : Int) - 52 + 1 = (Nat.log2 n : Int) - 51 := by omega
  simp only [ofRatio, if_neg hn, hexponent, hcarry, Nat.pow_eq]
  split
  · exact if_neg (by omega)
  · exact if_neg (by omega)

theorem isFinite_ofRatio_one (negative : Bool) {n : Nat} (hlt : n < 2 ^ 64) :
    (ofRatio negative n 1).isFinite = true := by
  by_cases hn : n = 0
  · rw [hn]
    rfl
  · rw [ofRatio_one negative hn hlt]
    split <;> rfl

/-- A number of at most 53 bits is shifted until it has 53. -/
theorem scaledToEven_of_lt {n : Nat} (hn : n ≠ 0) (hlt : n < 2 ^ 53) :
    scaledToEven n 1 ((Nat.log2 n : Int) - 52) = n * 2 ^ (52 - Nat.log2 n) := by
  have hlog := (Nat.log2_lt hn).mpr hlt
  rw [scaledToEven]
  split
  · have hzero : ((Nat.log2 n : Int) - 52).toNat = 52 - Nat.log2 n := by omega
    have hshift : 52 - Nat.log2 n = 0 := by omega
    rw [hzero, hshift]
    simpa using divideToEven_mul n Nat.one_pos
  · have hshift : (-((Nat.log2 n : Int) - 52)).toNat = 52 - Nat.log2 n := by omega
    rw [hshift]
    simpa using divideToEven_mul (n * 2 ^ (52 - Nat.log2 n)) Nat.one_pos

/-- **Whole numbers of at most 53 bits are kept.** -/
theorem value?_ofRatio_one (negative : Bool) {n : Nat} (hle : n ≤ 2 ^ 53) :
    (ofRatio negative n 1).value? = some (if negative then -(n : ℚ) else n) := by
  by_cases hn : n = 0
  · rw [hn]
    cases negative <;> simp [ofRatio, zero, value?]
  have hfits : n < 2 ^ 64 := Nat.lt_of_le_of_lt hle (by decide)
  rcases Nat.eq_or_lt_of_le hle with rfl | hlt
  · -- The only one of 54 bits is a power of two.
    have hmade : ofRatio negative (2 ^ 53) 1 = .finite negative (2 ^ 52) 1 := by
      cases negative <;> decide
    rw [hmade]
    cases negative <;> norm_num [value?]
  · have hlog := (Nat.log2_lt hn).mpr hlt
    have hm : n * 2 ^ (52 - Nat.log2 n) < 2 ^ 53 := by
      calc n * 2 ^ (52 - Nat.log2 n) < 2 ^ (Nat.log2 n + 1) * 2 ^ (52 - Nat.log2 n) :=
            Nat.mul_lt_mul_of_pos_right Nat.lt_log2_self (Nat.two_pow_pos _)
        _ = 2 ^ 53 := by rw [← Nat.pow_add]; congr 1; omega
    have hshift : (n * 2 ^ (52 - Nat.log2 n) : ℚ) * 2 ^ ((Nat.log2 n : Int) - 52) = n := by
      have hsum : ((52 - Nat.log2 n : Nat) : Int) + ((Nat.log2 n : Int) - 52) = 0 := by omega
      rw [mul_assoc, ← zpow_natCast, ← zpow_add₀ two_ne_zero, hsum, zpow_zero, mul_one]
    rw [ofRatio_one negative hn hfits, scaledToEven_of_lt hn hlt, if_neg (Nat.ne_of_lt hm), value?]
    push_cast
    cases negative
    · simp only [Bool.false_eq_true, if_false, hshift]
    · simp only [if_true, neg_mul, hshift]

end Callpoint.Number.Binary64
