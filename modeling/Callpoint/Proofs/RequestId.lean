import Mathlib.Algebra.Group.Nat.Defs
import Callpoint.RequestId

/-!
# Reading an identifier back

The canonical text of an identifier writes it in digits from the left, and reading takes the digits
up again one by one: after each of them, the number read so far is what the digits before it and it
stand for (`digitsValue?_digits`).  So whoever reads the canonical text has the identifier
(`parse?_text`).
-/

namespace Callpoint.RequestId

theorem digitValue?_hexLower {n : Nat} (h : n < 16) : digitValue? (Text.hexLower n) = some n := by
  have hall : ∀ m : Fin 16, digitValue? (Text.hexLower m) = some m.val := by decide
  exact hall ⟨n, h⟩

theorem length_digits (r : RequestId) (start count : Nat) :
    (r.digits start count).length = count := by
  simp [digits]

theorem digits_succ (r : RequestId) (start count : Nat) :
    r.digits start (count + 1) = r.digit start :: r.digits (start + 1) count := by
  unfold digits
  rw [List.range_succ_eq_map, List.map_cons, List.map_map]
  refine congrArg _ (List.map_congr_left fun i _ => ?_)
  simp only [Function.comp_apply]
  congr 1
  omega

theorem digits_add (r : RequestId) (start m n : Nat) :
    r.digits start (m + n) = r.digits start m ++ r.digits (start + m) n := by
  induction m generalizing start with
  | zero => simp [digits]
  | succ m ih =>
    rw [Nat.succ_add_eq_add_succ, Nat.add_succ, digits_succ, digits_succ, ih, List.cons_append]
    rw [Nat.add_right_comm, Nat.add_assoc]

/-- The number that is read from some of the digits is the one that they write, behind what was read
before them. -/
theorem digitsValue?_digits (r : RequestId) (n start count rest : Nat)
    (h : start + count + rest = 32) :
    digitsValue? n (r.digits start count)
      = some (n * 16 ^ count + r.value.toNat / 16 ^ rest % 16 ^ count) := by
  induction count generalizing n start with
  | zero => simp [digits, digitsValue?, Nat.mod_one]
  | succ count ih =>
    have hplace : 31 - start = rest + count := by omega
    have hdigit : digitValue? (r.digit start) = some (r.value.toNat / 16 ^ (31 - start) % 16) :=
      digitValue?_hexLower (Nat.mod_lt _ (by decide))
    rw [digits_succ, digitsValue?, hdigit]
    show digitsValue? (n * 16 + r.value.toNat / 16 ^ (31 - start) % 16)
      (r.digits (start + 1) count) = _
    rw [ih _ _ (by omega), hplace]
    -- The digit that was read stands above those that are still to be read.
    have hsplit : r.value.toNat / 16 ^ rest % 16 ^ (count + 1)
        = r.value.toNat / 16 ^ rest % 16 ^ count
          + 16 ^ count * (r.value.toNat / 16 ^ (rest + count) % 16) := by
      rw [Nat.pow_succ, Nat.mod_mul, Nat.div_div_eq_div_mul, ← Nat.pow_add]
    rw [hsplit, Nat.add_mul, Nat.mul_assoc, ← Nat.pow_succ', Nat.mul_comm (16 ^ count),
      Nat.add_assoc, Nat.add_comm (_ * 16 ^ count)]

/-- The digits of an identifier are read as the identifier. -/
theorem ofDigits?_digits (r : RequestId) : ofDigits? (r.digits 0 32) = some r := by
  have hvalue : r.value.toNat / 16 ^ 0 % 16 ^ 32 = r.value.toNat := by
    rw [Nat.pow_zero, Nat.div_one]
    exact Nat.mod_eq_of_lt r.value.isLt
  unfold ofDigits?
  rw [if_pos (length_digits r 0 32), digitsValue?_digits r 0 0 32 0 rfl, hvalue, Nat.zero_mul, Nat.zero_add]
  show some (RequestId.mk (BitVec.ofNat 128 r.value.toNat)) = some r
  rw [BitVec.ofNat_toNat, BitVec.setWidth_eq]

/-- Groups of digits are read without the dashes between them. -/
theorem ofGroups?_join {a b c d e : List Char} (ha : a.length = 8) (hb : b.length = 4)
    (hc : c.length = 4) (hd : d.length = 4) (he : e.length = 12) :
    ofGroups? (a ++ '-' :: b ++ '-' :: c ++ '-' :: d ++ '-' :: e)
      = ofDigits? (a ++ b ++ c ++ d ++ e) := by
  simp [ofGroups?, List.getElem?_append, List.drop_append, List.drop_eq_nil_of_le, ha, hb, hc, hd,
    he]

/-- **The canonical text of an identifier is read as the identifier.** -/
theorem parse?_text (r : RequestId) : parse? r.text = some r := by
  have hlength : r.text.toList.length = 36 := by simp [text, length_digits]
  have hparse : parse? r.text = ofGroups? r.text.toList := by
    simp only [parse?, hlength, reduceIte, Nat.reduceEqDiff]
  have hgroups : r.digits 0 8 ++ r.digits 8 4 ++ r.digits 12 4 ++ r.digits 16 4 ++ r.digits 20 12
      = r.digits 0 32 := by
    rw [← digits_add, ← digits_add, ← digits_add, ← digits_add]
  rw [hparse, text, String.toList_ofList, ofGroups?_join, hgroups, ofDigits?_digits]
  all_goals exact length_digits r _ _

end Callpoint.RequestId
