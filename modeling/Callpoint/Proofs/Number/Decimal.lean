import Callpoint.Number.Literal

/-!
# Decimal texts of integers

An integer is written with the digits of its size, behind a minus sign if it is negative
(`toList_toString_int`).  The digits of a number are read as that number (`digits?_toDigits`), so
the text of an integer is read as that integer, as long as it fits 64 bits with a sign
(`integer?_toString`).
-/

namespace Callpoint.Number

variable {cs : List Char}

theorem digitValue?_of_isDigit {c : Char} (h : c.isDigit = true) :
    digitValue? c = some (c.toNat - '0'.toNat) := by
  have hrange := Bool.and_eq_true_iff.mp h
  exact if_pos ⟨of_decide_eq_true hrange.1, of_decide_eq_true hrange.2⟩

theorem digitsFrom?_of_isDigit (h : ∀ c ∈ cs, c.isDigit = true) (n : Nat) :
    digitsFrom? n cs = some (Nat.ofDigitChars 10 cs n) := by
  induction cs generalizing n with
  | nil => rfl
  | cons c cs ih =>
    obtain ⟨hc, hcs⟩ := List.forall_mem_cons.mp h
    rw [digitsFrom?, digitValue?_of_isDigit hc, Nat.ofDigitChars_cons, Nat.mul_comm 10]
    exact ih hcs _

/-- **The digits of a number are read as the number.** -/
theorem digits?_toDigits (n : Nat) : digits? (Nat.toDigits 10 n) = some n := by
  have hdigits : ∀ c ∈ Nat.toDigits 10 n, c.isDigit = true :=
    fun c hc => Nat.isDigit_of_mem_toDigits (by decide) (by decide) hc
  have hne : ¬ (Nat.toDigits 10 n).isEmpty = true := by simp [Nat.toDigits_ne_nil]
  rw [digits?, if_neg hne, digitsFrom?_of_isDigit hdigits, Nat.ofDigitChars_ten_toDigits]

theorem toList_toString_int (i : Int) :
    (toString i).toList
      = if i < 0 then '-' :: Nat.toDigits 10 i.natAbs else Nat.toDigits 10 i.natAbs := by
  cases i with
  | ofNat n =>
    show (Nat.repr n).toList = _
    have hpos : ¬ Int.ofNat n < 0 := Int.not_lt.mpr (Int.natCast_nonneg n)
    rw [Nat.toList_repr, if_neg hpos]
    rfl
  | negSucc n =>
    show ("-" ++ Nat.repr (n + 1)).toList = _
    rw [String.toList_append, Nat.toList_repr, if_pos (Int.negSucc_lt_zero n)]
    rfl

/-- **The text of an integer is read as that integer,** if it fits 64 bits with a sign. -/
theorem integer?_toString (i : Int) :
    integer? (toString i).toList
      = if -0x8000000000000000 ≤ i ∧ i < 0x8000000000000000 then some i else none := by
  rw [toList_toString_int]
  have hread := digits?_toDigits i.natAbs
  split
  · next hneg =>
    have hsize : -(i.natAbs : Int) = i := by omega
    simp only [integer?, hread, Option.bind_eq_bind, Option.bind_some, hsize]
  · next hpos =>
    have hsize : (i.natAbs : Int) = i := by omega
    -- The first character is a digit, so that it is none of the signs.
    have hdigit : ∀ c ∈ Nat.toDigits 10 i.natAbs, c.isDigit = true :=
      fun c hc => Nat.isDigit_of_mem_toDigits (by decide) (by decide) hc
    unfold integer?
    simp only
    split
    · next heq => exact absurd (hdigit '+' (heq ▸ List.mem_cons_self)) (by decide)
    · next heq => exact absurd (hdigit '-' (heq ▸ List.mem_cons_self)) (by decide)
    · rw [hread, Option.bind_eq_bind, Option.bind_some, hsize]

end Callpoint.Number
