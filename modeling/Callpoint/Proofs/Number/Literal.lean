import Callpoint.Number.Literal
import Callpoint.Proofs.Number.Exact

/-!
# Literals of whole numbers

A text that reads as an integer reads as a binary number as well: its digits make up the number, and
there is neither a point nor an exponent (`binary?_of_integer?`).  Up to `2 ^ 53` the two have one
value (`value?_of_integer?`).
-/

namespace Callpoint.Number

variable {cs : List Char} {n m : Nat} {i : Int} {negative : Bool}

/-! ### Digits -/

theorem isDigit_of_digitValue? {c : Char} (h : digitValue? c = some n) : c.isDigit = true := by
  obtain ⟨⟨hlow, hhigh⟩, -⟩ := Option.ite_none_right_eq_some.mp h
  exact Bool.and_eq_true_iff.mpr ⟨decide_eq_true hlow, decide_eq_true hhigh⟩

theorem isDigit_of_digitsFrom? (h : digitsFrom? m cs = some n) : ∀ c ∈ cs, c.isDigit = true := by
  induction cs generalizing m with
  | nil => exact fun _ hc => nomatch hc
  | cons c cs ih =>
    obtain ⟨digit, hdigit, hrest⟩ := Option.bind_eq_some_iff.mp h
    exact List.forall_mem_cons.mpr ⟨isDigit_of_digitValue? hdigit, ih hrest⟩

theorem ne_nil_of_digits? (h : digits? cs = some n) : cs ≠ [] := by
  rintro rfl
  cases h

theorem isDigit_of_digits? (h : digits? cs = some n) : ∀ c ∈ cs, c.isDigit = true := by
  rw [digits?, if_neg (by simpa using ne_nil_of_digits? h)] at h
  exact isDigit_of_digitsFrom? h

/-! ### Binary numbers -/

/-- A number of at most 64 bits is rounded as it stands. -/
theorem ofDecimal_zero (negative : Bool) (hn : n < 2 ^ 64) :
    Binary64.ofDecimal negative n 0 = Binary64.ofRatio negative n 1 := by
  unfold Binary64.ofDecimal
  split
  · next hzero =>
    rw [hzero]
    rfl
  · have hlength : (Nat.toDigits 10 n).length ≤ 20 :=
      (Nat.length_toDigits_le_iff (by decide) (by decide)).mpr (Nat.lt_of_lt_of_le hn (by decide))
    simp only
    rw [if_neg (by omega), if_neg (by omega), if_pos (Int.le_refl 0)]
    simp

theorem toLower_of_isDigit {c : Char} (h : c.isDigit = true) : c.toLower = c := by
  have hhigh : c.val ≤ '9'.val := of_decide_eq_true (Bool.and_eq_true_iff.mp h).2
  refine dif_neg fun hupper => absurd (UInt32.le_trans hupper.1 hhigh) (by decide)

/-- A word of letters is not one of digits. -/
theorem lowered_ne (letters : List Char) (h : digits? cs = some n)
    (hletters : letters.all (!·.isDigit) = true) :
    String.ofList (cs.map Char.toLower) ≠ String.ofList letters := by
  intro heq
  obtain ⟨c, rest, rfl⟩ := List.exists_cons_of_ne_nil (ne_nil_of_digits? h)
  have hc := isDigit_of_digits? h c List.mem_cons_self
  have hmem : c.toLower ∈ letters := by
    rw [← String.ofList_inj.mp heq]
    exact List.mem_cons_self
  rw [toLower_of_isDigit hc] at hmem
  exact absurd (List.all_eq_true.mp hletters c hmem) (by simp [hc])

theorem unsignedBinary?_of_digits? (negative : Bool) (h : digits? cs = some n) (hn : n < 2 ^ 64) :
    unsignedBinary? negative cs = some (Binary64.ofRatio negative n 1) := by
  have hdigits := isDigit_of_digits? h
  have hspan : spanDigits cs = (cs, []) := by
    have htake := @List.takeWhile_append_of_pos _ Char.isDigit cs [] hdigits
    have hdrop := @List.dropWhile_append_of_pos _ Char.isDigit cs [] hdigits
    rw [List.append_nil] at htake hdrop
    rw [spanDigits, htake, hdrop]
    simp
  have hinf := lowered_ne "inf".toList h (by decide)
  have hinfinity := lowered_ne "infinity".toList h (by decide)
  have hnan := lowered_ne "nan".toList h (by decide)
  rw [String.ofList_toList] at hinf hinfinity hnan
  rw [← ofDecimal_zero negative hn, unsignedBinary?]
  simp only [hinf, hinfinity, hnan, or_self, if_false, hspan, List.append_nil, h]
  rfl

/-- **Integers are read as binary numbers.** -/
theorem binary?_of_integer? (h : integer? cs = some i) :
    ∃ negative n, binary? cs = some (Binary64.ofRatio negative n 1) ∧
      i = (if negative then -(n : Int) else n) ∧ n < 2 ^ 64 := by
  have hbounded : ∀ j : Int, (if -0x8000000000000000 ≤ j ∧ j < 0x8000000000000000 then some j
      else none) = some i → i = j ∧ j.natAbs < 2 ^ 64 := by
    intro j hj
    obtain ⟨hrange, heq⟩ := Option.ite_none_right_eq_some.mp hj
    exact ⟨(Option.some.inj heq).symm, by omega⟩
  unfold integer? at h
  simp only at h
  split at h
  · obtain ⟨n, hn, hbound⟩ := Option.bind_eq_some_iff.mp h
    obtain ⟨rfl, hlt⟩ := hbounded _ hbound
    exact ⟨false, n, unsignedBinary?_of_digits? false hn hlt, rfl, hlt⟩
  · obtain ⟨n, hn, hbound⟩ := Option.bind_eq_some_iff.mp h
    obtain ⟨rfl, hlt⟩ := hbounded _ hbound
    rw [Int.natAbs_neg] at hlt
    exact ⟨true, n, unsignedBinary?_of_digits? true hn hlt, rfl, hlt⟩
  · next hplus hminus =>
    obtain ⟨n, hn, hbound⟩ := Option.bind_eq_some_iff.mp h
    obtain ⟨rfl, hlt⟩ := hbounded _ hbound
    have hunsigned : binary? cs = unsignedBinary? false cs := by
      unfold binary?
      split
      · exact absurd rfl (hplus _)
      · exact absurd rfl (hminus _)
      · rfl
    exact ⟨false, n, hunsigned.trans (unsignedBinary?_of_digits? false hn hlt), rfl, hlt⟩

/-- **Small integers are read exactly.** -/
theorem value?_of_integer? (h : integer? cs = some i) (hsmall : i.natAbs ≤ 2 ^ 53) :
    ∃ x, binary? cs = some x ∧ x.isFinite = true ∧ x.value? = some (i : ℚ) := by
  obtain ⟨negative, n, hread, rfl, hn⟩ := binary?_of_integer? h
  have hle : n ≤ 2 ^ 53 := by cases negative <;> simpa using hsmall
  refine ⟨_, hread, Binary64.isFinite_ofRatio_one negative hn, ?_⟩
  rw [Binary64.value?_ofRatio_one negative hle]
  cases negative <;> simp

end Callpoint.Number
