import Callpoint.Json.Reading
import Callpoint.Json.Text
import Callpoint.Proofs.Number.Decimal
import Callpoint.Proofs.Results
import Callpoint.Proofs.Text.Utf8

/-!
# Integers are read back

The text of an integer is a numeral without a fraction and without an exponent, and its digits are
taken into a significand without loss as long as they fit 64 bits (`takeDigits_digitBytes`).  So an
integer that fits is read as that integer (`numeral_digitBytes`), if what is behind it is no part of
a numeral (`EndsNumeral`).
-/

namespace Callpoint.Json

open Callpoint.Text Callpoint.Number

/-- **What is behind a numeral is no part of it:** the bytes begin with no digit, point or exponent
letter. -/
def EndsNumeral (rest : Bytes) : Prop :=
  ∀ b ∈ rest.head?, isDigit b = false ∧ b ≠ 0x2e ∧ b ≠ 0x65 ∧ b ≠ 0x45

theorem endsNumeral_nil : EndsNumeral [] := by rintro _ ⟨⟩

theorem endsNumeral_cons {b : UInt8} (h : isDigit b = false ∧ b ≠ 0x2e ∧ b ≠ 0x65 ∧ b ≠ 0x45)
    (rest : Bytes) : EndsNumeral (b :: rest) := by
  intro c hc
  rwa [← Option.some.inj hc]

/-- The digits of a number as bytes. -/
def digitBytes (n : Nat) : Bytes := (Nat.toDigits 10 n).map fun c => UInt8.ofNat c.toNat

/-! ### Digits -/

theorem toNat_of_isDigit {c : Char} (h : c.isDigit = true) :
    (UInt8.ofNat c.toNat).toNat = c.toNat ∧ 0x30 ≤ c.toNat ∧ c.toNat ≤ 0x39 := by
  have hrange := Char.isDigit_iff_toNat.mp h
  have hlow : 0x30 ≤ c.toNat := hrange.1
  have hhigh : c.toNat ≤ 0x39 := hrange.2
  exact ⟨UInt8.toNat_ofNat_of_lt' (Nat.lt_of_le_of_lt hhigh (by decide)), hlow, hhigh⟩

theorem isDigit_of_mem_toDigits {n : Nat} {c : Char} (h : c ∈ Nat.toDigits 10 n) :
    c.isDigit = true :=
  Nat.isDigit_of_mem_toDigits (by decide) (by decide) h

theorem isDigit_of_mem_digitBytes {n : Nat} {b : UInt8} (h : b ∈ digitBytes n) :
    isDigit b = true := by
  obtain ⟨c, hc, rfl⟩ := List.mem_map.mp h
  obtain ⟨hnat, hlow, hhigh⟩ := toNat_of_isDigit (isDigit_of_mem_toDigits hc)
  simp only [isDigit, Bool.and_eq_true, decide_eq_true_eq, UInt8.le_iff_toNat_le, hnat]
  exact ⟨hlow, hhigh⟩

theorem digitBytes_zero : digitBytes 0 = [0x30] := rfl

theorem digitBytes_ne_nil (n : Nat) : digitBytes n ≠ [] := by
  unfold digitBytes
  rw [Ne, List.map_eq_nil_iff]
  exact Nat.toDigits_ne_nil

/-- The digits of a number do not begin with zero. -/
theorem head?_toDigits_ne (n : Nat) (hpos : 0 < n) : (Nat.toDigits 10 n).head? ≠ some '0' := by
  -- By induction along the digits from the last one on: the first digit is that of a smaller
  -- number, down to a number of one digit.
  induction n using Nat.strongRecOn with
  | _ n ih =>
    rw [Nat.toDigits_eq_if (by decide)]
    split
    · next hlt =>
      have hone : ∀ d < 10, 0 < d → [Nat.digitChar d].head? ≠ some '0' := by decide
      exact hone n hlt hpos
    · next hle =>
      have hdiv : 0 < n / 10 := Nat.div_pos (Nat.not_lt.mp hle) (by decide)
      have hless : n / 10 < n := Nat.div_lt_self hpos (by decide)
      rw [List.head?_append, List.head?_eq_some_head Nat.toDigits_ne_nil, Option.some_or,
        ← List.head?_eq_some_head]
      exact ih _ hless hdiv

/-- Only the number zero begins with the digit zero. -/
theorem head?_digitBytes_ne {n : Nat} (hpos : 0 < n) : (digitBytes n).head? ≠ some 0x30 := by
  unfold digitBytes
  rw [List.head?_map]
  intro hhead
  obtain ⟨c, hc, hbyte⟩ := Option.map_eq_some_iff.mp hhead
  have hdigit := isDigit_of_mem_toDigits (List.mem_of_head? hc)
  have hnat : c.toNat = '0'.toNat := by
    rw [← (toNat_of_isDigit hdigit).1, hbyte]
    rfl
  exact head?_toDigits_ne n hpos (by rw [hc, Char.toNat_inj.mp hnat])

/-! ### Significands -/

/-- A significand does not get smaller by further digits. -/
theorem le_ofDigitChars (cs : List Char) (m : Nat) : m ≤ Nat.ofDigitChars 10 cs m := by
  rw [Nat.ofDigitChars_eq_ofDigitChars_zero]
  have hpow : 1 ≤ 10 ^ cs.length := Nat.one_le_pow _ _ (by decide)
  have hmul := Nat.mul_le_mul_right m hpow
  omega

/-- Digits are taken as long as the significand fits, which it does at the end and so before. -/
theorem takeDigits_map {cs : List Char} (hcs : ∀ c ∈ cs, c.isDigit = true) {m : Nat}
    (hfits : Nat.ofDigitChars 10 cs m ≤ maxUnsigned) :
    takeDigits m (cs.map fun c => UInt8.ofNat c.toNat) = (Nat.ofDigitChars 10 cs m, []) := by
  induction cs generalizing m with
  | nil => rfl
  | cons c cs ih =>
    obtain ⟨hc, hcs⟩ := List.forall_mem_cons.mp hcs
    have hvalue : m * 10 + digitValue (UInt8.ofNat c.toNat) = 10 * m + (c.toNat - '0'.toNat) := by
      rw [digitValue, (toNat_of_isDigit hc).1, Nat.mul_comm]
      rfl
    rw [Nat.ofDigitChars_cons] at hfits ⊢
    rw [List.map_cons, takeDigits, hvalue, if_pos (Nat.le_trans (le_ofDigitChars cs _) hfits)]
    exact ih hcs hfits

/-- **The digits of a number that fits are taken without loss.** -/
theorem takeDigits_digitBytes {n : Nat} (h : n ≤ maxUnsigned) :
    takeDigits 0 (digitBytes n) = (n, []) := by
  have hvalue : Nat.ofDigitChars 10 (Nat.toDigits 10 n) 0 = n := Nat.ofDigitChars_ten_toDigits
  unfold digitBytes
  rw [takeDigits_map (fun c hc => isDigit_of_mem_toDigits hc) (by rwa [hvalue]), hvalue]

/-! ### Numerals -/

variable {rest : Bytes}

/-- Behind a numeral there is no exponent. -/
theorem readExponent?_of_ends (h : EndsNumeral rest) : readExponent? rest = .ok (none, rest) := by
  cases rest with
  | nil => rfl
  | cons b rest =>
    obtain ⟨-, -, hlower, hupper⟩ := h b rfl
    exact if_neg (not_or.mpr ⟨hlower, hupper⟩)

/-- The digits end where the numeral does. -/
theorem takeWhile_append_ends {ds : Bytes} (hds : ∀ d ∈ ds, isDigit d = true)
    (h : EndsNumeral rest) :
    (ds ++ rest).takeWhile isDigit = ds ∧ (ds ++ rest).dropWhile isDigit = rest := by
  rw [List.takeWhile_append_of_pos hds, List.dropWhile_append_of_pos hds]
  cases rest with
  | nil => simp
  | cons b rest =>
    have hb : ¬ isDigit b = true := by simp [(h b rfl).1]
    rw [List.takeWhile_cons_of_neg hb, List.dropWhile_cons_of_neg hb, List.append_nil]
    exact ⟨rfl, rfl⟩

/-- **The digits of a number are a numeral.** -/
theorem read_digitBytes (negative : Bool) (n : Nat) (h : EndsNumeral rest) :
    Numeral.read negative (digitBytes n ++ rest)
      = .ok (⟨negative, digitBytes n, none, none⟩, rest) := by
  have hexponent := readExponent?_of_ends h
  have hpoint : ∀ r, rest = 0x2e :: r → False := by
    rintro r rfl
    exact (h _ rfl).2.1 rfl
  -- Zero has a case of its own in the reader, which lets no digit follow it.
  rcases Nat.eq_zero_or_pos n with rfl | hpos
  · cases rest with
    | nil => rfl
    | cons b rest =>
      have hdigit := (h b rfl).1
      simp only [Numeral.read, digitBytes_zero, List.cons_append, List.nil_append, hdigit, ok_bind,
        hexponent, Bool.false_eq_true, if_false]
      rfl
  · obtain ⟨d, ds, hds⟩ := List.exists_cons_of_ne_nil (digitBytes_ne_nil n)
    have hall : ∀ b ∈ d :: ds, isDigit b = true := fun b hb =>
      isDigit_of_mem_digitBytes (hds ▸ hb)
    obtain ⟨hdigit, hmore⟩ := List.forall_mem_cons.mp hall
    have hfirst : d ≠ 0x30 := fun heq => head?_digitBytes_ne hpos (by rw [hds, heq]; rfl)
    obtain ⟨htake, hdrop⟩ := takeWhile_append_ends hmore h
    simp only [Numeral.read, hds, List.cons_append, hdigit, htake, hdrop, if_true, ok_bind,
      hexponent]
    rfl

/-- **An integer that fits is read as that integer.** -/
theorem numeral_digitBytes {i : Int} (hfits : -0x8000000000000000 ≤ i ∧ i < 0x10000000000000000)
    (h : EndsNumeral rest) :
    Reading.numeral (decide (i < 0)) (digitBytes i.natAbs ++ rest)
      = (.number (.ok (.int i)), some rest) := by
  have hsize : i.natAbs ≤ maxUnsigned := by
    show i.natAbs ≤ 0xffffffffffffffff
    omega
  have hvalue : Numeral.value ⟨decide (i < 0), digitBytes i.natAbs, none, none⟩ rest
      = .ok (.int i) := by
    unfold Numeral.value
    simp only [takeDigits_digitBytes hsize]
    by_cases hneg : i < 0
    · -- Behind a minus sign, zero and what is below the least integer are binary numbers.
      have hlow : ¬ (i.natAbs = 0 ∨ Nat.pow 2 63 < i.natAbs) := by
        show ¬ (i.natAbs = 0 ∨ 0x8000000000000000 < i.natAbs)
        omega
      have habs : -(i.natAbs : Int) = i := by omega
      simp only [hneg, decide_true, Bool.not_true, Bool.false_eq_true, if_false, hlow, habs]
    · have habs : (i.natAbs : Int) = i := by omega
      simp only [hneg, decide_false, Bool.not_false, if_true, habs]
  unfold Reading.numeral
  rw [read_digitBytes _ _ h]
  dsimp only
  rw [hvalue]

/-- The text of an integer as bytes. -/
theorem encode_toString (i : Int) :
    encode (toString i)
      = if i < 0 then 0x2d :: digitBytes i.natAbs else digitBytes i.natAbs := by
  have hdigits : ∀ n, (Nat.toDigits 10 n).flatMap String.utf8EncodeChar = digitBytes n := by
    intro n
    refine flatMap_utf8EncodeChar_of_ascii fun c hc => ?_
    have hrange := toNat_of_isDigit (isDigit_of_mem_toDigits hc)
    omega
  rw [encode_eq_flatMap, toList_toString_int]
  split
  · rw [List.flatMap_cons, hdigits]
    rfl
  · exact hdigits _

end Callpoint.Json
