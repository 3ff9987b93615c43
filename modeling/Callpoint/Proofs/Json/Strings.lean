import Callpoint.Json.StringToken
import Callpoint.Json.Text
import Callpoint.Proofs.Text.Utf8

/-!
# Strings are read back

Each character of a string is written as bytes from which the reader collects the bytes of that
character (`readString_escapeChar`): a letter behind a backslash, a unit of four digits, or the
bytes themselves.  What was collected by the closing quote are the bytes of the string, so the token has
the string as its content (`readString_escaped`).
-/

namespace Callpoint.Json

open Callpoint.Text

/-- The bytes of characters inside a string token. -/
def escaped (cs : List Char) : Bytes :=
  (cs.flatMap escapeChar).flatMap String.utf8EncodeChar

theorem encode_quote (s : String) :
    encode (quote s) = 0x22 :: (escaped s.toList ++ [0x22]) := by
  unfold quote escaped
  rw [encode_ofList, List.flatMap_cons, List.flatMap_append]
  rfl

/-- Bytes that stand for themselves inside a string token. -/
def IsRaw (b : UInt8) : Prop := b ≠ 0x22 ∧ b ≠ 0x5c ∧ ¬ b < 0x20

/-! ### Steps of the reader -/

section Steps

variable {collected rest : Bytes}

theorem readString_raw {bytes : Bytes} (hraw : ∀ b ∈ bytes, IsRaw b) (hrest : rest ≠ []) :
    readString collected none (bytes ++ rest)
      = readString (bytes.reverse ++ collected) none rest := by
  induction bytes generalizing collected with
  | nil => rfl
  | cons b bytes ih =>
    obtain ⟨⟨hquote, hslash, hlow⟩, hbytes⟩ := List.forall_mem_cons.mp hraw
    -- The reader looks at the next byte as well, so that there has to be one.
    obtain ⟨e, behind, hbehind⟩ :=
      List.exists_cons_of_ne_nil (List.append_ne_nil_of_right_ne_nil bytes hrest)
    have hstep : readString collected none (b :: e :: behind)
        = readString (b :: collected) none (e :: behind) := by
      rw [readString.eq_def]
      dsimp only
      rw [if_neg hquote, if_neg hslash, if_neg hlow]
    rw [List.cons_append, hbehind, hstep, ← hbehind, ih hbytes, List.reverse_cons,
      List.append_assoc, List.singleton_append]

theorem readString_simple {e x : UInt8} (h : simpleEscape? e = some x) :
    readString collected none (0x5c :: e :: rest) = readString (x :: collected) none rest := by
  have hquote : ¬ (0x5c : UInt8) = 0x22 := by decide
  rw [readString.eq_def]
  dsimp only
  rw [if_neg hquote, if_pos rfl, h]

theorem readString_unit {a b c d : UInt8} {n : Nat} (h : hexValue4? a b c d = some n)
    (hn : n < 0xd800) :
    readString collected none (0x5c :: 0x75 :: a :: b :: c :: d :: rest)
      = readString (encodeReversed n ++ collected) none rest := by
  have hquote : ¬ (0x5c : UInt8) = 0x22 := by decide
  have hletter : simpleEscape? 0x75 = none := by decide
  have hcode : codePoint n rest = .ok (n, 0) := by
    unfold codePoint
    rw [if_neg (by omega), if_pos (Or.inl hn)]
  rw [readString.eq_def]
  dsimp only
  rw [if_neg hquote, if_pos rfl, hletter]
  dsimp only
  rw [if_pos rfl, h]
  dsimp only
  rw [hcode]
  rfl

end Steps

/-! ### Characters -/

theorem toNat_hexLower : ∀ n < 16, (hexLower n).toNat < 0x80 := by decide

/-- A digit is read for the number that it writes. -/
theorem hexValue?_hexLower :
    ∀ n < 16, hexValue? (UInt8.ofNat (hexLower n).toNat) = some n := by decide

/-- A character above the control characters is written as it is. -/
theorem isRaw_of_mem_utf8EncodeChar {c : Char} (hquote : c ≠ '"') (hslash : c ≠ '\\')
    (hlow : ¬ c.toNat < 0x20) {b : UInt8} (hb : b ∈ String.utf8EncodeChar c) : IsRaw b := by
  by_cases hsmall : c.toNat < 0x80
  · rw [utf8EncodeChar_of_ascii hsmall, List.mem_singleton] at hb
    have hnat : b.toNat = c.toNat := by
      rw [hb, UInt8.toNat_ofNat_of_lt' (Nat.lt_trans hsmall (by decide))]
    refine ⟨?_, ?_, ?_⟩
    · rintro rfl
      exact hquote (Char.toNat_inj.mp hnat.symm)
    · rintro rfl
      exact hslash (Char.toNat_inj.mp hnat.symm)
    · rw [UInt8.lt_iff_toNat_lt, hnat]
      exact hlow
  · -- All bytes of the character are above those of the characters below U+0080.
    have hle := le_of_mem_utf8EncodeChar (Nat.not_lt.mp hsmall) hb
    refine ⟨?_, ?_, ?_⟩
    · rintro rfl
      exact absurd hle (by decide)
    · rintro rfl
      exact absurd hle (by decide)
    · rw [UInt8.lt_iff_toNat_lt]
      exact fun hlt => absurd (Nat.lt_of_le_of_lt hle hlt) (by decide)

theorem readString_control {c : Char} (hlow : c.toNat < 0x20) {collected rest : Bytes} :
    readString collected none
        (['\\', 'u', '0', '0', hexLower (c.toNat / 16), hexLower (c.toNat % 16)].flatMap
          String.utf8EncodeChar ++ rest)
      = readString ((String.utf8EncodeChar c).reverse ++ collected) none rest := by
  have hhigh : c.toNat / 16 < 16 := by omega
  have hrest : c.toNat % 16 < 16 := by omega
  have hunit : hexValue4? 0x30 0x30 (UInt8.ofNat (hexLower (c.toNat / 16)).toNat)
      (UInt8.ofNat (hexLower (c.toNat % 16)).toNat) = some c.toNat := by
    have hzero : hexValue? 0x30 = some 0 := by decide
    have hvalue : (0 * 16 + 0) * 256 + c.toNat / 16 * 16 + c.toNat % 16 = c.toNat := by omega
    simp only [hexValue4?, hzero, hexValue?_hexLower _ hhigh, hexValue?_hexLower _ hrest, hvalue,
      Option.bind_eq_bind, Option.bind_some, Option.pure_def]
  have hascii : ∀ d ∈ ['\\', 'u', '0', '0', hexLower (c.toNat / 16), hexLower (c.toNat % 16)],
      d.toNat < 0x80 := by
    simp only [List.forall_mem_cons]
    exact ⟨by decide, by decide, by decide, by decide, toNat_hexLower _ hhigh,
      toNat_hexLower _ hrest, List.forall_mem_nil _⟩
  rw [flatMap_utf8EncodeChar_of_ascii hascii]
  refine (readString_unit hunit (by omega)).trans ?_
  rw [encodeReversed, Char.ofNat_toNat]
  rfl

/-- **From what is written of a character its bytes are collected.** -/
theorem readString_escapeChar (c : Char) {collected rest : Bytes} (hrest : rest ≠ []) :
    readString collected none ((escapeChar c).flatMap String.utf8EncodeChar ++ rest)
      = readString ((String.utf8EncodeChar c).reverse ++ collected) none rest := by
  have hcode : ∀ {n : Nat}, c.toNat = n → c = Char.ofNat n := fun h => by
    rw [← h, Char.ofNat_toNat]
  unfold escapeChar
  split
  · next hquote => subst hquote; exact readString_simple (by decide)
  split
  · next hslash => subst hslash; exact readString_simple (by decide)
  split
  · next hfeed => subst hfeed; exact readString_simple (by decide)
  split
  · next hreturn => subst hreturn; exact readString_simple (by decide)
  split
  · next htab => subst htab; exact readString_simple (by decide)
  split
  · next hback => rw [hcode hback]; exact readString_simple (by decide)
  split
  · next hform => rw [hcode hform]; exact readString_simple (by decide)
  split
  · next hlow => exact readString_control hlow
  · next hquote hslash _ _ _ _ _ hlow =>
    rw [List.flatMap_singleton]
    exact readString_raw (fun b hb => isRaw_of_mem_utf8EncodeChar hquote hslash hlow hb) hrest

theorem readString_escaped_append (cs : List Char) {collected rest : Bytes} (hrest : rest ≠ []) :
    readString collected none (escaped cs ++ rest)
      = readString ((cs.flatMap String.utf8EncodeChar).reverse ++ collected) none rest := by
  unfold escaped
  induction cs generalizing collected with
  | nil => rfl
  | cons c cs ih =>
    have hmore := List.append_ne_nil_of_right_ne_nil
      ((cs.flatMap escapeChar).flatMap String.utf8EncodeChar) hrest
    rw [List.flatMap_cons, List.flatMap_append, List.append_assoc,
      readString_escapeChar c hmore, ih, List.flatMap_cons, List.reverse_append, List.append_assoc]

/-- **A string token has the string as its content**, whatever is behind it. -/
theorem readString_escaped (s : String) (rest : Bytes) :
    readString [] none (escaped s.toList ++ 0x22 :: rest) = .ok (.ok s, rest) := by
  have hcontent : finishString (s.toList.flatMap String.utf8EncodeChar).reverse none (0x22 :: rest)
      = .ok s := by
    unfold finishString
    rw [List.reverse_reverse, ← encode_eq_flatMap, decode?_encode]
  rw [readString_escaped_append s.toList (List.cons_ne_nil _ _), List.append_nil,
    readString.eq_def]
  cases rest <;> exact congrArg (fun content => Except.ok (content, _)) hcontent

end Callpoint.Json
