import Callpoint.Http.Form
import Callpoint.Proofs.Text.Lines
import Callpoint.Proofs.Text.Utf8

/-!
# Form text is read back

Every byte is written with marks that are no separators (`isMark_of_mem_encodeByte`) and is found
again in them (`decodeBytes_encodeByte`), so that every text is found again in its form text
(`decodeText_encodeText`).  A pair is one piece of a query (`decodePairs_encodePair`), and an
ampersand parts the pairs in front of it from those behind it (`decodePairs_append`).
-/

namespace Callpoint.Http.Form

open Callpoint.Text

/-! ### Marks -/

/-- **A mark of form text:** a percent sign, or a character of one of two ranges in which there is
no separator. -/
def IsMark (c : Char) : Prop :=
  c.toNat = 0x25 ∨ (0x2a ≤ c.toNat ∧ c.toNat ≤ 0x39) ∨ (0x41 ≤ c.toNat ∧ c.toNat ≤ 0x7a)

instance (c : Char) : Decidable (IsMark c) := inferInstanceAs (Decidable (_ ∨ _))

theorem IsMark.ascii {c : Char} (h : IsMark c) : c.toNat < 0x80 := by
  unfold IsMark at h
  omega

theorem isMark_hexUpper : ∀ n < 16, IsMark (hexUpper n) := by decide

/-- A digit is read for the number that it writes. -/
theorem hexValue?_hexUpper :
    ∀ n < 16, hexValue? (UInt8.ofNat (hexUpper n).toNat) = some n := by decide

theorem isPlain_iff {b : UInt8} :
    isPlain b = true ↔ (0x30 ≤ b.toNat ∧ b.toNat ≤ 0x39) ∨ (0x41 ≤ b.toNat ∧ b.toNat ≤ 0x5a)
      ∨ (0x61 ≤ b.toNat ∧ b.toNat ≤ 0x7a) ∨ b.toNat = 0x2a ∨ b.toNat = 0x2d ∨ b.toNat = 0x2e
      ∨ b.toNat = 0x5f := by
  simp only [isPlain, Bool.or_eq_true, Bool.and_eq_true, decide_eq_true_eq, UInt8.le_iff_toNat_le,
    ← UInt8.toNat_inj, UInt8.reduceToNat]
  omega

/-- **A byte is written with marks.** -/
theorem isMark_of_mem_encodeByte {b : UInt8} {c : Char} (h : c ∈ encodeByte b) : IsMark c := by
  have hlt : b.toNat < 256 := b.toNat_lt
  unfold encodeByte at h
  split at h
  · obtain rfl := List.mem_singleton.mp h
    decide
  · split at h
    · next hplain =>
      obtain rfl := List.mem_singleton.mp h
      have hrange := isPlain_iff.mp hplain
      unfold IsMark
      rw [toNat_ofNat_of_ascii (by omega)]
      omega
    · simp only [List.mem_cons, List.not_mem_nil, or_false] at h
      rcases h with rfl | rfl | rfl
      · decide
      · exact isMark_hexUpper _ (by omega)
      · exact isMark_hexUpper _ (by omega)

theorem isMark_of_mem_encodeText {s : String} {c : Char} (h : c ∈ encodeText s) : IsMark c := by
  obtain ⟨b, -, hc⟩ := List.mem_flatMap.mp h
  exact isMark_of_mem_encodeByte hc

theorem not_mem_encodeText {sep : Char} (hsep : ¬ IsMark sep) (s : String) :
    sep ∉ encodeText s :=
  fun h => hsep (isMark_of_mem_encodeText h)

/-! ### Texts -/

/-- **A byte is found again in its form text**, whatever is behind it. -/
theorem decodeBytes_encodeByte (b : UInt8) (rest : Bytes) :
    decodeBytes ((encodeByte b).flatMap String.utf8EncodeChar ++ rest) = b :: decodeBytes rest := by
  have hlt : b.toNat < 256 := b.toNat_lt
  unfold encodeByte
  split
  · next hspace =>
    subst hspace
    exact decodeBytes.eq_2 rest
  · split
    · next hplain =>
      have hrange := isPlain_iff.mp hplain
      have hascii : b.toNat < 0x80 := by omega
      -- A plain byte is neither of the two that are read as something else.
      have hplus : b ≠ 0x2b := by rintro rfl; contradiction
      have hpercent : b ≠ 0x25 := by rintro rfl; contradiction
      have hbytes : String.utf8EncodeChar (Char.ofNat b.toNat) = [b] := by
        rw [utf8EncodeChar_of_ascii (by rwa [toNat_ofNat_of_ascii hascii]),
          toNat_ofNat_of_ascii hascii, UInt8.ofNat_toNat]
      rw [List.flatMap_singleton, hbytes, List.singleton_append]
      exact decodeBytes.eq_4 b rest hplus fun _ _ _ hb _ => hpercent hb
    · have hhigh : b.toNat / 16 < 16 := by omega
      have hlow : b.toNat % 16 < 16 := by omega
      have hascii : ∀ c ∈ ['%', hexUpper (b.toNat / 16), hexUpper (b.toNat % 16)],
          c.toNat < 0x80 := by
        simp only [List.forall_mem_cons]
        exact ⟨by decide, (isMark_hexUpper _ hhigh).ascii, (isMark_hexUpper _ hlow).ascii,
          List.forall_mem_nil _⟩
      have hvalue : b.toNat / 16 * 16 + b.toNat % 16 = b.toNat := by omega
      have hpercent : UInt8.ofNat '%'.toNat = 0x25 := rfl
      rw [flatMap_utf8EncodeChar_of_ascii hascii]
      simp only [List.map_cons, List.map_nil, List.cons_append, List.nil_append, hpercent,
        decodeBytes.eq_3, hexValue?_hexUpper _ hhigh,
        hexValue?_hexUpper _ hlow, hvalue, UInt8.ofNat_toNat]

theorem decodeBytes_encodeBytes (bytes : Bytes) :
    decodeBytes ((bytes.flatMap encodeByte).flatMap String.utf8EncodeChar) = bytes := by
  induction bytes with
  | nil => exact decodeBytes.eq_1
  | cons b bytes ih =>
    rw [List.flatMap_cons, List.flatMap_append, decodeBytes_encodeByte, ih]

/-- **A text is found again in its form text.** -/
theorem decodeText_encodeText (s : String) : decodeText (encodeText s) = s := by
  unfold decodeText encodeText
  rw [encode_ofList, decodeBytes_encodeBytes, decodeLossy_encode]

/-! ### Pairs -/

theorem decodePair_encodePair (p : String × String) : decodePair (encodePair p) = p := by
  unfold decodePair encodePair
  rw [cutAtFirst_append (not_mem_encodeText (by decide) p.1)]
  exact Prod.ext (decodeText_encodeText p.1) (decodeText_encodeText p.2)

theorem eq_or_isMark_of_mem_encodePair {p : String × String} {c : Char} (h : c ∈ encodePair p) :
    c = '=' ∨ IsMark c := by
  rcases List.mem_append.mp h with h | h
  · exact Or.inr (isMark_of_mem_encodeText h)
  · exact (List.mem_cons.mp h).imp_right isMark_of_mem_encodeText

/-- **A pair is one piece of a query**, also when its name and its value are empty. -/
theorem decodePairs_encodePair (p : String × String) : decodePairs (encodePair p) = [p] := by
  have hone : '&' ∉ encodePair p := fun h =>
    (eq_or_isMark_of_mem_encodePair h).elim (by decide) (by decide)
  have hne : encodePair p ≠ [] := List.append_ne_nil_of_right_ne_nil _ (List.cons_ne_nil _ _)
  unfold decodePairs
  rw [pieces_of_not_mem hone, List.filter_cons_of_pos (by simpa using hne), List.filter_nil,
    List.map_singleton, decodePair_encodePair]

/-- **An ampersand parts the pairs in front of it from those behind it.** -/
theorem decodePairs_append (query rest : List Char) :
    decodePairs (query ++ '&' :: rest) = decodePairs query ++ decodePairs rest := by
  unfold decodePairs
  rw [pieces_append_sep, List.filter_append, List.map_append]

theorem encodePairs_concat {ps : List (String × String)} (h : ps ≠ []) (p : String × String) :
    encodePairs (ps ++ [p]) = encodePairs ps ++ '&' :: encodePair p := by
  unfold encodePairs
  rw [List.map_append, List.map_singleton, joinPieces_concat _ (by simpa using h)]

end Callpoint.Http.Form
