import Callpoint.Text.Blank
import Callpoint.Text.Word

/-!
# Blanks

A text that neither starts nor ends with a blank is left as it is by trimming, and a text has no
words if it is all blanks.  No blank may stand in a word (`not_isBlank_of_isWord`).
-/

namespace Callpoint.Text

variable {cs : List Char}

theorem trimLeft_of_head? (h : ∀ c ∈ cs.head?, isBlank c = false) : trimLeft cs = cs := by
  cases cs with
  | nil => rfl
  | cons c cs => exact List.dropWhile_cons_of_neg (Bool.not_eq_true _ ▸ h c rfl)

theorem trimRight_of_getLast? (h : ∀ c ∈ cs.getLast?, isBlank c = false) : trimRight cs = cs := by
  have hrev : trimLeft cs.reverse = cs.reverse := trimLeft_of_head? (List.head?_reverse ▸ h)
  rw [trimRight, ← trimLeft, hrev, List.reverse_reverse]

theorem trim_of_ends (hhead : ∀ c ∈ cs.head?, isBlank c = false)
    (hlast : ∀ c ∈ cs.getLast?, isBlank c = false) : trim cs = cs := by
  rw [trim, trimLeft_of_head? hhead, trimRight_of_getLast? hlast]

/-- A word that was begun is a word in the end. -/
theorem wordsFrom_eq_nil_iff {word : List Char} :
    wordsFrom word cs = [] ↔ word = [] ∧ ∀ c ∈ cs, isBlank c = true := by
  induction cs generalizing word with
  | nil => cases word <;> simp [wordsFrom]
  | cons c cs ih =>
    rw [wordsFrom, List.forall_mem_cons]
    cases isBlank c with
    | false => simp [ih]
    | true => cases word <;> simp [ih]

theorem words_eq_nil_iff : words cs = [] ↔ ∀ c ∈ cs, isBlank c = true := by
  rw [words, wordsFrom_eq_nil_iff, and_iff_right rfl]

/-- The code points of the blanks. -/
def blankCodes : List Nat :=
  List.range' 9 5 ++ [0x20, 0x85, 0xa0, 0x1680] ++ List.range' 0x2000 11 ++
    [0x2028, 0x2029, 0x202f, 0x205f, 0x3000]

theorem toNat_mem_blankCodes {c : Char} (h : isBlank c = true) : c.toNat ∈ blankCodes := by
  simp only [isBlank, Bool.or_eq_true, Bool.and_eq_true, decide_eq_true_eq, beq_iff_eq] at h
  simp only [blankCodes, List.mem_append, List.mem_range'_1, List.mem_cons, List.not_mem_nil,
    or_false]
  omega

theorem not_isBlank_of_isWord {c : Char} (h : isWord c = true) : isBlank c = false := by
  have hcodes : ∀ n ∈ blankCodes, isWord (Char.ofNat n) = false := by decide +kernel
  refine Bool.eq_false_iff.mpr fun hblank => ?_
  have hword := hcodes c.toNat (toNat_mem_blankCodes hblank)
  rw [Char.ofNat_toNat, h] at hword
  cases hword

/-- The letters and digits of ASCII and the underscore may stand in a word. -/
theorem isWord_of_ascii {c : Char} (h : c.isAlphanum = true ∨ c = '_') : isWord c = true := by
  have hascii : c.toNat < 0x80 := by
    rcases h with h | rfl
    · have hranges : (decide (65 ≤ c.val ∧ c.val ≤ 90) || (97 ≤ c.val && c.val ≤ 122) ||
          (48 ≤ c.val && c.val ≤ 57)) = true := h
      have hval : c.val.toNat = c.toNat := rfl
      simp only [Bool.or_eq_true, Bool.and_eq_true, decide_eq_true_eq, UInt32.le_iff_toNat_le,
        UInt32.reduceToNat, hval] at hranges
      omega
    · decide
  rw [isWord, if_pos hascii, Bool.or_eq_true, beq_iff_eq]
  exact h

end Callpoint.Text
