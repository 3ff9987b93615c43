import Callpoint.Json.Text

/-!
# JSON text on one line

The compact text of a value has no control character (`unbroken_compact`), so it has neither a line
feed nor a carriage return, whatever the strings inside the value hold.  And it is not empty
(`compact_ne_nil`).
-/

namespace Callpoint

open Callpoint.Number

/-- **A text without control characters.** -/
def Unbroken (cs : List Char) : Prop := ∀ c ∈ cs, 0x20 ≤ c.toNat

instance (cs : List Char) : Decidable (Unbroken cs) :=
  List.decidableBAll (fun c : Char => 0x20 ≤ c.toNat) cs

namespace Unbroken

theorem append {xs ys : List Char} (hxs : Unbroken xs) (hys : Unbroken ys) :
    Unbroken (xs ++ ys) := by
  intro c hc
  rcases List.mem_append.mp hc with hc | hc
  · exact hxs c hc
  · exact hys c hc

theorem cons {c : Char} {cs : List Char} (hc : 0x20 ≤ c.toNat) (hcs : Unbroken cs) :
    Unbroken (c :: cs) := by
  intro d hd
  rcases List.mem_cons.mp hd with rfl | hd
  · exact hc
  · exact hcs d hd

theorem replicate {c : Char} (n : Nat) (hc : 0x20 ≤ c.toNat) :
    Unbroken (List.replicate n c) := by
  intro d hd
  rwa [List.eq_of_mem_replicate hd]

theorem flatMap {α : Type} {f : α → List Char} {xs : List α} (h : ∀ x, Unbroken (f x)) :
    Unbroken (xs.flatMap f) := by
  intro c hc
  obtain ⟨x, -, hc⟩ := List.mem_flatMap.mp hc
  exact h x c hc

theorem of_subset {xs ys : List Char} (h : xs ⊆ ys) (hys : Unbroken ys) : Unbroken xs :=
  fun c hc => hys c (h hc)

theorem not_mem {c : Char} {cs : List Char} (h : Unbroken cs) (hc : c.toNat < 0x20) : c ∉ cs :=
  fun hmem => absurd (h c hmem) (Nat.not_le.mpr hc)

end Unbroken

/-! ### Numbers -/

theorem unbroken_toDigits (n : Nat) : Unbroken (Nat.toDigits 10 n) := by
  intro c hc
  have hdigit := Nat.isDigit_of_mem_toDigits (by decide) (by decide) hc
  simp only [Char.isDigit, Bool.and_eq_true, decide_eq_true_eq] at hdigit
  have hlow : '0'.toNat ≤ c.toNat := hdigit.1
  exact Nat.le_trans (by decide) hlow

theorem unbroken_positional {ds : List Char} (h : Unbroken ds) (point : Int) :
    Unbroken (positional ds point) := by
  have hpoint : Unbroken ['0', '.'] ∧ Unbroken ['.', '0'] := by decide
  unfold positional
  split
  · exact (hpoint.1.append (.replicate _ (by decide))).append h
  split
  · exact (h.append (.replicate _ (by decide))).append hpoint.2
  · exact (Unbroken.of_subset (List.take_subset _ _) h).append
      (.cons (by decide) (.of_subset (List.drop_subset _ _) h))

theorem unbroken_scientific {ds : List Char} (h : Unbroken ds) (e : Int) :
    Unbroken (scientific ds e) := by
  have hmark : Unbroken ['e', if e < 0 then '-' else '+'] := by split <;> decide
  unfold scientific
  refine (Unbroken.append ?_ hmark).append (unbroken_toDigits _)
  -- No digit, one digit, or a point behind the first of several.
  match ds, h with
  | [], h => exact h
  | [_], h => exact h
  | d :: c :: rest, h =>
    have hrest : Unbroken (c :: rest) := .of_subset (List.subset_cons_self d _) h
    exact .cons (h d List.mem_cons_self) (.cons (by decide) hrest)

/-- Whichever way a decimal is written, it is digits, a point, a sign or an exponent. -/
theorem unbroken_decimal (d : Decimal) : Unbroken d.text := by
  unfold Decimal.text
  simp only
  split
  · exact unbroken_positional (unbroken_toDigits _) _
  · exact unbroken_scientific (unbroken_toDigits _) _

/-- Numbers are written without control characters, and those that have no numeral as a word. -/
theorem unbroken_number (n : Json.Number) : Unbroken n.text.toList := by
  cases n with
  | int i =>
    cases i with
    | ofNat n =>
      show Unbroken (Nat.repr n).toList
      rw [Nat.toList_repr]
      exact unbroken_toDigits n
    | negSucc n =>
      show Unbroken ("-" ++ Nat.repr (n + 1)).toList
      rw [String.toList_append, Nat.toList_repr]
      exact Unbroken.append (by decide) (unbroken_toDigits _)
  | float x =>
    cases x with
    | finite s m q =>
      have hbody : Unbroken (if m = 0 then ['0', '.', '0'] else (shortestDigits m q).text) := by
        split
        · decide
        · exact unbroken_decimal _
      show Unbroken (String.ofList _).toList
      rw [String.toList_ofList]
      split
      · exact hbody.cons (by decide)
      · exact hbody
    | infinite s =>
      show Unbroken "null".toList
      decide
    | nan =>
      show Unbroken "null".toList
      decide

/-! ### Strings -/

/-- A control character is written as an escape, and every other character is none. -/
theorem unbroken_escapeChar (c : Char) : Unbroken (Json.escapeChar c) := by
  have hhex : ∀ n < 16, 0x20 ≤ (Text.hexLower n).toNat := by decide
  unfold Json.escapeChar
  -- The escapes that are one letter.
  repeat (split; · decide)
  split
  · have hfour : Unbroken ['\\', 'u', '0', '0'] := by decide
    exact hfour.append (.cons (hhex _ (by omega)) (.cons (hhex _ (by omega)) (by decide)))
  · exact .cons (by omega) (by decide)

/-- So no string, whatever it holds, brings a control character into a text. -/
theorem unbroken_quote (s : String) : Unbroken (Json.quote s).toList := by
  unfold Json.quote
  rw [String.toList_ofList]
  exact .cons (by decide) (.append (.flatMap unbroken_escapeChar) (by decide))

/-! ### Values -/

mutual

/-- **The text of a value has no control character.** -/
theorem unbroken_compact (v : Json) : Unbroken v.compact.toList := by
  match v with
  | .null => rw [Json.compact]; decide
  | .bool true => rw [Json.compact]; decide
  | .bool false => rw [Json.compact]; decide
  | .number n => rw [Json.compact]; exact unbroken_number n
  | .string s => rw [Json.compact]; exact unbroken_quote s
  | .array [] => rw [Json.compact]; decide
  | .array (v :: vs) =>
    rw [Json.compact]
    simp only [String.toList_append]
    exact (Unbroken.append (.append (by decide) (unbroken_compact v))
      (unbroken_compactItems vs)).append (by decide)
  | .object [] => rw [Json.compact]; decide
  | .object ((k, v) :: ms) =>
    rw [Json.compact]
    simp only [String.toList_append]
    exact (((Unbroken.append (.append (by decide) (unbroken_quote k)) (by decide)).append
      (unbroken_compact v)).append (unbroken_compactMembers ms)).append (by decide)

theorem unbroken_compactItems (vs : List Json) : Unbroken (Json.compactItems vs).toList := by
  match vs with
  | [] => rw [Json.compactItems]; decide
  | v :: vs =>
    rw [Json.compactItems]
    simp only [String.toList_append]
    exact (Unbroken.append (by decide) (unbroken_compact v)).append (unbroken_compactItems vs)

theorem unbroken_compactMembers (ms : List (String × Json)) :
    Unbroken (Json.compactMembers ms).toList := by
  match ms with
  | [] => rw [Json.compactMembers]; decide
  | (k, v) :: ms =>
    rw [Json.compactMembers]
    simp only [String.toList_append]
    exact (((Unbroken.append (by decide) (unbroken_quote k)).append (by decide)).append
      (unbroken_compact v)).append (unbroken_compactMembers ms)

end

/-! ### Texts are not empty -/

/-- A decimal has a digit, or the zero in front of its point. -/
theorem decimal_ne_nil (d : Decimal) : d.text ≠ [] := by
  have hmark : ∀ ds e, scientific ds e ≠ [] := by
    intro ds e
    unfold scientific
    simp
  unfold Decimal.text positional
  simp only
  split
  · split
    · simp
    split
    · simp
    · exact List.append_ne_nil_of_right_ne_nil _ (List.cons_ne_nil _ _)
  · exact hmark _ _

theorem number_ne_nil (n : Json.Number) : n.text.toList ≠ [] := by
  cases n with
  | int i =>
    cases i with
    | ofNat n =>
      show (Nat.repr n).toList ≠ []
      rw [Nat.toList_repr]
      exact Nat.toDigits_ne_nil
    | negSucc n =>
      show ("-" ++ Nat.repr (n + 1)).toList ≠ []
      rw [String.toList_append]
      exact List.append_ne_nil_of_left_ne_nil (by decide) _
  | float x =>
    cases x with
    | finite s m q =>
      show (String.ofList _).toList ≠ []
      rw [String.toList_ofList]
      split
      · exact List.cons_ne_nil _ _
      split
      · exact List.cons_ne_nil _ _
      · exact decimal_ne_nil _
    | infinite s =>
      show "null".toList ≠ []
      decide
    | nan =>
      show "null".toList ≠ []
      decide

/-- **The text of a value is not empty.** -/
theorem compact_ne_nil (v : Json) : v.compact.toList ≠ [] := by
  match v with
  | .null => rw [Json.compact]; decide
  | .bool true => rw [Json.compact]; decide
  | .bool false => rw [Json.compact]; decide
  | .number n => rw [Json.compact]; exact number_ne_nil n
  | .string s =>
    rw [Json.compact, Json.quote, String.toList_ofList]
    exact List.cons_ne_nil _ _
  | .array [] => rw [Json.compact]; decide
  | .array (v :: vs) =>
    rw [Json.compact]
    simp
  | .object [] => rw [Json.compact]; decide
  | .object ((k, v) :: ms) =>
    rw [Json.compact]
    simp

end Callpoint
