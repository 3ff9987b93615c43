import Callpoint.Proofs.Text.Blank
import Callpoint.Schema.TagText

/-!
# Reading tag texts

A tag text is read by a grammar: blanks, a word, a colon and a quoted value make an entry
(`TagText.Begins`), and between the quotes a backslash takes the character behind it as it stands
(`TagText.Quoted`).  A text begins with an entry in one way only, and that is the one that is read
(`value?_eq_some_iff`, `leading?_eq_some_iff`).

An entry that is written in front of a text is therefore the first one that is read, and the text
behind it is read as if it stood alone.  What is parsed of a row of entries is what was written, and
whatever stands behind them sets its own tags after them (`parse_written`).
-/

namespace Callpoint.TagText

open Callpoint.Text

variable {cs raw v behind : List Char}

/-! ### Values -/

/-- **What stands between quotes, and the value that it stands for.**  A quote ends it and a
backslash escapes a character, but not a line feed. -/
inductive Quoted : List Char → List Char → Prop
  | nil : Quoted [] []
  | plain {c : Char} {raw v : List Char} (hquote : c ≠ '"') (hslash : c ≠ '\\')
      (h : Quoted raw v) : Quoted (c :: raw) (c :: v)
  | escaped {c : Char} {raw v : List Char} (hfeed : c ≠ '\n') (h : Quoted raw v) :
      Quoted ('\\' :: c :: raw) (c :: v)

theorem value?_plain {c : Char} (hquote : c ≠ '"') (hslash : c ≠ '\\') (rest : List Char) :
    value? (c :: rest) = (value? rest).map fun (v, behind) => (c :: v, behind) := by
  rw [value?]
  · exact hquote
  · exact fun _ _ hc => absurd hc hslash

theorem value?_of_quoted (h : Quoted raw v) (behind : List Char) :
    value? (raw ++ '"' :: behind) = some (v, behind) := by
  induction h with
  | nil => rfl
  | plain hquote hslash _ ih => rw [List.cons_append, value?_plain hquote hslash, ih]; rfl
  | escaped hfeed _ ih =>
    rw [List.cons_append, List.cons_append, value?, if_neg hfeed, ih]
    rfl

theorem exists_quoted_of_value? (h : value? cs = some (v, behind)) :
    ∃ raw, Quoted raw v ∧ cs = raw ++ '"' :: behind := by
  fun_induction value? cs generalizing v with
  | case1 => cases h
  | case2 => cases h; exact ⟨[], .nil, rfl⟩
  | case3 => cases h
  | case4 c rest hfeed ih =>
    obtain ⟨⟨w, b⟩, hw, heq⟩ := Option.map_eq_some_iff.mp h
    obtain ⟨rfl, rfl⟩ := Prod.mk.inj heq
    obtain ⟨raw, hraw, rfl⟩ := ih hw
    exact ⟨'\\' :: c :: raw, .escaped hfeed hraw, rfl⟩
  | case5 c rest hquote hslash ih =>
    obtain ⟨⟨w, b⟩, hw, heq⟩ := Option.map_eq_some_iff.mp h
    obtain ⟨rfl, rfl⟩ := Prod.mk.inj heq
    -- A backslash would be the last character, and there is no quote behind it.
    have hne : c ≠ '\\' := by
      rintro rfl
      cases rest with
      | nil => cases hw
      | cons d rest => exact hslash d rest rfl rfl
    obtain ⟨raw, hraw, rfl⟩ := ih hw
    exact ⟨c :: raw, .plain hquote hne hraw, rfl⟩

/-- **A value is read as far as its closing quote.** -/
theorem value?_eq_some_iff :
    value? cs = some (v, behind) ↔ ∃ raw, Quoted raw v ∧ cs = raw ++ '"' :: behind := by
  constructor
  · exact exists_quoted_of_value?
  · rintro ⟨raw, hraw, rfl⟩
    exact value?_of_quoted hraw behind

/-! ### Entries -/

/-- **A text begins with an entry:** blanks, a word, a colon and a quoted value. -/
inductive Begins : List Char → String × String → List Char → Prop
  | entry {blanks key raw v behind : List Char} (hblanks : ∀ c ∈ blanks, isBlank c = true)
      (hne : key ≠ []) (hkey : ∀ c ∈ key, isWord c = true) (hvalue : Quoted raw v) :
      Begins (blanks ++ (key ++ ':' :: '"' :: (raw ++ '"' :: behind)))
        (String.ofList key, String.ofList v) behind

variable {e : String × String}

theorem leading?_of_begins (h : Begins cs e behind) : leading? cs = some (e, behind) := by
  obtain @⟨blanks, key, raw, v, behind, hblanks, hne, hkey, hvalue⟩ := h
  obtain ⟨c, key, rfl⟩ := List.exists_cons_of_ne_nil hne
  -- Blanks end where the word starts, since no blank may stand in a word; the word ends at the colon.
  have hcolon : isWord ':' = false := by decide
  have hc : isBlank c = false := not_isBlank_of_isWord (hkey c List.mem_cons_self)
  have htext : (blanks ++ (c :: key ++ ':' :: '"' :: (raw ++ '"' :: behind))).dropWhile isBlank
      = c :: key ++ ':' :: '"' :: (raw ++ '"' :: behind) := by
    rw [List.dropWhile_append_of_pos hblanks]
    exact List.dropWhile_cons_of_neg (Bool.not_eq_true _ ▸ hc)
  have hword : (c :: key ++ ':' :: '"' :: (raw ++ '"' :: behind)).takeWhile isWord = c :: key := by
    rw [List.takeWhile_append_of_pos hkey,
      List.takeWhile_cons_of_neg (Bool.not_eq_true _ ▸ hcolon), List.append_nil]
  have hrest : (c :: key ++ ':' :: '"' :: (raw ++ '"' :: behind)).dropWhile isWord
      = ':' :: '"' :: (raw ++ '"' :: behind) := by
    rw [List.dropWhile_append_of_pos hkey]
    exact List.dropWhile_cons_of_neg (Bool.not_eq_true _ ▸ hcolon)
  simp only [leading?, htext, hword, hrest, value?_of_quoted hvalue]
  rfl

theorem begins_of_leading? (h : leading? cs = some (e, behind)) : Begins cs e behind := by
  simp only [leading?] at h
  split at h
  · cases h
  next hkey =>
  split at h
  · next rest hrest =>
    obtain ⟨⟨v, b⟩, hvalue, heq⟩ := Option.map_eq_some_iff.mp h
    obtain ⟨rfl, rfl⟩ := Prod.mk.inj heq
    obtain ⟨raw, hraw, rfl⟩ := value?_eq_some_iff.mp hvalue
    have hsplit : cs = cs.takeWhile isBlank ++ ((cs.dropWhile isBlank).takeWhile isWord ++
        ':' :: '"' :: (raw ++ '"' :: b)) := by
      rw [← hrest, List.takeWhile_append_dropWhile, List.takeWhile_append_dropWhile]
    have hne : (cs.dropWhile isBlank).takeWhile isWord ≠ [] := fun hnil => hkey (by rw [hnil]; rfl)
    have hbegins : Begins (cs.takeWhile isBlank ++ ((cs.dropWhile isBlank).takeWhile isWord ++
        ':' :: '"' :: (raw ++ '"' :: b))) _ b :=
      .entry (List.all_eq_true.mp List.all_takeWhile) hne
        (List.all_eq_true.mp List.all_takeWhile) hraw
    rwa [← hsplit] at hbegins
  · cases h

/-- **An entry is read if and only if the text begins with it.** -/
theorem leading?_eq_some_iff : leading? cs = some (e, behind) ↔ Begins cs e behind :=
  ⟨begins_of_leading?, leading?_of_begins⟩

theorem entries_of_begins (h : Begins cs e behind) : entries cs = e :: entries behind := by
  rw [entries]
  split
  · next hnone =>
    rw [leading?_of_begins h] at hnone
    cases hnone
  · next hsome =>
    obtain ⟨rfl, rfl⟩ := Prod.mk.inj (Option.some.inj (hsome.symm.trans (leading?_of_begins h)))
    rfl

/-- Reading stops where no entry begins. -/
theorem entries_of_not_begins (h : ∀ e behind, ¬ Begins cs e behind) : entries cs = [] := by
  rw [entries]
  split
  · rfl
  · next e behind hsome => exact absurd (begins_of_leading? hsome) (h e behind)

/-! ### Entries as they are written -/

/-- A value as it stands between quotes: a quote and a backslash are escaped. -/
def escape : List Char → List Char
  | [] => []
  | c :: cs => if c = '"' ∨ c = '\\' then '\\' :: c :: escape cs else c :: escape cs

theorem quoted_escape (v : List Char) : Quoted (escape v) v := by
  induction v with
  | nil => exact .nil
  | cons c v ih =>
    rw [escape]
    split
    · next hc =>
      refine .escaped ?_ ih
      rintro rfl
      exact absurd hc (by decide)
    · next hc =>
      obtain ⟨hquote, hslash⟩ := not_or.mp hc
      exact .plain hquote hslash ih

/-- A key of letters, digits and underscores. -/
def IsKey (key : String) : Prop := key ≠ "" ∧ ∀ c ∈ key.toList, c.isAlphanum = true ∨ c = '_'

instance (key : String) : Decidable (IsKey key) :=
  @instDecidableAnd _ _ inferInstance (List.decidableBAll _ key.toList)

/-- **An entry to be written:** a key, any value, and the blanks in front of them. -/
structure Entry where
  blanks : List Char
  key : String
  value : String
  blanks_blank : blanks.all isBlank = true := by decide
  key_isKey : IsKey key := by decide

namespace Entry

/-- The entry as it is written. -/
def text (e : Entry) : List Char :=
  e.blanks ++ (e.key.toList ++ ':' :: '"' :: (escape e.value.toList ++ ['"']))

/-- The key and the value. -/
def pair (e : Entry) : String × String := (e.key, e.value)

/-- A text with a written entry in front begins with that entry. -/
theorem begins (e : Entry) (behind : List Char) : Begins (e.text ++ behind) e.pair behind := by
  obtain ⟨hne, hplain⟩ := e.key_isKey
  have hne' : e.key.toList ≠ [] := fun hnil => hne (String.toList_inj.mp hnil)
  have hkey : ∀ c ∈ e.key.toList, isWord c = true := fun c hc => isWord_of_ascii (hplain c hc)
  have hblanks : ∀ c ∈ e.blanks, isBlank c = true := List.all_eq_true.mp e.blanks_blank
  have htext : e.text ++ behind = e.blanks ++ (e.key.toList ++
      ':' :: '"' :: (escape e.value.toList ++ '"' :: behind)) := by
    simp [text]
  have hbegins : Begins (e.text ++ behind)
      (String.ofList e.key.toList, String.ofList e.value.toList) behind :=
    htext ▸ .entry hblanks hne' hkey (quoted_escape e.value.toList)
  rwa [String.ofList_toList, String.ofList_toList] at hbegins

end Entry

/-- **Written entries are read one by one,** and the text behind them as if it stood alone. -/
theorem entries_append (es : List Entry) (behind : List Char) :
    entries (es.flatMap Entry.text ++ behind) = es.map Entry.pair ++ entries behind := by
  induction es with
  | nil => rfl
  | cons e es ih =>
    rw [List.flatMap_cons, List.append_assoc, entries_of_begins (e.begins _), ih]
    rfl

theorem parse_append (es : List Entry) (t : String) :
    parse (String.ofList (es.flatMap Entry.text) ++ t)
      = (Assoc.setAll [] (es.map Entry.pair)).setAll (parse t) := by
  have hnodup : (Assoc.names ([] : Assoc String)).Nodup := List.nodup_nil
  calc parse (String.ofList (es.flatMap Entry.text) ++ t)
      = Assoc.setAll [] (es.map Entry.pair ++ entries t.toList) := by
        rw [parse, String.toList_append, String.toList_ofList, entries_append]
    _ = (Assoc.setAll [] (es.map Entry.pair)).setAll (entries t.toList) := List.foldl_append
    _ = (Assoc.setAll [] (es.map Entry.pair)).setAll (parse t) := (Assoc.setAll_setAll hnodup _).symm

/-- **What was written is parsed,** and then what stands behind it.  The tags of a row of entries are
set in their order, so that a key that appears again keeps its place and takes the last value.
Behind them the tags of any other text are set, as they are parsed of that text alone.  Without one,
or if no entry begins it, the tags are those that were written. -/
theorem parse_written (es : List Entry) (t : String) :
    parse (String.ofList (es.flatMap Entry.text) ++ t)
      = (Assoc.setAll [] (es.map Entry.pair)).setAll (parse t) ∧
    parse (String.ofList (es.flatMap Entry.text)) = Assoc.setAll [] (es.map Entry.pair) ∧
    ((∀ e behind, ¬ Begins t.toList e behind) →
      parse (String.ofList (es.flatMap Entry.text) ++ t) = Assoc.setAll [] (es.map Entry.pair)) := by
  have hnone : ∀ t : String, (∀ e behind, ¬ Begins t.toList e behind) →
      parse (String.ofList (es.flatMap Entry.text) ++ t) = Assoc.setAll [] (es.map Entry.pair) := by
    intro t h
    rw [parse_append, parse, entries_of_not_begins h]
    rfl
  refine ⟨parse_append es t, ?_, hnone t⟩
  have hempty := hnone "" fun e behind h => nomatch (leading?_of_begins h).symm
  rwa [String.append_empty] at hempty

/-- A name, an example that looks like another tag, and the name again, with no blanks between the
last two. -/
def written : List Entry :=
  [{ blanks := [], key := "json", value := "id" },
    { blanks := [' ', '\n'], key := "example", value := "say \"no\" json:\"\\\"" },
    { blanks := [], key := "json", value := "name" }]

/-- The second name takes the place of the first, and what is no entry stops the reading. -/
theorem parse_written_twice :
    (∀ e behind, ¬ Begins " broken validate:\"required\"".toList e behind) ∧
      parse (String.ofList (written.flatMap Entry.text) ++ " broken validate:\"required\"")
        = [("json", "name"), ("example", "say \"no\" json:\"\\\"")] := by
  have hnone : leading? " broken validate:\"required\"".toList = none := by decide
  have hstop : ∀ e behind, ¬ Begins " broken validate:\"required\"".toList e behind :=
    fun e behind h => nomatch hnone.symm.trans (leading?_of_begins h)
  refine ⟨hstop, ((parse_written written _).2.2 hstop).trans ?_⟩
  decide

end Callpoint.TagText
