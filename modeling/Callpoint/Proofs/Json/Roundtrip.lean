import Callpoint.Proofs.Json.Compact
import Callpoint.Proofs.Results

/-!
# Values are read back

The compact text of a value is read as a reading that `Tells` the value (`readValue_compact`), by
induction on the value, with items and members read one step at a time (`readItems_item`,
`readMembers_member`).  Such a reading is that value as a free-form value (`toJson_of_tells`), if
the members of its objects are sorted and no more brackets are open at once than allowed.  So what
was written is what is read (`parse_compact`).
-/

namespace Callpoint.Json

open Callpoint.Text

namespace Reading

mutual

/-- **A reading tells a value:** it is the value's, without a fault, and whatever is behind its
brackets. -/
def Tells : Json → Reading → Prop
  | .null, r => r = .null
  | .bool b, r => r = .bool b
  | .number n, r => r = .number (.ok n)
  | .string s, r => r = .string (.ok s)
  | .array vs, r => ∃ behind rs, r = .array behind rs none ∧ TellItems vs rs
  | .object ms, r => ∃ behind rs, r = .object behind rs none ∧ TellMembers ms rs

/-- `Tells` on items. -/
def TellItems : List Json → List Reading → Prop
  | [], rs => rs = []
  | v :: vs, rs => ∃ r more, rs = r :: more ∧ Tells v r ∧ TellItems vs more

/-- `Tells` on members. -/
def TellMembers : List (String × Json) → List (Except Fault String × Reading) → Prop
  | [], rs => rs = []
  | (k, v) :: ms, rs => ∃ r more, rs = (.ok k, r) :: more ∧ Tells v r ∧ TellMembers ms more

end

/-! ### White space -/

theorem skipSpace_cons {b : UInt8} (h : isSpace b = false) (rest : Bytes) :
    skipSpace (b :: rest) = b :: rest :=
  List.dropWhile_cons_of_neg (by simp [h])

theorem behindClosing_cons {b : UInt8} (h : isSpace b = false) (rest : Bytes) :
    behindClosing (b :: rest) = rest := by
  rw [behindClosing, skipSpace_cons h]
  rfl

/-! ### First bytes -/

/-- Bytes that begin with a value: no white space, and no closing bracket. -/
def BeginsValue (bytes : Bytes) : Prop :=
  ∃ b rest, bytes = b :: rest ∧ isSpace b = false ∧ b ≠ 0x5d

theorem BeginsValue.append {bytes : Bytes} (h : BeginsValue bytes) (rest : Bytes) :
    BeginsValue (bytes ++ rest) := by
  obtain ⟨b, more, rfl, hspace, hclosing⟩ := h
  exact ⟨b, more ++ rest, rfl, hspace, hclosing⟩

theorem BeginsValue.length_pos {bytes : Bytes} (h : BeginsValue bytes) : 0 < bytes.length := by
  obtain ⟨b, more, rfl, -, -⟩ := h
  exact Nat.succ_pos _

theorem ne_of_isDigit {b c : UInt8} (hb : isDigit b = true) (hc : isDigit c = false) : b ≠ c := by
  rintro rfl
  rw [hb] at hc
  cases hc

theorem isSpace_of_isDigit {b : UInt8} (h : isDigit b = true) : isSpace b = false := by
  simp only [isSpace, Bool.or_eq_false_iff, decide_eq_false_iff_not]
  exact ⟨⟨⟨ne_of_isDigit h rfl, ne_of_isDigit h rfl⟩, ne_of_isDigit h rfl⟩, ne_of_isDigit h rfl⟩

theorem beginsValue_digitBytes (n : Nat) : BeginsValue (digitBytes n) := by
  obtain ⟨b, rest, hbytes⟩ := List.exists_cons_of_ne_nil (digitBytes_ne_nil n)
  have hdigit := isDigit_of_mem_digitBytes (n := n) (hbytes ▸ List.mem_cons_self)
  exact ⟨b, rest, hbytes, isSpace_of_isDigit hdigit, ne_of_isDigit hdigit rfl⟩

/-- The text of a value whose numbers are whole begins with a value. -/
theorem beginsValue_compact {v : Json} (h : v.Integral) : BeginsValue (encode v.compact) := by
  cases v with
  | null => exact ⟨0x6e, _, encode_null, rfl, by decide⟩
  | bool b =>
    cases b with
    | true => exact ⟨0x74, _, encode_true, rfl, by decide⟩
    | false => exact ⟨0x66, _, encode_false, rfl, by decide⟩
  | number n =>
    cases n with
    | int i =>
      rw [compact, Number.text, encode_toString]
      split
      · exact ⟨0x2d, _, rfl, rfl, by decide⟩
      · exact beginsValue_digitBytes _
    | float x => exact absurd h id
  | string s => exact ⟨0x22, _, encode_quote s, rfl, by decide⟩
  | array vs =>
    cases vs with
    | nil => exact ⟨0x5b, _, encode_empty_array, rfl, by decide⟩
    | cons v vs => exact ⟨0x5b, _, encode_array v vs, rfl, by decide⟩
  | object ms =>
    cases ms with
    | nil => exact ⟨0x7b, _, encode_empty_object, rfl, by decide⟩
    | cons m ms => exact ⟨0x7b, _, encode_object m.1 m.2 ms, rfl, by decide⟩

/-! ### Steps of the reader -/

section Steps

variable {fuel : Nat} {first : Bool} {bytes text rest : Bytes} {r : Reading}
  {after : Option Bytes}

/-- In front of the first item there is no comma. -/
theorem itemAhead_first (h : BeginsValue bytes) : itemAhead true bytes = .ok (some bytes) := by
  obtain ⟨b, rest, rfl, hspace, hclosing⟩ := h
  unfold itemAhead
  rw [skipSpace_cons hspace]
  exact if_neg hclosing

theorem itemAhead_comma (h : BeginsValue bytes) :
    itemAhead false (0x2c :: bytes) = .ok (some bytes) := by
  obtain ⟨b, rest, rfl, hspace, hclosing⟩ := h
  unfold itemAhead
  rw [skipSpace_cons rfl]
  dsimp only
  rw [skipSpace_cons hspace]
  exact if_neg hclosing

theorem readItems_closing (fuel : Nat) (first : Bool) (rest : Bytes) :
    readItems (fuel + 1) first (0x5d :: rest) = (([], none), some rest) := by
  have hahead : itemAhead first (0x5d :: rest) = .ok none := by
    unfold itemAhead
    rw [skipSpace_cons rfl]
    rfl
  rw [readItems, hahead]
  dsimp only
  rw [behindClosing_cons rfl]

/-- One item is read, and the items behind it are read from where it ended. -/
theorem readItems_item {items : List Reading} {stop : Option Fault}
    (hahead : itemAhead first bytes = .ok (some text))
    (hvalue : readValue fuel text = (r, some rest))
    (hmore : readItems fuel false rest = ((items, stop), after)) :
    readItems (fuel + 1) first bytes = ((r :: items, stop), after) := by
  rw [readItems, hahead]
  dsimp only
  rw [hvalue]
  dsimp only
  rw [hmore]

theorem nameAhead_first (rest : Bytes) : nameAhead true (0x22 :: rest) = .ok (some rest) := by
  unfold nameAhead
  rw [skipSpace_cons rfl]
  rfl

theorem nameAhead_comma (rest : Bytes) :
    nameAhead false (0x2c :: 0x22 :: rest) = .ok (some rest) := by
  unfold nameAhead
  rw [skipSpace_cons rfl]
  dsimp only
  rw [skipSpace_cons rfl]
  rfl

theorem readMembers_closing (fuel : Nat) (first : Bool) (rest : Bytes) :
    readMembers (fuel + 1) first (0x7d :: rest) = (([], none), some rest) := by
  have hahead : nameAhead first (0x7d :: rest) = .ok none := by
    unfold nameAhead
    rw [skipSpace_cons rfl]
    rfl
  rw [readMembers, hahead]
  dsimp only
  rw [behindClosing_cons rfl]

/-- One member is read: its name, the colon and its value. -/
theorem readMembers_member {k : String} {members : List (Except Fault String × Reading)}
    {stop : Option Fault}
    (hahead : nameAhead first bytes = .ok (some (escaped k.toList ++ 0x22 :: 0x3a :: text)))
    (hvalue : readValue fuel text = (r, some rest))
    (hmore : readMembers fuel false rest = ((members, stop), after)) :
    readMembers (fuel + 1) first bytes = (((.ok k, r) :: members, stop), after) := by
  have hcolon : behindColon (0x3a :: text) = .ok text := by
    unfold behindColon
    rw [skipSpace_cons rfl]
    rfl
  rw [readMembers, hahead]
  dsimp only
  rw [readString_escaped]
  dsimp only
  rw [hcolon]
  dsimp only
  rw [hvalue]
  dsimp only
  rw [hmore]

theorem readWord_append (word rest : Bytes) : readWord word (word ++ rest) = .ok rest := by
  induction word with
  | nil => rfl
  | cons b word ih => rw [List.cons_append, readWord, if_pos rfl, ih]

theorem literal_append (value : Reading) (word rest : Bytes) :
    literal value word (word ++ rest) = (value, some rest) := by
  rw [literal, readWord_append]

/-- `null` is read by its first byte and the rest of the word. -/
theorem readValue_null (fuel : Nat) (rest : Bytes) :
    readValue (fuel + 1) (encode (compact .null) ++ rest) = (.null, some rest) := by
  rw [encode_null, List.cons_append, readValue, skipSpace_cons rfl]
  exact literal_append .null [0x75, 0x6c, 0x6c] rest

theorem readValue_bool (fuel : Nat) (b : Bool) (rest : Bytes) :
    readValue (fuel + 1) (encode (compact (.bool b)) ++ rest) = (.bool b, some rest) := by
  cases b with
  | true =>
    rw [encode_true, List.cons_append, readValue, skipSpace_cons rfl]
    exact literal_append (.bool true) [0x72, 0x75, 0x65] rest
  | false =>
    rw [encode_false, List.cons_append, readValue, skipSpace_cons rfl]
    exact literal_append (.bool false) [0x61, 0x6c, 0x73, 0x65] rest

theorem readValue_string (fuel : Nat) (s : String) (rest : Bytes) :
    readValue (fuel + 1) (encode (quote s) ++ rest) = (.string (.ok s), some rest) := by
  have hdigit : isDigit 0x22 = false := rfl
  rw [encode_quote, List.cons_append, List.append_assoc, List.singleton_append, readValue,
    skipSpace_cons rfl]
  simp [hdigit, readString_escaped]

theorem readValue_array {items : List Reading} {stop : Option Fault}
    (h : readItems fuel true rest = ((items, stop), after)) :
    readValue (fuel + 1) (0x5b :: rest) = (.array rest items stop, after) := by
  have hdigit : isDigit 0x5b = false := rfl
  rw [readValue, skipSpace_cons rfl]
  simp [hdigit, h]

theorem readValue_object {members : List (Except Fault String × Reading)} {stop : Option Fault}
    (h : readMembers fuel true rest = ((members, stop), after)) :
    readValue (fuel + 1) (0x7b :: rest) = (.object rest members stop, after) := by
  have hdigit : isDigit 0x7b = false := rfl
  rw [readValue, skipSpace_cons rfl]
  simp [hdigit, h]

/-- A whole number is read as itself if it fits and its numeral ends where it should. -/
theorem readValue_int {i : Int} (hfits : -0x8000000000000000 ≤ i ∧ i < 0x10000000000000000)
    (hrest : EndsNumeral rest) (fuel : Nat) :
    readValue (fuel + 1) (encode (toString i) ++ rest)
      = (.number (.ok (.int i)), some rest) := by
  have hread := numeral_digitBytes hfits hrest
  rw [encode_toString]
  by_cases hneg : i < 0
  -- The sign decides which of the two ways to a numeral is taken.
  · rw [decide_eq_true hneg] at hread
    rw [if_pos hneg, List.cons_append, readValue, skipSpace_cons rfl]
    exact hread
  · obtain ⟨b, digits, hdigits⟩ := List.exists_cons_of_ne_nil (digitBytes_ne_nil i.natAbs)
    have hdigit := isDigit_of_mem_digitBytes (n := i.natAbs) (hdigits ▸ List.mem_cons_self)
    rw [decide_eq_false hneg, hdigits, List.cons_append] at hread
    -- A digit is none of the bytes that the reader looks for first.
    rw [if_neg hneg, hdigits, List.cons_append, readValue,
      skipSpace_cons (isSpace_of_isDigit hdigit)]
    dsimp only
    rw [if_neg (ne_of_isDigit hdigit rfl), if_neg (ne_of_isDigit hdigit rfl),
      if_neg (ne_of_isDigit hdigit rfl), if_neg (ne_of_isDigit hdigit rfl), if_pos hdigit, hread]

end Steps

/-! ### Reading what was written -/

/-- Behind an item stands a comma or a bracket, so a number among them ends there. -/
theorem endsNumeral_items (vs : List Json) (rest : Bytes) :
    EndsNumeral (encode (compactItems vs) ++ 0x5d :: rest) := by
  cases vs with
  | nil =>
    rw [encode_no_items]
    exact endsNumeral_cons (by decide) rest
  | cons v vs =>
    rw [encode_items]
    exact endsNumeral_cons (by decide) _

theorem endsNumeral_members (ms : List (String × Json)) (rest : Bytes) :
    EndsNumeral (encode (compactMembers ms) ++ 0x7d :: rest) := by
  cases ms with
  | nil =>
    rw [encode_no_members]
    exact endsNumeral_cons (by decide) rest
  | cons m ms =>
    rw [encode_members]
    exact endsNumeral_cons (by decide) _

mutual

/-- **The text of a value is read as that value**, and what is behind it is left.  The reader needs
two units of fuel for a byte at most. -/
theorem readValue_compact (v : Json) (hv : v.Integral) (fuel : Nat) (rest : Bytes)
    (hfuel : 2 * (encode v.compact).length ≤ fuel) (hrest : EndsNumeral rest) :
    ∃ r, readValue fuel (encode v.compact ++ rest) = (r, some rest) ∧ Tells v r := by
  have hpos := (beginsValue_compact hv).length_pos
  obtain ⟨fuel, rfl⟩ : ∃ n, fuel = n + 1 := ⟨fuel - 1, by omega⟩
  match v with
  | .null => exact ⟨_, readValue_null fuel rest, rfl⟩
  | .bool b => exact ⟨_, readValue_bool fuel b rest, rfl⟩
  | .number (.int i) => exact ⟨_, readValue_int hv hrest fuel, rfl⟩
  | .number (.float x) => exact absurd hv id
  | .string s => exact ⟨_, readValue_string fuel s rest, rfl⟩
  | .array [] =>
    rw [encode_empty_array] at hfuel ⊢
    obtain ⟨fuel, rfl⟩ : ∃ n, fuel = n + 1 := ⟨fuel - 1, by simp at hfuel; omega⟩
    exact ⟨_, readValue_array (readItems_closing fuel true rest), _, _, rfl, rfl⟩
  | .array (v :: vs) =>
    -- One unit of fuel is for the value and one for its first item; the brackets pay for both.
    obtain ⟨hv, hvs⟩ := hv
    rw [encode_array] at hfuel ⊢
    simp only [List.length_cons, List.length_append, List.length_nil] at hfuel
    obtain ⟨fuel, rfl⟩ : ∃ n, fuel = n + 1 := ⟨fuel - 1, by omega⟩
    obtain ⟨r, hread, htells⟩ := readValue_compact v hv fuel
      (encode (compactItems vs) ++ 0x5d :: rest) (by omega) (endsNumeral_items vs rest)
    obtain ⟨rs, hmore, htell⟩ := readItems_compact vs hvs fuel rest (by omega)
    have hahead := itemAhead_first ((beginsValue_compact hv).append
      (encode (compactItems vs) ++ 0x5d :: rest))
    simp only [List.cons_append, List.append_assoc, List.nil_append]
    exact ⟨_, readValue_array (readItems_item hahead hread hmore), _, _, rfl, r, rs, rfl, htells,
      htell⟩
  | .object [] =>
    rw [encode_empty_object] at hfuel ⊢
    obtain ⟨fuel, rfl⟩ : ∃ n, fuel = n + 1 := ⟨fuel - 1, by simp at hfuel; omega⟩
    exact ⟨_, readValue_object (readMembers_closing fuel true rest), _, _, rfl, rfl⟩
  | .object ((k, v) :: ms) =>
    obtain ⟨hv, hms⟩ := hv
    rw [encode_object] at hfuel ⊢
    simp only [memberBytes, List.length_cons, List.length_append, List.length_nil] at hfuel
    obtain ⟨fuel, rfl⟩ : ∃ n, fuel = n + 1 := ⟨fuel - 1, by omega⟩
    obtain ⟨r, hread, htells⟩ := readValue_compact v hv fuel
      (encode (compactMembers ms) ++ 0x7d :: rest) (by omega) (endsNumeral_members ms rest)
    obtain ⟨rs, hmore, htell⟩ := readMembers_compact ms hms fuel rest (by omega)
    simp only [memberBytes, List.cons_append, List.append_assoc, List.nil_append]
    exact ⟨_, readValue_object (readMembers_member (nameAhead_first _) hread hmore), _, _, rfl, r,
      rs, rfl, htells, htell⟩

/-- `readValue_compact` on further items. -/
theorem readItems_compact (vs : List Json) (hvs : IntegralItems vs) (fuel : Nat) (rest : Bytes)
    (hfuel : 2 * (encode (compactItems vs)).length + 1 ≤ fuel) :
    ∃ rs, readItems fuel false (encode (compactItems vs) ++ 0x5d :: rest)
      = ((rs, none), some rest) ∧ TellItems vs rs := by
  obtain ⟨fuel, rfl⟩ : ∃ n, fuel = n + 1 := ⟨fuel - 1, by omega⟩
  match vs with
  | [] =>
    rw [encode_no_items]
    exact ⟨[], readItems_closing fuel false rest, rfl⟩
  | v :: vs =>
    obtain ⟨hv, hvs⟩ := hvs
    rw [encode_items] at hfuel ⊢
    simp only [List.length_cons, List.length_append] at hfuel
    -- The comma pays for this item's step, its own bytes for the value.
    obtain ⟨r, hread, htells⟩ := readValue_compact v hv fuel
      (encode (compactItems vs) ++ 0x5d :: rest) (by omega) (endsNumeral_items vs rest)
    obtain ⟨rs, hmore, htell⟩ := readItems_compact vs hvs fuel rest (by omega)
    have hahead := itemAhead_comma ((beginsValue_compact hv).append
      (encode (compactItems vs) ++ 0x5d :: rest))
    simp only [List.cons_append, List.append_assoc]
    exact ⟨_, readItems_item hahead hread hmore, r, rs, rfl, htells, htell⟩

/-- `readValue_compact` on further members. -/
theorem readMembers_compact (ms : List (String × Json)) (hms : IntegralMembers ms) (fuel : Nat)
    (rest : Bytes) (hfuel : 2 * (encode (compactMembers ms)).length + 1 ≤ fuel) :
    ∃ rs, readMembers fuel false (encode (compactMembers ms) ++ 0x7d :: rest)
      = ((rs, none), some rest) ∧ TellMembers ms rs := by
  obtain ⟨fuel, rfl⟩ : ∃ n, fuel = n + 1 := ⟨fuel - 1, by omega⟩
  match ms with
  | [] =>
    rw [encode_no_members]
    exact ⟨[], readMembers_closing fuel false rest, rfl⟩
  | (k, v) :: ms =>
    obtain ⟨hv, hms⟩ := hms
    rw [encode_members] at hfuel ⊢
    simp only [memberBytes, List.length_cons, List.length_append] at hfuel
    obtain ⟨r, hread, htells⟩ := readValue_compact v hv fuel
      (encode (compactMembers ms) ++ 0x7d :: rest) (by omega) (endsNumeral_members ms rest)
    obtain ⟨rs, hmore, htell⟩ := readMembers_compact ms hms fuel rest (by omega)
    simp only [memberBytes, List.cons_append, List.append_assoc]
    exact ⟨_, readMembers_member (nameAhead_comma _) hread hmore, r, rs, rfl, htells, htell⟩

end

/-! ### Free-form values -/

/-- A member whose name comes after all others is put at the end. -/
theorem insertMember_concat {k : String} {v : Json} {acc : List (String × Json)}
    (h : ∀ m ∈ acc, m.1 < k) : insertMember k v acc = acc ++ [(k, v)] := by
  induction acc with
  | nil => rfl
  | cons m acc ih =>
    obtain ⟨hm, hacc⟩ := List.forall_mem_cons.mp h
    have hne : k ≠ m.1 := fun heq => String.lt_irrefl k (heq ▸ hm)
    rw [insertMember, if_neg (String.lt_asymm hm), if_neg hne, ih hacc, List.cons_append]

mutual

/-- **A reading that tells a value is that value**, if its brackets may be open at once. -/
theorem toJson_of_tells (v : Json) (hv : v.Sorted) {r : Reading} (h : Tells v r) {depth : Nat}
    (hdepth : v.depth ≤ depth) : r.toJson depth = .ok v := by
  match v with
  | .null => rw [show r = .null from h, toJson]
  | .bool b => rw [show r = .bool b from h, toJson]
  | .number n =>
    rw [show r = .number (.ok n) from h, toJson]
    rfl
  | .string s =>
    rw [show r = .string (.ok s) from h, toJson]
    rfl
  | .array vs =>
    obtain ⟨behind, rs, rfl, htell⟩ := h
    obtain ⟨depth, rfl⟩ : ∃ n, depth = n + 1 := ⟨depth - 1, by rw [Json.depth] at hdepth; omega⟩
    have hitems := toItems_of_tell vs hv htell (Nat.le_of_succ_le_succ hdepth)
    rw [toJson, hitems]
    rfl
  | .object ms =>
    obtain ⟨behind, rs, rfl, htell⟩ := h
    obtain ⟨depth, rfl⟩ : ∃ n, depth = n + 1 := ⟨depth - 1, by rw [Json.depth] at hdepth; omega⟩
    -- Members are put in one by one; sorted as they are, each comes to the end.
    have hmembers := toMembers_of_tell ms hv.2 htell (Nat.le_of_succ_le_succ hdepth) []
      (by simpa using hv.1)
    rw [toJson, hmembers]
    rfl

/-- `toJson_of_tells` on items. -/
theorem toItems_of_tell (vs : List Json) (hvs : SortedItems vs) {rs : List Reading}
    (h : TellItems vs rs) {depth : Nat} (hdepth : depthItems vs ≤ depth) :
    toItems depth rs = .ok vs := by
  match vs with
  | [] => rw [show rs = [] from h, toItems]
  | v :: vs =>
    obtain ⟨r, more, rfl, htells, htell⟩ := h
    obtain ⟨hdepth, hmore⟩ := Nat.max_le.mp hdepth
    rw [toItems, toJson_of_tells v hvs.1 htells hdepth, toItems_of_tell vs hvs.2 htell hmore]
    rfl

/-- `toJson_of_tells` on members that are put behind others. -/
theorem toMembers_of_tell (ms : List (String × Json)) (hms : SortedMembers ms)
    {rs : List (Except Fault String × Reading)} (h : TellMembers ms rs) {depth : Nat}
    (hdepth : depthMembers ms ≤ depth) (acc : List (String × Json))
    (hsorted : ((acc ++ ms).map Prod.fst).Pairwise (· < ·)) :
    toMembers depth rs acc = .ok (acc ++ ms) := by
  match ms with
  | [] => rw [show rs = [] from h, toMembers, List.append_nil]
  | (k, v) :: ms =>
    obtain ⟨r, more, rfl, htells, htell⟩ := h
    obtain ⟨hdepth, hmore⟩ := Nat.max_le.mp hdepth
    -- All names that are there already come before this one.
    have hafter : ∀ m ∈ acc, m.1 < k := by
      rw [List.map_append, List.pairwise_append] at hsorted
      exact fun m hm => hsorted.2.2 _ (List.mem_map_of_mem hm) k List.mem_cons_self
    have hnext : acc ++ (k, v) :: ms = (acc ++ [(k, v)]) ++ ms := by simp
    rw [hnext] at hsorted ⊢
    rw [toMembers, ok_bind, toJson_of_tells v hms.1 htells hdepth, ok_bind,
      insertMember_concat hafter]
    exact toMembers_of_tell ms hms.2 htell hmore _ hsorted

end

/-- The text of a value alone. -/
theorem ofBytes_compact {v : Json} (hv : v.Integral) :
    ∃ r, ofBytes (encode v.compact) = (r, none) ∧ Tells v r := by
  obtain ⟨r, hread, htells⟩ := readValue_compact v hv
    (2 * (encode v.compact).length + 2) [] (by omega) endsNumeral_nil
  rw [List.append_nil] at hread
  refine ⟨r, ?_, htells⟩
  rw [ofBytes, hread]
  rfl

end Reading

/-- **What was written is what is read.** -/
theorem parse_compact {v : Json} (hintegral : v.Integral) (hsorted : v.Sorted)
    (hdepth : v.depth ≤ Reading.maxDepth) : parse (encode v.compact) = .ok v := by
  obtain ⟨r, hread, htells⟩ := Reading.ofBytes_compact hintegral
  rw [parse, hread]
  dsimp only
  rw [Reading.toJson_of_tells v hsorted htells hdepth]
  rfl

end Callpoint.Json
