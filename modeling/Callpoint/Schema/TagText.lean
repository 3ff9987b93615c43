import Callpoint.Assoc
import Callpoint.Text.Blank
import Callpoint.Text.Word

/-!
# Tag texts

A tag text is a row of entries, each a word, a colon and a quoted value: `json:"id"
validate:"uuid"`.  A backslash takes the character behind it as it stands.  Reading stops at the
first thing that is no entry and keeps what came before it; each entry is shorter than the text it
is read from (`length_leading?_lt`).
-/

namespace Callpoint.TagText

open Callpoint.Text

/-- The value behind an opening quote, and what follows its closing quote. -/
def value? : List Char → Option (List Char × List Char)
  | [] => none
  | '"' :: rest => some ([], rest)
  | '\\' :: c :: rest =>
    if c = '\n' then none else (value? rest).map fun (v, behind) => (c :: v, behind)
  | c :: rest => (value? rest).map fun (v, behind) => (c :: v, behind)

theorem length_value?_lt {cs v behind : List Char} (h : value? cs = some (v, behind)) :
    behind.length < cs.length := by
  fun_induction value? cs generalizing v with
  | case1 => cases h
  | case2 => cases h; simp
  | case3 => cases h
  | case4 _ _ _ ih =>
    obtain ⟨p, hp, hv⟩ := Option.map_eq_some_iff.1 h
    obtain ⟨w, b⟩ := p
    cases hv
    have := ih hp
    simp only [List.length_cons]
    omega
  | case5 _ _ _ _ ih =>
    obtain ⟨p, hp, hv⟩ := Option.map_eq_some_iff.1 h
    obtain ⟨w, b⟩ := p
    cases hv
    have := ih hp
    simp only [List.length_cons]
    omega

/-- The first entry of a text, blanks ahead of it aside, and what follows it. -/
def leading? (cs : List Char) : Option ((String × String) × List Char) :=
  let text := cs.dropWhile isBlank
  let key := text.takeWhile isWord
  if key.isEmpty then none
  else match text.dropWhile isWord with
    | ':' :: '"' :: rest =>
      (value? rest).map fun (v, behind) => ((String.ofList key, String.ofList v), behind)
    | _ => none

theorem length_leading?_lt {cs behind : List Char} {e : String × String}
    (h : leading? cs = some (e, behind)) : behind.length < cs.length := by
  simp only [leading?] at h
  split at h
  · cases h
  · split at h
    · next rest heq =>
      obtain ⟨p, hp, hv⟩ := Option.map_eq_some_iff.1 h
      obtain ⟨v, b⟩ := p
      cases hv
      have h₁ := length_value?_lt hp
      have h₂ := congrArg List.length heq
      have h₃ := (List.dropWhile_suffix (l := cs.dropWhile isBlank) isWord).length_le
      have h₄ := (List.dropWhile_suffix (l := cs) isBlank).length_le
      simp only [List.length_cons] at h₂
      change b.length < cs.length
      omega
    · cases h

/-- The entries at the start of a text. -/
def entries (cs : List Char) : List (String × String) :=
  match _h : leading? cs with
  | none => []
  | some (e, behind) => e :: entries behind
termination_by cs.length
decreasing_by exact length_leading?_lt _h

/-- **The tags that a text sets.** A key that appears again takes the later value. -/
def parse (text : String) : Assoc String := Assoc.setAll [] (entries text.toList)

end Callpoint.TagText
