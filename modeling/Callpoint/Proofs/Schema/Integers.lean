import Callpoint.Proofs.Number.Decimal
import Callpoint.Proofs.Schema.Tokens
import Callpoint.Proofs.Text.Blank
import Callpoint.Schema.Catalog

/-!
# Integers among choices and examples

A rule text offers the words of its last choice (`Rule.offered`), and the schema of a field lists
the values of these words in their order (`choices_schema`).  The example of a field is one value.
Of an integer field, a word is a number if it is one of 64 bits with a sign.  Numbers of 64 bits
without a sign are integers as well, and the greater half of them stays text
(`integer_literals_iff`).
-/

namespace Callpoint

open Callpoint.Number Callpoint.Text

/-! ### What a rule text offers -/

namespace Rule

variable {shape : Shape} {t : Token}

/-- The words that a token offers, if it is a choice. -/
def Token.offered? (t : Token) : Option (List (List Char)) :=
  if t.name = "oneof" then t.param.map words else none

/-- **The words that a rule text offers:** those of its last choice. -/
def offered (rules : String) : List (List Char) :=
  ((tokens rules).filterMap Token.offered?).getLast?.getD []

/-- A token that offers words is the rule that offers their values. -/
theorem ofToken?_of_offered {ws : List (List Char)} (h : t.offered? = some ws) :
    ofToken? shape t = some (.oneOf (ws.map shape.choice)) := by
  obtain ⟨name, param⟩ := t
  obtain ⟨hname, hparam⟩ := Option.ite_none_right_eq_some.mp h
  obtain ⟨text, rfl, rfl⟩ := Option.map_eq_some_iff.mp hparam
  have hname : name = "oneof" := hname
  subst hname
  rfl

theorem ne_oneOf_of_offered? {r : Rule} (h : t.offered? = none)
    (hr : ofToken? shape t = some r) (choices : List Json) : r ≠ .oneOf choices := by
  cases says_of_ofToken? hr with
  | oneOf hname hparam =>
    rw [Token.offered?, if_pos hname, hparam] at h
    cases h
  | bound side => cases side <;> exact nofun
  | _ => exact nofun

theorem choices_addTo_of_ne {r : Rule} (h : ∀ choices, r ≠ .oneOf choices) (f : Facets) :
    (r.addTo f).choices = f.choices := by
  cases r with
  | oneOf choices => exact absurd rfl (h choices)
  | _ => rfl

/-- The last choice among some tokens takes the place of what was there to choose from. -/
theorem choices_foldl (shape : Shape) (ts : List Token) (f : Facets) :
    ((ts.filterMap (ofToken? shape)).foldl addTo f).choices
      = (ts.filterMap Token.offered?).getLast?.elim f.choices (·.map shape.choice) := by
  induction ts generalizing f with
  | nil => rfl
  | cons t ts ih =>
    -- Induction on the tokens: only one that offers words changes what there is to choose from.
    cases hoffered : t.offered? with
    | some ws =>
      rw [List.filterMap_cons_some (ofToken?_of_offered hoffered),
        List.filterMap_cons_some hoffered, List.foldl_cons, ih, List.getLast?_cons]
      cases (ts.filterMap Token.offered?).getLast? <;> rfl
    | none =>
      rw [List.filterMap_cons_none hoffered]
      cases hrule : ofToken? shape t with
      | none => rw [List.filterMap_cons_none hrule, ih]
      | some r =>
        have hkept := choices_addTo_of_ne (ne_oneOf_of_offered? hoffered hrule) f
        rw [List.filterMap_cons_some hrule, List.foldl_cons, ih, hkept]

end Rule

/-- A rule text lists the values of the words that it offers. -/
theorem Facets.choices_ofRules (rules : String) (type : FieldType) :
    (ofRules rules type).choices = (Rule.offered rules).map (Shape.ofType type).choice := by
  have hchoices := Rule.choices_foldl (.ofType type) (Rule.tokens rules) {}
  unfold ofRules Rule.ofText Rule.offered
  rw [hchoices]
  cases ((Rule.tokens rules).filterMap Rule.Token.offered?).getLast? <;> rfl

/-! ### Integers as values -/

/-- An integer as a word of an integer field. -/
theorem Shape.literal?_toString (n : Int) :
    Shape.integer.literal? (toString n).toList
      = if -0x8000000000000000 ≤ n ∧ n < 0x8000000000000000 then some (.number (.int n))
        else none := by
  show (integer? (toString n).toList).map _ = _
  rw [integer?_toString]
  split <;> simp_all

/-- An integer is listed as a number if it is one of 64 bits with a sign, and else as its text. -/
theorem Shape.choice_toString (n : Int) :
    Shape.integer.choice (toString n).toList
      = if -0x8000000000000000 ≤ n ∧ n < 0x8000000000000000 then .number (.int n)
        else .string (toString n) := by
  rw [Shape.choice, Shape.literal?_toString, String.ofList_toList]
  split <;> rfl

/-- The text of an integer has no blanks. -/
theorem not_isBlank_of_mem_toString {n : Int} {c : Char} (h : c ∈ (toString n).toList) :
    isBlank c = false := by
  -- It is made of digits, and perhaps a sign in front of them.
  have hdigit : ∀ c ∈ Nat.toDigits 10 n.natAbs, isBlank c = false := by
    intro c hc
    have hc := Nat.isDigit_of_mem_toDigits (by decide) (by decide) hc
    exact not_isBlank_of_isWord (isWord_of_ascii (.inl (by simp [Char.isAlphanum, hc])))
  rw [toList_toString_int] at h
  split at h
  · rcases List.mem_cons.mp h with rfl | h
    · decide
    · exact hdigit c h
  · exact hdigit c h

theorem trim_toString (n : Int) : trim (toString n).toList = (toString n).toList :=
  trim_of_ends (fun _ hc => not_isBlank_of_mem_toString (List.mem_of_head? hc))
    fun _ hc => not_isBlank_of_mem_toString (List.mem_of_getLast? hc)

/-- An integer as an example is what it is among choices. -/
theorem Field.exampleValue_toString (n : Int) :
    exampleValue (some .integer) (toString n) = Shape.integer.choice (toString n).toList := by
  show (Shape.integer.literal? (trim (toString n).toList)).getD _ = _
  rw [trim_toString, Shape.choice, String.ofList_toList]

/-! ### Fields -/

/-- Pointers around an integer do not show in its schema. -/
theorem Schema.ofFieldType_of_resolved {t : FieldType} (h : t.resolved = .integer) :
    ofFieldType t = .ofType .integer := by
  induction t with
  | pointer inner ih => exact ih h
  | integer => rfl
  | _ => cases h

namespace Field

variable {f : Field}

/-- **The schema of an integer field lists the words that its rules offer,** in their order. -/
theorem choices_schema (h : f.type.resolved = .integer) {rules : String}
    (hrules : f.tag? rulesKey = some rules) :
    f.schema.facets.choices = (Rule.offered rules).map Shape.integer.choice := by
  have hshape : Shape.ofType f.type = .integer := by
    unfold Shape.ofType
    rw [h]
  have hfacets : f.schema.facets = Facets.ofRules rules f.type := by
    unfold schema dress
    rw [Schema.ofFieldType_of_resolved h, hrules]
    exact Facets.empty_overlay _
  rw [hfacets, Facets.choices_ofRules, hshape]

theorem sample_schema (h : f.type.resolved = .integer) {text : String}
    (hexample : f.tag? exampleKey = some text) :
    f.schema.sample = some (exampleValue (some .integer) text) := by
  unfold schema dress
  rw [Schema.ofFieldType_of_resolved h, hexample]
  split <;> rfl

end Field

/-- **Which integers are listed and shown as integers** by the schema of an integer field, whatever
pointers are around its type: those of 64 bits with a sign.  A word among those to choose from keeps
its place. -/
theorem integer_literals_iff {f : Field} (htype : f.type.resolved = .integer) (n : Int) :
    (∀ rules, f.tag? Field.rulesKey = some rules →
      f.schema.facets.choices.length = (Rule.offered rules).length ∧
      ∀ i : Nat, (Rule.offered rules)[i]? = some (toString n).toList →
        (f.schema.facets.choices[i]? = some (.number (.int n))
          ↔ -0x8000000000000000 ≤ n ∧ n < 0x8000000000000000)) ∧
    (f.tag? Field.exampleKey = some (toString n) →
      (f.schema.sample = some (.number (.int n))
        ↔ -0x8000000000000000 ≤ n ∧ n < 0x8000000000000000)) := by
  have hvalue : Shape.integer.choice (toString n).toList = .number (.int n) ↔
      -0x8000000000000000 ≤ n ∧ n < 0x8000000000000000 := by
    rw [Shape.choice_toString]
    split
    · next h => exact iff_of_true rfl h
    · next h => exact iff_of_false nofun h
  constructor
  · intro rules hrules
    rw [Field.choices_schema htype hrules]
    refine ⟨List.length_map _, fun i hi => ?_⟩
    rw [List.getElem?_map, hi, Option.map_some, Option.some_inj]
    exact hvalue
  · intro hexample
    rw [Field.sample_schema htype hexample, Option.some_inj, Field.exampleValue_toString]
    exact hvalue

/-- The greatest integer with a sign, between other words and behind another choice. -/
theorem integer_literals_iff_greatest :
    let rules := "oneof=1 2,min=0, oneof = none\t9223372036854775807  -7 "
    let f : Field := {
      name := "Id", type := .pointer (.pointer .integer),
      tags := [("validate", rules), ("example", "9223372036854775807")] }
    f.schema.facets.choices[1]? = some (.number (.int 9223372036854775807)) ∧
      f.schema.sample = some (.number (.int 9223372036854775807)) := by
  intro rules f
  have htext : toString (9223372036854775807 : Int) = "9223372036854775807" := by decide
  have hoffered : (Rule.offered rules)[1]? = some "9223372036854775807".toList := by decide
  obtain ⟨hchoices, hsample⟩ := integer_literals_iff (f := f) rfl 9223372036854775807
  rw [htext] at hchoices hsample
  exact ⟨((hchoices rules rfl).2 1 hoffered).mpr (by decide), (hsample rfl).mpr (by decide)⟩

/-- **The greater half of the integers without a sign stays text,** among the choices and as an
example, though the types of such integers are integers. -/
theorem unsigned_integers_stay_text :
    let n : Int := 9223372036854775808
    let f : Field := {
      name := "Id", type := .ofTypeName "u64",
      tags := [("validate", "oneof=1 9223372036854775808"), ("example", "9223372036854775808")] }
    f.type = .integer ∧ 0 ≤ n ∧ n < 0x10000000000000000 ∧
      f.schema.facets.choices = [.number (.int 1), .string (toString n)] ∧
      f.schema.sample = some (.string (toString n)) := by
  intro n f
  have htype : f.type = .integer := by decide +kernel
  have hinteger : f.type.resolved = .integer := congrArg FieldType.resolved htype
  have htext : toString n = "9223372036854775808" := by decide
  have hoffered : Rule.offered "oneof=1 9223372036854775808"
      = [(toString (1 : Int)).toList, (toString n).toList] := by
    rw [htext]
    decide
  have hexample : f.tag? Field.exampleKey = some (toString n) := by
    rw [htext]
    rfl
  refine ⟨htype, by decide, by decide, ?_, ?_⟩
  · rw [Field.choices_schema hinteger rfl, hoffered, List.map_cons, List.map_cons,
      Shape.choice_toString, Shape.choice_toString]
    rfl
  · rw [Field.sample_schema hinteger hexample, Field.exampleValue_toString, Shape.choice_toString]
    rfl

end Callpoint
