import Callpoint.Proofs.Schema.Tokens
import Callpoint.Proofs.Text.Blank
import Callpoint.Proofs.Text.Lines
import Callpoint.Schema.Basic

/-!
# Rules over rules

Facets that are laid over others do so facet by facet: what the upper ones set is what they have,
and what they leave open shows the lower ones (`Facets.get_overlay`).  A rule adds to facets just as
the facets of that rule alone are laid over them (`Rule.addTo_eq_overlay`), with one exception: a
choice of nothing takes away the values that were to be chosen from, but facets without a choice
leave them.

Apart from that one rule, a rule text may be cut at any comma.  What its two parts mean for a schema
one after the other is what the whole means (`Schema.constrain_ofRules_append`).
-/

namespace Callpoint

open Callpoint.Number Callpoint.Text

/-! ### Facets one by one -/

/-- **The facets,** by what they constrain. -/
inductive Facet where
  | minimum
  | maximum
  | exclusiveMinimum
  | exclusiveMaximum
  | minLength
  | maxLength
  | minItems
  | maxItems
  | uniqueItems
  | format
  | choices
deriving DecidableEq, Repr

/-- **What a facet is set to.** -/
inductive Setting where
  | bound (limit : Option Binary64)
  | flag (up : Bool)
  | count (limit : Option Nat)
  | name (format : Option String)
  | values (choices : List Json)

/-- Whether a setting constrains nothing. -/
def Setting.isOpen : Setting → Bool
  | .bound limit => limit.isNone
  | .flag up => !up
  | .count limit => limit.isNone
  | .name format => format.isNone
  | .values choices => choices.isEmpty

namespace Facets

variable {f g : Facets}

/-- What one of the facets is set to. -/
def get (f : Facets) : Facet → Setting
  | .minimum => .bound f.minimum
  | .maximum => .bound f.maximum
  | .exclusiveMinimum => .flag f.exclusiveMinimum
  | .exclusiveMaximum => .flag f.exclusiveMaximum
  | .minLength => .count f.minLength
  | .maxLength => .count f.maxLength
  | .minItems => .count f.minItems
  | .maxItems => .count f.maxItems
  | .uniqueItems => .flag f.uniqueItems
  | .format => .name f.format
  | .choices => .values f.choices

theorem ext_get (h : ∀ k, f.get k = g.get k) : f = g := by
  obtain ⟨⟩ := f
  obtain ⟨⟩ := g
  simp only [mk.injEq]
  exact ⟨Setting.bound.inj (h .minimum), Setting.bound.inj (h .maximum),
    Setting.flag.inj (h .exclusiveMinimum), Setting.flag.inj (h .exclusiveMaximum),
    Setting.count.inj (h .minLength), Setting.count.inj (h .maxLength),
    Setting.count.inj (h .minItems), Setting.count.inj (h .maxItems),
    Setting.flag.inj (h .uniqueItems), Setting.name.inj (h .format),
    Setting.values.inj (h .choices)⟩

/-- **Facets over others:** what the upper ones leave open is as in the lower ones, and all else is
as the upper ones set it. -/
theorem get_overlay (lower upper : Facets) (k : Facet) :
    (lower.overlay upper).get k
      = if (upper.get k).isOpen then lower.get k else upper.get k := by
  obtain ⟨minimum, maximum, exclusiveMinimum, exclusiveMaximum, minLength, maxLength, minItems,
    maxItems, uniqueItems, format, choices⟩ := upper
  cases k with
  | minimum => cases minimum <;> rfl
  | maximum => cases maximum <;> rfl
  | exclusiveMinimum => cases exclusiveMinimum <;> rfl
  | exclusiveMaximum => cases exclusiveMaximum <;> rfl
  | minLength => cases minLength <;> rfl
  | maxLength => cases maxLength <;> rfl
  | minItems => cases minItems <;> rfl
  | maxItems => cases maxItems <;> rfl
  | uniqueItems => cases uniqueItems <;> rfl
  | format => cases format <;> rfl
  | choices => cases choices <;> rfl

/-- Facets may be laid over others in any grouping. -/
theorem overlay_assoc (f g h : Facets) : (f.overlay g).overlay h = f.overlay (g.overlay h) := by
  refine ext_get fun k => ?_
  simp only [get_overlay]
  -- What the topmost ones leave open is as in the middle ones on both sides.
  by_cases hopen : (h.get k).isOpen = true
  · simp only [hopen, if_true]
  · simp only [hopen, if_false, Bool.false_eq_true]

end Facets

/-! ### Rule by rule -/

namespace Rule

variable {rule : Rule} {rules : List Rule} {shape : Shape} {token : Token} {choices : List Json}

/-- **A rule is laid over the others** as the facets of that rule alone, unless it is a choice of
nothing. -/
theorem addTo_eq_overlay (h : rule ≠ .oneOf []) (f : Facets) :
    rule.addTo f = f.overlay (rule.addTo {}) := by
  cases rule with
  | minimum bound exclusive => simp [addTo, Facets.overlay, Bool.or_comm]
  | maximum bound exclusive => simp [addTo, Facets.overlay, Bool.or_comm]
  | oneOf choices =>
    have hne : choices ≠ [] := fun hnil => h (hnil ▸ rfl)
    simp [addTo, Facets.overlay, hne]
  | _ => simp [addTo, Facets.overlay]

/-- Rules are laid over the others as the facets of these rules alone. -/
theorem foldl_addTo_eq_overlay (h : ∀ rule ∈ rules, rule ≠ .oneOf []) (f : Facets) :
    rules.foldl addTo f = f.overlay (rules.foldl addTo {}) := by
  -- By induction on the rules over any facets, for the next rule is laid over what this one leaves.
  induction rules generalizing f with
  | nil => exact f.overlay_empty.symm
  | cons rule rules ih =>
    obtain ⟨hrule, hrules⟩ := List.forall_mem_cons.mp h
    calc rules.foldl addTo (rule.addTo f)
        = (rule.addTo f).overlay (rules.foldl addTo {}) := ih hrules _
      _ = (f.overlay (rule.addTo {})).overlay (rules.foldl addTo {}) := by
          rw [addTo_eq_overlay hrule]
      _ = f.overlay ((rule.addTo {}).overlay (rules.foldl addTo {})) := Facets.overlay_assoc ..
      _ = f.overlay (rules.foldl addTo (rule.addTo {})) :=
          congrArg f.overlay (ih hrules _).symm

/-! ### Rule texts -/

/-- **A choice of nothing:** what stands behind the equals sign is blank. -/
def Token.ChoosesNothing (token : Token) : Prop :=
  token.name = "oneof" ∧ ∃ param ∈ token.param, ∀ c ∈ param, isBlank c = true

instance (token : Token) : Decidable token.ChoosesNothing :=
  have (param : List Char) : Decidable (∀ c ∈ param, isBlank c = true) := List.decidableBAll _ param
  inferInstanceAs (Decidable (_ ∧ ∃ param ∈ token.param, ∀ c ∈ param, isBlank c = true))

/-- Only a choice of nothing makes the rule that is one. -/
theorem Says.ne_oneOf_nil (hrule : Says shape token rule) (h : ¬ token.ChoosesNothing) :
    rule ≠ .oneOf [] := by
  cases hrule with
  | oneOf hname hparam =>
    intro heq
    have hwords := List.map_eq_nil_iff.mp (Rule.oneOf.inj heq)
    exact h ⟨hname, _, hparam, words_eq_nil_iff.mp hwords⟩
  | bound side => cases side <;> exact nofun
  | _ => exact nofun

/-- A rule text may be cut at a comma. -/
theorem tokens_append (before behind : String) :
    tokens (before ++ "," ++ behind) = tokens before ++ tokens behind := by
  have hpieces : pieces ',' (before ++ "," ++ behind).toList
      = pieces ',' before.toList ++ pieces ',' behind.toList := by
    rw [String.toList_append, String.toList_append, List.append_assoc]
    exact pieces_append_sep ',' _ _
  simp only [tokens, hpieces, List.map_append, List.filter_append]

theorem ofText_append (before behind : String) (type : FieldType) :
    ofText (before ++ "," ++ behind) type = ofText before type ++ ofText behind type := by
  rw [ofText, tokens_append, List.filterMap_append, ofText, ofText]

end Rule

variable {before behind : String}

/-- The facets of the whole are those of the second part, laid over those of the first. -/
theorem Facets.ofRules_append (h : ∀ token ∈ Rule.tokens behind, ¬ token.ChoosesNothing)
    (type : FieldType) :
    ofRules (before ++ "," ++ behind) type = (ofRules before type).overlay (ofRules behind type) := by
  rw [ofRules, Rule.ofText_append, List.foldl_append]
  refine Rule.foldl_addTo_eq_overlay (fun rule hrule => ?_) _
  obtain ⟨token, htoken, hof⟩ := Rule.says_of_mem_ofText hrule
  exact hof.ne_oneOf_nil (h token htoken)

namespace Schema

theorem constrain_overlay (s : Schema) (f g : Facets) :
    s.constrain (f.overlay g) = (s.constrain f).constrain g := by
  rw [constrain, ← Facets.overlay_assoc]
  rfl

/-- **Rule texts compose.**  Whatever the tokens of two rule texts are, what the two together mean
for a schema is what the first means for it and the second for the outcome, unless the second holds
a choice of nothing.  A facet that the second leaves open is as the first sets it, and as it was in
the schema if both leave it open. -/
theorem constrain_ofRules_append (h : ∀ token ∈ Rule.tokens behind, ¬ token.ChoosesNothing)
    (type : FieldType) (s : Schema) :
    s.constrain (.ofRules (before ++ "," ++ behind) type)
      = (s.constrain (.ofRules before type)).constrain (.ofRules behind type) ∧
    ∀ k, ((Facets.ofRules behind type).get k).isOpen = true →
      (s.constrain (.ofRules (before ++ "," ++ behind) type)).facets.get k
        = if ((Facets.ofRules before type).get k).isOpen then s.facets.get k
          else (Facets.ofRules before type).get k := by
  have hwhole : s.constrain (.ofRules (before ++ "," ++ behind) type)
      = (s.constrain (.ofRules before type)).constrain (.ofRules behind type) := by
    rw [Facets.ofRules_append h, constrain_overlay]
  refine ⟨hwhole, fun k hopen => ?_⟩
  calc (s.constrain (.ofRules (before ++ "," ++ behind) type)).facets.get k
      = ((s.facets.overlay (.ofRules before type)).overlay (.ofRules behind type)).get k :=
        congrArg (fun s => s.facets.get k) hwhole
    _ = (s.facets.overlay (.ofRules before type)).get k := by rw [Facets.get_overlay, if_pos hopen]
    _ = _ := Facets.get_overlay ..

/-- A choice of nothing takes the values away, but facets that leave them open do not. -/
example : (string.constrain (.ofRules "oneof=a b,oneof= " .string)).facets.choices.length = 0 ∧
    ((string.constrain (.ofRules "oneof=a b" .string)).constrain
      (.ofRules "oneof= " .string)).facets.choices.length = 2 := by decide

/-- A limit on both sides. -/
def limits : String := "gt=0,max=64"

/-- A limit on one side, and a choice. -/
def moreLimits : String := "required,lte=10,oneof=3 5"

/-- The upper limit is set again and the lower one is kept. -/
theorem constrain_ofRules_append_limits :
    (∀ token ∈ Rule.tokens moreLimits, ¬ token.ChoosesNothing) ∧
    (ofType .integer).constrain (.ofRules (limits ++ "," ++ moreLimits) .integer)
      = ((ofType .integer).constrain (.ofRules limits .integer)).constrain
        (.ofRules moreLimits .integer) ∧
    ((Facets.ofRules moreLimits .integer).get .minimum).isOpen = true ∧
    ((ofType .integer).constrain
      (.ofRules (limits ++ "," ++ moreLimits) .integer)).facets.get .minimum
        = (Facets.ofRules limits .integer).get .minimum := by
  have hchooses : ∀ token ∈ Rule.tokens moreLimits, ¬ token.ChoosesNothing := by decide
  have hopen : ((Facets.ofRules moreLimits .integer).get .minimum).isOpen = true := by decide
  have hset : ((Facets.ofRules limits .integer).get .minimum).isOpen ≠ true := by decide
  obtain ⟨hwhole, hkept⟩ :=
    @constrain_ofRules_append limits moreLimits hchooses .integer (ofType .integer)
  exact ⟨hchooses, hwhole, hopen, (hkept .minimum hopen).trans (if_neg hset)⟩

end Schema

end Callpoint
