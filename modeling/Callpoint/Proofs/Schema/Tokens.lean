import Callpoint.Schema.Rules

/-!
# What tokens say

A token of a rule text is read by its name, by the shape of the field and by its parameter.  What
can come of it, and when, is said once (`Rule.Says`): what holds of all rules of a rule text is
shown by going through these cases (`Rule.says_of_mem_ofText`).
-/

namespace Callpoint

open Callpoint.Number Callpoint.Text

/-- The sides on which values are bounded. -/
inductive Side where
  | lower
  | upper
deriving DecidableEq, Repr

/-- The bounds on numbers by name. -/
def boundKind? : String → Option (Side × Bool)
  | "min" | "gte" => some (.lower, false)
  | "gt" => some (.lower, true)
  | "max" | "lte" => some (.upper, false)
  | "lt" => some (.upper, true)
  | _ => none

namespace Rule

variable {shape : Shape} {t : Token} {r : Rule}

/-- The count that a token has as its parameter. -/
def Token.count? (t : Token) : Option Nat := t.param.bind Rule.count?

/-- The rule that bounds numbers on a side. -/
def ofBound : Side → Bool → Binary64 → Rule
  | .lower, strict, x => .minimum x strict
  | .upper, strict, x => .maximum x strict

/-- **What a token can say,** and when. -/
inductive Says (shape : Shape) (t : Token) : Rule → Prop
  | bound (side : Side) {strict : Bool} {param : List Char} {x : Binary64}
      (hshape : shape.isNumeric = true) (hkind : boundKind? t.name = some (side, strict))
      (hparam : t.param = some param) (hx : finiteNumber? param = some x) :
      Says shape t (.ofBound side strict x)
  | minLength {n : Nat} (hshape : shape = .string) (hname : t.name = "min")
      (hn : t.count? = some n) : Says shape t (.minLength n)
  | maxLength {n : Nat} (hshape : shape = .string) (hname : t.name = "max")
      (hn : t.count? = some n) : Says shape t (.maxLength n)
  | length {n : Nat} (hshape : shape = .string) (hname : t.name = "len")
      (hn : t.count? = some n) : Says shape t (.length n)
  | itemCount {n : Nat} (hshape : shape = .array) (hname : t.name = "len")
      (hn : t.count? = some n) : Says shape t (.itemCount n)
  | uniqueItems (hshape : shape = .array) : Says shape t .uniqueItems
  | format (name : String) : Says shape t (.format name)
  | oneOf {param : List Char} (hname : t.name = "oneof") (hparam : t.param = some param) :
      Says shape t (.oneOf ((words param).map shape.choice))

theorem of_numeric? {ofBound : Binary64 → Rule} {param : List Char}
    (h : numeric? shape ofBound param = some r) :
    shape.isNumeric = true ∧ ∃ x, finiteNumber? param = some x ∧ r = ofBound x := by
  obtain ⟨hshape, hmap⟩ := Option.ite_none_right_eq_some.mp h
  obtain ⟨x, hx, rfl⟩ := Option.map_eq_some_iff.mp hmap
  exact ⟨hshape, x, hx, rfl⟩

theorem of_sized? {ofBound : Binary64 → Rule} {ofCount : Nat → Rule} {param : List Char}
    (h : sized? shape ofBound ofCount param = some r) :
    (shape.isNumeric = true ∧ ∃ x, finiteNumber? param = some x ∧ r = ofBound x) ∨
      (shape = .string ∧ ∃ n, Rule.count? param = some n ∧ r = ofCount n) := by
  unfold sized? at h
  split at h
  · next hshape =>
    obtain ⟨x, hx, rfl⟩ := Option.map_eq_some_iff.mp h
    exact .inl ⟨hshape, x, hx, rfl⟩
  · obtain ⟨hshape, hmap⟩ := Option.ite_none_right_eq_some.mp h
    obtain ⟨n, hn, rfl⟩ := Option.map_eq_some_iff.mp hmap
    exact .inr ⟨hshape, n, hn, rfl⟩

theorem says_of_withParam? {name : String} {param : List Char}
    (h : withParam? shape name param = some r) : Says shape ⟨name, some param⟩ r := by
  unfold withParam? at h
  split at h
  · rcases of_sized? h with ⟨hshape, x, hx, rfl⟩ | ⟨hshape, n, hn, rfl⟩
    · exact .bound .lower hshape rfl rfl hx
    · exact .minLength hshape rfl hn
  · rcases of_sized? h with ⟨hshape, x, hx, rfl⟩ | ⟨hshape, n, hn, rfl⟩
    · exact .bound .upper hshape rfl rfl hx
    · exact .maxLength hshape rfl hn
  · obtain ⟨hshape, x, hx, rfl⟩ := of_numeric? h
    exact .bound .lower hshape rfl rfl hx
  · obtain ⟨hshape, x, hx, rfl⟩ := of_numeric? h
    exact .bound .upper hshape rfl rfl hx
  · obtain ⟨hshape, x, hx, rfl⟩ := of_numeric? h
    exact .bound .lower hshape rfl rfl hx
  · obtain ⟨hshape, x, hx, rfl⟩ := of_numeric? h
    exact .bound .upper hshape rfl rfl hx
  · split at h
    · next hshape =>
      obtain ⟨n, hn, rfl⟩ := Option.map_eq_some_iff.mp h
      exact .itemCount hshape rfl hn
    · obtain ⟨hshape, hmap⟩ := Option.ite_none_right_eq_some.mp h
      obtain ⟨n, hn, rfl⟩ := Option.map_eq_some_iff.mp hmap
      exact .length hshape rfl hn
  · cases h
    exact .format _
  · cases h
    exact .oneOf rfl rfl
  · cases h

theorem says_of_plain? {name : String} (h : plain? shape name = some r) :
    Says shape ⟨name, none⟩ r := by
  unfold plain? at h
  split at h
  · obtain ⟨hshape, heq⟩ := Option.ite_none_right_eq_some.mp h
    cases heq
    exact .uniqueItems hshape
  all_goals first
    | cases h
      exact .format _
    | exact nomatch h

/-- A token says nothing but what it can say. -/
theorem says_of_ofToken? (h : ofToken? shape t = some r) : Says shape t r := by
  obtain ⟨name, param⟩ := t
  cases param with
  | some param => exact says_of_withParam? h
  | none => exact says_of_plain? h

theorem says_of_mem_ofText {rules : String} {type : FieldType} (h : r ∈ ofText rules type) :
    ∃ t ∈ tokens rules, Says (Shape.ofType type) t r := by
  obtain ⟨t, ht, hr⟩ := List.mem_filterMap.mp h
  exact ⟨t, ht, says_of_ofToken? hr⟩

end Rule

end Callpoint
