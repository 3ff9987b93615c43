import Callpoint.Json.Value

/-!
# Facets

The constraints that a schema puts on a value: bounds of numbers, lengths of texts, item counts of
arrays, a format and a choice of values.  Facets are laid over others: what the upper ones set wins,
what they leave open stays as it was.
-/

namespace Callpoint

open Callpoint.Number

/-- **Constraints on a value.** An exclusive flag says of a bound that it is not itself allowed. -/
structure Facets where
  minimum : Option Binary64 := none
  maximum : Option Binary64 := none
  exclusiveMinimum : Bool := false
  exclusiveMaximum : Bool := false
  minLength : Option Nat := none
  maxLength : Option Nat := none
  minItems : Option Nat := none
  maxItems : Option Nat := none
  uniqueItems : Bool := false
  format : Option String := none
  choices : List Json := []
deriving Inhabited

namespace Facets

/-- Whether nothing is constrained. -/
def isEmpty (f : Facets) : Bool :=
  f.minimum.isNone && f.maximum.isNone && !f.exclusiveMinimum && !f.exclusiveMaximum
    && f.minLength.isNone && f.maxLength.isNone && f.minItems.isNone && f.maxItems.isNone
    && !f.uniqueItems && f.format.isNone && f.choices.isEmpty

/-- The facets `upper` laid over `lower`. -/
def overlay (lower upper : Facets) : Facets where
  minimum := upper.minimum <|> lower.minimum
  maximum := upper.maximum <|> lower.maximum
  exclusiveMinimum := upper.exclusiveMinimum || lower.exclusiveMinimum
  exclusiveMaximum := upper.exclusiveMaximum || lower.exclusiveMaximum
  minLength := upper.minLength <|> lower.minLength
  maxLength := upper.maxLength <|> lower.maxLength
  minItems := upper.minItems <|> lower.minItems
  maxItems := upper.maxItems <|> lower.maxItems
  uniqueItems := upper.uniqueItems || lower.uniqueItems
  format := upper.format <|> lower.format
  choices := if upper.choices.isEmpty then lower.choices else upper.choices

theorem overlay_empty (f : Facets) : f.overlay {} = f := by
  cases f
  simp [overlay]

theorem empty_overlay (f : Facets) : Facets.overlay {} f = f := by
  cases f
  simp [overlay]

end Facets

end Callpoint
