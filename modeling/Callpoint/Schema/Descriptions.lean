import Callpoint.Schema.Field

/-!
# Descriptions of types

Which fields the described types have, by the bare names of the types.
-/

namespace Callpoint

/-- **Types with their fields.** -/
structure Descriptions where
  types : Assoc (List Field) := []
deriving Inhabited

namespace Descriptions

/-- Describes a type, in place of what was known of it. -/
def insert (d : Descriptions) (name : String) (fields : List Field) : Descriptions :=
  ⟨d.types.set (bareName name) fields⟩

/-- The fields of a type that is described, by its bare name. -/
def fields? (d : Descriptions) (name : String) : Option (List Field) := d.types.get? name

/-- How many types are described. -/
def size (d : Descriptions) : Nat := d.types.length

/-- What `d` describes, and besides it what `more` does. -/
def orElse (d more : Descriptions) : Descriptions := ⟨d.types ++ more.types⟩

theorem fields?_orElse (d more : Descriptions) (name : String) :
    (d.orElse more).fields? name = (d.fields? name <|> more.fields? name) := by
  simp only [fields?, orElse, Assoc.get?]
  induction d.types with
  | nil => simp
  | cons p types ih =>
    obtain ⟨n, fields⟩ := p
    simp only [List.cons_append, List.lookup_cons]
    cases name == n <;> simp [ih]

end Descriptions

end Callpoint
