import Callpoint.Assoc
import Callpoint.Json.Text
import Callpoint.Schema.Facets
import Callpoint.Text.Pieces

/-!
# Schemas

A schema says what a value looks like: a primitive, an array of items, an object with properties, a
reference to a component, or a combination of others.  `Schema.toJson` writes it; what is not set is
not written.
-/

namespace Callpoint

/-- **The type of a value.** -/
inductive SchemaType where
  | string
  | number
  | integer
  | boolean
  | array
  | object
deriving DecidableEq, Repr, Inhabited

namespace SchemaType

/-- The name of a type. -/
def name : SchemaType → String
  | .string => "string"
  | .number => "number"
  | .integer => "integer"
  | .boolean => "boolean"
  | .array => "array"
  | .object => "object"

/-- All types. -/
def all : List SchemaType := [.string, .number, .integer, .boolean, .array, .object]

/-- The type of a name. -/
def ofName? (name : String) : Option SchemaType := all.find? fun t => t.name == name

theorem ofName?_name (t : SchemaType) : ofName? t.name = some t := by
  cases t <;> decide

end SchemaType

/-- **What an object may hold besides its properties:** anything or nothing, or values of a schema.
-/
inductive Extra (S : Type) where
  | allowed (any : Bool)
  | matching (schema : S)

/-- **A schema.** -/
structure Schema where
  type : Option SchemaType := none
  description : Option String := none
  reference : Option String := none
  properties : List (String × Schema) := []
  required : List String := []
  extra : Option (Extra Schema) := none
  items : Option Schema := none
  allOf : List Schema := []
  facets : Facets := {}
  sample : Option Json := none

/-- **What shape a schema has.** -/
inductive SchemaKind where
  | primitive
  | array
  | object
  | reference
  | other
deriving DecidableEq, Repr

/-- The name of a kind. -/
def SchemaKind.name : SchemaKind → String
  | .primitive => "Primitive"
  | .array => "Array"
  | .object => "Object"
  | .reference => "Ref"
  | .other => "Other"

namespace Schema

instance : Inhabited Schema := ⟨{}⟩

/-- The schema of all values of a type. -/
def ofType (t : SchemaType) : Schema := { type := some t }

/-- The schema of texts. -/
def string : Schema := ofType .string

/-- The schema of objects. -/
def object : Schema := ofType .object

/-- The schema of objects that may hold anything. -/
def anyObject : Schema := { type := some .object, extra := some (.allowed true) }

/-- The schema of points in time. -/
def dateTime : Schema := { type := some .string, facets := { format := some "date-time" } }

/-- The schema of arrays of items. -/
def array (items : Schema) : Schema := { type := some .array, items := some items }

/-- What references to components start with. -/
def componentPath : String := "#/components/schemas/"

/-- A reference to a component. -/
def component (name : String) : Schema := { reference := some (componentPath ++ name) }

/-- The schema with a property set. -/
def withProperty (s : Schema) (name : String) (p : Schema) : Schema :=
  { s with properties := Assoc.set name p s.properties }

/-- The schema with one more required property. -/
def withRequired (s : Schema) (name : String) : Schema :=
  { s with required := s.required ++ [name] }

/-- The schema with facets laid over its own. -/
def constrain (s : Schema) (f : Facets) : Schema := { s with facets := s.facets.overlay f }

/-- The shape of a schema. -/
def kind (s : Schema) : SchemaKind :=
  match s.reference, s.type with
  | some _, _ => .reference
  | none, some .array => .array
  | none, some .object => .object
  | none, some _ => .primitive
  | none, none => .other

/-- The component that a schema refers to. -/
def referenced? (s : Schema) : Option String :=
  s.reference.bind fun r =>
    if componentPath.toList.isPrefixOf r.toList then
      some (String.ofList (r.toList.drop componentPath.length))
    else none

/-! ### Writing -/

/-- A list that is written unless it is empty. -/
def nonEmpty (xs : List Json) : Option Json := if xs.isEmpty then none else some (.array xs)

/-- A flag that is written only when it is up. -/
def flag (b : Bool) : Option Json := if b then some (.bool true) else none

mutual

/-- **The schema as it is written.** -/
def toJson (s : Schema) : Json :=
  match s with
  | ⟨type, description, reference, properties, required, extra, items, allOf, facets, sample⟩ =>
    .object (Json.presentMembers [
      ("type", type.map fun t => .string t.name),
      ("format", facets.format.map .string),
      ("description", description.map .string),
      ("$ref", reference.map .string),
      ("properties", if properties.isEmpty then none else some (.object (memberList properties))),
      ("required", nonEmpty (required.map .string)),
      ("additionalProperties", extraToJson extra),
      ("items", itemsToJson items),
      ("enum", nonEmpty facets.choices),
      ("allOf", nonEmpty (schemaList allOf)),
      ("minimum", facets.minimum.map Json.ofBinary),
      ("maximum", facets.maximum.map Json.ofBinary),
      ("exclusiveMinimum", flag facets.exclusiveMinimum),
      ("exclusiveMaximum", flag facets.exclusiveMaximum),
      ("minLength", facets.minLength.map Json.nat),
      ("maxLength", facets.maxLength.map Json.nat),
      ("minItems", facets.minItems.map Json.nat),
      ("maxItems", facets.maxItems.map Json.nat),
      ("uniqueItems", flag facets.uniqueItems),
      ("example", sample)])

/-- What else an object may hold, as it is written. -/
def extraToJson : Option (Extra Schema) → Option Json
  | none => none
  | some (.allowed any) => some (.bool any)
  | some (.matching s) => some (toJson s)

/-- The schema of items as it is written. -/
def itemsToJson : Option Schema → Option Json
  | none => none
  | some s => some (toJson s)

/-- Schemas in a row. -/
def schemaList : List Schema → List Json
  | [] => []
  | s :: rest => toJson s :: schemaList rest

/-- Schemas with names. -/
def memberList : List (String × Schema) → List (String × Json)
  | [] => []
  | (name, s) :: rest => (name, toJson s) :: memberList rest

end

/-- Whether two schemas say the same.  The order of properties does not matter. -/
def same (s t : Schema) : Bool := s.toJson.freeForm.same t.toJson.freeForm

end Schema

end Callpoint
