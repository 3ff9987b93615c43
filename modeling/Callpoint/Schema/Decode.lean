import Callpoint.Json.Decode
import Callpoint.Schema.Basic

/-!
# Reading schemas

A schema is read from an object, of which unknown members are skipped, or from an array by position.
-/

namespace Callpoint.Schema

open Callpoint.Json Callpoint.Number

/-- The type of a value, by its name. -/
def typeDecoder : Decoder SchemaType :=
  (Decoder.variantInText (SchemaType.all.map SchemaType.name)).map fun name =>
    (SchemaType.ofName? name).getD .string

/-- What else an object may hold: a truth value or what `inner` decodes.  The whole value has to be
readable before it is looked at. -/
def extraDecoder (inner : Decoder Schema) : Decoder (Extra Schema) := fun depth r => do
  match ← Decoder.value depth r with
  | .bool any => return .allowed any
  | _ =>
    match inner depth r with
    | .ok s => return .matching s
    | .error _ => .error (.noVariant "AdditionalProperties")

/-- A schema from its members in the order of their positions. -/
def ofMembers (type : Option SchemaType) (format description reference : Option String)
    (properties : Assoc Schema) (required : List String) (extra : Option (Extra Schema))
    (items : Option Schema) (choices : List Json) (allOf : List Schema)
    (minimum maximum : Option Binary64) (exclusiveMinimum exclusiveMaximum : Bool)
    (minLength maxLength minItems maxItems : Option Nat) (uniqueItems : Bool)
    (sample : Option Json) : Schema where
  type := type
  description := description
  reference := reference
  properties := properties
  required := required
  extra := extra
  items := items
  allOf := allOf
  facets := { minimum, maximum, exclusiveMinimum, exclusiveMaximum, minLength, maxLength, minItems,
              maxItems, uniqueItems, format, choices }
  sample := sample

/-- The members of a schema, when `inner` decodes the schemas inside it. -/
def fields (inner : Decoder Schema) : Fields Schema :=
  ofMembers
    <$> Fields.omissible "type" typeDecoder
    <*> Fields.omissible "format" .string
    <*> Fields.omissible "description" .string
    <*> Fields.omissible "$ref" .string
    <*> Fields.defaulted "properties" (.mapping inner) []
    <*> Fields.defaulted "required" (.list .string) []
    <*> Fields.omissible "additionalProperties" (extraDecoder inner)
    <*> Fields.omissible "items" inner
    <*> Fields.defaulted "enum" (.list .value) []
    <*> Fields.defaulted "allOf" (.list inner) []
    <*> Fields.omissible "minimum" .binary
    <*> Fields.omissible "maximum" .binary
    <*> Fields.defaulted "exclusiveMinimum" .bool false
    <*> Fields.defaulted "exclusiveMaximum" .bool false
    <*> Fields.omissible "minLength" (.unsigned "u64" 64)
    <*> Fields.omissible "maxLength" (.unsigned "u64" 64)
    <*> Fields.omissible "minItems" (.unsigned "u64" 64)
    <*> Fields.omissible "maxItems" (.unsigned "u64" 64)
    <*> Fields.defaulted "uniqueItems" .bool false
    <*> Fields.omissible "example" .value

/-- Decodes schemas of at most `levels` levels. -/
def decoderOf (levels : Nat) : Decoder Schema :=
  match levels with
  | 0 => fun _ r => Decoder.unexpected "struct Schema" r
  | levels + 1 => .record "Schema" false (fields (decoderOf levels))

/-- **The decoder of schemas.** Every schema inside another stands in brackets of its own, so there
are no more levels than brackets that may be opened, and one more. -/
def decoder : Decoder Schema := fun depth r => decoderOf (depth + 1) depth r

end Callpoint.Schema
