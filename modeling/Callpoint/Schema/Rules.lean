import Callpoint.Number.Literal
import Callpoint.Schema.Facets
import Callpoint.Schema.FieldType
import Callpoint.Text.Blank
import Callpoint.Text.Pieces

/-!
# Validation rules

A rule text such as `required,min=3,max=64,email` is a list of tokens, each a name that may have a
parameter.  What a token means depends on the shape of the field: `min` bounds a number and the
length of a text.  A token that is unknown, does not fit the shape or has a parameter that cannot be
read says nothing, so turning rules into facets never fails.
-/

namespace Callpoint

open Callpoint.Number Callpoint.Text

/-- **How a field behaves under rules,** the pointers around it aside. -/
inductive Shape where
  | integer
  | number
  | string
  | boolean
  | array
  | other
deriving DecidableEq, Repr

namespace Shape

/-- The shape of a field type. -/
def ofType (t : FieldType) : Shape :=
  match t.resolved with
  | .integer => .integer
  | .number => .number
  | .string => .string
  | .boolean => .boolean
  | .array _ => .array
  | _ => .other

/-- Whether values of the shape have bounds. -/
def isNumeric : Shape → Bool
  | .integer | .number => true
  | _ => false

end Shape

/-! ### Literals in rules and examples -/

/-- A finite binary number. -/
def finiteNumber? (cs : List Char) : Option Binary64 :=
  (binary? cs).filter Binary64.isFinite

/-- A literal as a value of a shape; `none` if it is not one of that shape or the shape has no
literals of its own. -/
def Shape.literal? (shape : Shape) (cs : List Char) : Option Json :=
  match shape with
  | .integer => (integer? cs).map fun i => .number (.int i)
  | .number => (finiteNumber? cs).map fun x => .number (.float x)
  | .boolean =>
    if cs = "true".toList then some (.bool true)
    else if cs = "false".toList then some (.bool false)
    else none
  | _ => none

/-- One of the values to choose from: a literal of the shape, or else the text as it stands. -/
def Shape.choice (shape : Shape) (cs : List Char) : Json :=
  (shape.literal? cs).getD (.string (String.ofList cs))

/-! ### Rules -/

/-- **What a token demands of a value.** -/
inductive Rule where
  | minimum (bound : Binary64) (exclusive : Bool)
  | maximum (bound : Binary64) (exclusive : Bool)
  | minLength (count : Nat)
  | maxLength (count : Nat)
  | length (count : Nat)
  | itemCount (count : Nat)
  | uniqueItems
  | format (name : String)
  | oneOf (choices : List Json)

namespace Rule

/-- A token as written: a name and what stands behind the first equals sign. -/
structure Token where
  name : String
  param : Option (List Char)
deriving DecidableEq, Repr

/-- A token without the blanks around its parts. -/
def Token.ofText (cs : List Char) : Token :=
  match cutAtFirst '=' cs with
  | some (name, param) => ⟨String.ofList (trim name), some (trim param)⟩
  | none => ⟨String.ofList cs, none⟩

/-- The tokens of a rule text; empty ones are left out. -/
def tokens (rules : String) : List Token :=
  (((pieces ',' rules.toList).map trim).filter fun cs => !cs.isEmpty).map Token.ofText

/-- A count in a parameter. -/
def count? (cs : List Char) : Option Nat := natural? 64 cs

/-- What a bound on the size of a value demands: of a number its value, of a text its length. -/
def sized? (shape : Shape) (ofBound : Binary64 → Rule) (ofCount : Nat → Rule) (param : List Char) :
    Option Rule :=
  if shape.isNumeric then (finiteNumber? param).map ofBound
  else if shape = .string then (count? param).map ofCount
  else none

/-- What a bound on a number demands. -/
def numeric? (shape : Shape) (ofBound : Binary64 → Rule) (param : List Char) : Option Rule :=
  if shape.isNumeric then (finiteNumber? param).map ofBound else none

/-- The rule of a token with a parameter. -/
def withParam? (shape : Shape) (name : String) (param : List Char) : Option Rule :=
  match name with
  | "min" => sized? shape (.minimum · false) .minLength param
  | "max" => sized? shape (.maximum · false) .maxLength param
  | "gte" => numeric? shape (.minimum · false) param
  | "lte" => numeric? shape (.maximum · false) param
  | "gt" => numeric? shape (.minimum · true) param
  | "lt" => numeric? shape (.maximum · true) param
  | "len" =>
    if shape = .array then (count? param).map .itemCount
    else if shape = .string then (count? param).map .length
    else none
  | "datetime" => some (.format "date-time")
  | "oneof" => some (.oneOf ((words param).map shape.choice))
  | _ => none

/-- The rule of a token without a parameter. -/
def plain? (shape : Shape) (name : String) : Option Rule :=
  match name with
  | "unique" => if shape = .array then some .uniqueItems else none
  | "email" => some (.format "email")
  | "url" => some (.format "uri")
  | "uuid" | "uuid4" | "uuid5" => some (.format "uuid")
  | "datetime" => some (.format "date-time")
  | "ipv4" => some (.format "ipv4")
  | "ipv6" => some (.format "ipv6")
  | _ => none

/-- The rule of a token on a field of a shape, if it says anything. -/
def ofToken? (shape : Shape) (t : Token) : Option Rule :=
  match t.param with
  | some param => withParam? shape t.name param
  | none => plain? shape t.name

/-- Facets with a rule added.  A later bound replaces an earlier one, but a bound that was once
exclusive stays so. -/
def addTo (f : Facets) : Rule → Facets
  | .minimum bound exclusive =>
    { f with minimum := some bound, exclusiveMinimum := f.exclusiveMinimum || exclusive }
  | .maximum bound exclusive =>
    { f with maximum := some bound, exclusiveMaximum := f.exclusiveMaximum || exclusive }
  | .minLength n => { f with minLength := some n }
  | .maxLength n => { f with maxLength := some n }
  | .length n => { f with minLength := some n, maxLength := some n }
  | .itemCount n => { f with minItems := some n, maxItems := some n }
  | .uniqueItems => { f with uniqueItems := true }
  | .format name => { f with format := some name }
  | .oneOf choices => { f with choices := choices }

/-- The rules of a rule text on a field of a type. -/
def ofText (rules : String) (type : FieldType) : List Rule :=
  (tokens rules).filterMap (ofToken? (Shape.ofType type))

end Rule

/-- **The facets that a rule text implies for a field of a type.** -/
def Facets.ofRules (rules : String) (type : FieldType) : Facets :=
  (Rule.ofText rules type).foldl Rule.addTo {}

end Callpoint
