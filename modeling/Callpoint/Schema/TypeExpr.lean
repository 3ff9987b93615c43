import Callpoint.Schema.FieldType

/-!
# Type expressions

A type as it is put together: from primitives, texts and types of a program's own, by sequences,
wrappers, maps, references, slices and arrays.  `TypeExpr.text` writes it down as its full name, in
which every path is written out, and `TypeExpr.fieldType` says constructor by constructor what a
field of the type holds.
-/

namespace Callpoint

open Callpoint.Text

/-! ### Primitives -/

/-- How many bits a whole number has. -/
inductive IntegerWidth where
  | bits8
  | bits16
  | bits32
  | bits64
  | bits128
  | pointer
deriving DecidableEq, Repr

/-- What is written behind the sign of a whole number. -/
def IntegerWidth.text : IntegerWidth → String
  | .bits8 => "8"
  | .bits16 => "16"
  | .bits32 => "32"
  | .bits64 => "64"
  | .bits128 => "128"
  | .pointer => "size"

/-- **Types that have no path.** -/
inductive Primitive where
  | boolean
  | character
  | text
  | integer (signed : Bool) (width : IntegerWidth)
  | float (double : Bool)
deriving DecidableEq, Repr

namespace Primitive

/-- The name of a primitive. -/
def name : Primitive → String
  | .boolean => "bool"
  | .character => "char"
  | .text => "str"
  | .integer signed width => (if signed then "i" else "u") ++ width.text
  | .float double => if double then "f64" else "f32"

/-- What a field of a primitive holds. -/
def fieldType : Primitive → FieldType
  | .boolean => .boolean
  | .character | .text => .string
  | .integer _ _ => .integer
  | .float _ => .number

end Primitive

/-! ### Paths -/

/-- Brackets, and the comma between arguments. -/
def isMark (c : Char) : Bool := ['<', '>', '[', ']', '(', ')', ','].contains c

/-- Characters of which the parts of a path consist. -/
def isNameChar (c : Char) : Bool :=
  !isMark c && !isBlank c && !([';', '&', ':', '\''].contains c)

/-- A text of which a path can consist. -/
def IsPath (cs : List Char) : Prop := cs ≠ [] ∧ ∀ c ∈ cs, isNameChar c = true ∨ c = ':'

instance (cs : List Char) : Decidable (IsPath cs) :=
  @instDecidableAnd _ _ inferInstance (List.decidableBAll _ cs)

/-- A part of a path. -/
def IsPart (part : String) : Prop := ∀ c ∈ part.toList, isNameChar c = true

instance (part : String) : Decidable (IsPart part) := List.decidableBAll _ part.toList

/-! ### Library types -/

/-- **A type of the standard library:** the modules in which it is found, and its name. -/
structure LibraryPath where
  modules : String
  name : String
  isPath : IsPath (modules.toList ++ ':' :: ':' :: name.toList) := by decide
  name_plain : ':' ∉ name.toList := by decide
deriving DecidableEq, Repr

/-- The path as it is written. -/
def LibraryPath.text (p : LibraryPath) : List Char :=
  p.modules.toList ++ ':' :: ':' :: p.name.toList

/-- **Sequences.** -/
inductive SequenceType where
  | vec
  | vecDeque
  | hashSet
  | bTreeSet
deriving DecidableEq, Repr

/-- Where a sequence is found. -/
def SequenceType.path : SequenceType → LibraryPath
  | .vec => { modules := "alloc::vec", name := "Vec" }
  | .vecDeque => { modules := "alloc::collections::vec_deque", name := "VecDeque" }
  | .hashSet => { modules := "std::collections::hash::set", name := "HashSet" }
  | .bTreeSet => { modules := "alloc::collections::btree::set", name := "BTreeSet" }

/-- **Wrappers,** which stand for their argument. -/
inductive WrapperType where
  | option
  | box
  | arc
  | rc
deriving DecidableEq, Repr

/-- Where a wrapper is found. -/
def WrapperType.path : WrapperType → LibraryPath
  | .option => { modules := "core::option", name := "Option" }
  | .box => { modules := "alloc::boxed", name := "Box" }
  | .arc => { modules := "alloc::sync", name := "Arc" }
  | .rc => { modules := "alloc::rc", name := "Rc" }

/-- **Maps.** -/
inductive MapType where
  | hashMap
  | bTreeMap
deriving DecidableEq, Repr

/-- Where a map is found. -/
def MapType.path : MapType → LibraryPath
  | .hashMap => { modules := "std::collections::hash::map", name := "HashMap" }
  | .bTreeMap => { modules := "alloc::collections::btree::map", name := "BTreeMap" }

/-- Where texts that can grow are found. -/
def stringPath : LibraryPath := { modules := "alloc::string", name := "String" }

/-! ### Types of a program's own -/

/-- The names that have a meaning of their own when a type name is lowered. -/
def knownNames : List String :=
  FieldType.textNames ++ FieldType.integerNames ++ ["f32", "f64", "bool"]
    ++ FieldType.dateTimeNames ++ FieldType.sequenceNames ++ FieldType.wrapperNames
    ++ FieldType.mapNames

/-- **The path of a type of a program's own:** modules and a name, which is not a known one. -/
structure UserPath where
  modules : List String
  name : String
  name_ne_empty : name ≠ ""
  name_unknown : name ∉ knownNames
  parts_plain : ∀ part ∈ name :: modules, IsPart part

namespace UserPath

/-- The modules as they are written in front of the name. -/
def front (p : UserPath) : List Char := p.modules.flatMap fun m => m.toList ++ [':', ':']

/-- The path as it is written. -/
def text (p : UserPath) : List Char := p.front ++ p.name.toList

/-- A path that lowering takes for the one of free-form values. -/
def IsFreeForm (p : UserPath) : Prop :=
  p.name = "Value" ∧ FieldType.freeFormPath.toList <+: p.text

instance (p : UserPath) : Decidable p.IsFreeForm :=
  inferInstanceAs (Decidable (_ ∧ _))

end UserPath

/-! ### Expressions -/

mutual

/-- **A type expression.** -/
inductive TypeExpr where
  | primitive (p : Primitive)
  | string
  | user (path : UserPath) (args : List TypeArgument)
  | sequence (type : SequenceType) (element : TypeExpr)
  | wrapper (type : WrapperType) (inner : TypeExpr)
  | map (type : MapType) (key value : TypeExpr)
  | reference (referent : TypeExpr)
  | slice (element : TypeExpr)
  | array (element : TypeExpr) (length : Nat)

/-- **An argument of a type:** another type, or a constant or a lifetime as it is written. -/
inductive TypeArgument where
  | type (t : TypeExpr)
  | literal (text : List Char)

end

/-- A path with its arguments between angle brackets. -/
def appliedTo (path args : List Char) : List Char := path ++ '<' :: (args ++ ['>'])

mutual

/-- **The full name of a type.** -/
def TypeExpr.text : TypeExpr → List Char
  | .primitive p => p.name.toList
  | .string => stringPath.text
  | .user path [] => path.text
  | .user path (a :: args) => appliedTo path.text (a.text ++ moreArgumentsText args)
  | .sequence c t => appliedTo c.path.text t.text
  | .wrapper c t => appliedTo c.path.text t.text
  | .map c k v => appliedTo c.path.text (k.text ++ ',' :: ' ' :: v.text)
  | .reference t => '&' :: t.text
  | .slice t => '[' :: (t.text ++ [']'])
  | .array t n => '[' :: (t.text ++ ';' :: ' ' :: (Nat.toDigits 10 n ++ [']']))

/-- An argument as it is written. -/
def TypeArgument.text : TypeArgument → List Char
  | .type t => t.text
  | .literal text => text

/-- Arguments behind the first one as they are written. -/
def moreArgumentsText : List TypeArgument → List Char
  | [] => []
  | a :: args => ',' :: ' ' :: (a.text ++ moreArgumentsText args)

end

namespace TypeExpr

/-- The full name as a text. -/
def fullName (t : TypeExpr) : String := String.ofList t.text

/-- **What a field of a type holds,** by how the type is put together.  References are looked
through, and a type of a program's own goes by its bare name. -/
def fieldType : TypeExpr → FieldType
  | .primitive p => p.fieldType
  | .string => .string
  | .user path args => .named (bareName (TypeExpr.user path args).fullName)
  | .sequence _ t => .array t.fieldType
  | .wrapper _ t => .pointer t.fieldType
  | .map _ _ _ => .map
  | .reference t => t.fieldType
  | .slice t => .array t.fieldType
  | .array t _ => .array t.fieldType

end TypeExpr

end Callpoint
