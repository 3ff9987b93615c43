import Callpoint.Text.Letter

/-!
# Names of types

A type is known by its full name, in which every path is written out.  What people see is the bare
name: of each path only the last segment, with all punctuation between the paths kept, so that
`a::b::Page<c::User>` becomes `Page<User>`.
-/

namespace Callpoint

open Callpoint.Text

namespace TypeName

/-- Characters of which a path consists: letters and digits of any script, underscores, colons. -/
def isPathChar (c : Char) : Bool := isAlphanumeric c || c == '_' || c == ':'

/-- Whether two colons follow each other somewhere. -/
def hasSeparator : List Char → Bool
  | ':' :: ':' :: _ => true
  | _ :: cs => hasSeparator cs
  | [] => false

/-- What stands behind the last two colons that follow each other, or all of it. -/
def lastSegment : List Char → List Char
  | [] => []
  | c :: cs =>
    if hasSeparator cs then lastSegment cs
    else if c = ':' ∧ cs.head? = some ':' then cs.drop 1
    else c :: cs

/-- The bare form of a text, when `path` holds the path characters just read, last first. -/
def bareFrom (path : List Char) : List Char → List Char
  | [] => lastSegment path.reverse
  | c :: cs =>
    if isPathChar c then bareFrom (c :: path) cs
    else lastSegment path.reverse ++ c :: bareFrom [] cs

end TypeName

/-- **The bare name of a full type name:** every maximal run of path characters is reduced to its
last segment. -/
def bareName (full : String) : String :=
  String.ofList (TypeName.bareFrom [] full.toList)

/-- **A type as an endpoint refers to it.** `placeholder` marks the one type that stands for no body
at all; a type of the same name that is not marked is an ordinary one. -/
structure TypeRef where
  fullName : String
  placeholder : Bool := false
deriving DecidableEq, Repr, Inhabited

namespace TypeRef

/-- The type that stands for no body. -/
def noBody : TypeRef := ⟨"NoBody", true⟩

/-- The name shown for a type. -/
def name (t : TypeRef) : String := bareName t.fullName

/-- Whether two references are to one type. -/
def same (t u : TypeRef) : Bool :=
  (t.placeholder && u.placeholder) ||
    (!t.placeholder && !u.placeholder && t.fullName == u.fullName)

end TypeRef

end Callpoint
