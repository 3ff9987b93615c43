import Callpoint.Assoc
import Callpoint.Number.Binary64

/-!
# TOML documents

A document is a table of named values.  A table remembers how it was written, because that decides
whether a later line may add to it: a table between braces is closed, a table under a header of its
own may not be opened again, and a table that only a longer header implied may still get its header.
-/

namespace Callpoint

/-- **How a table came about.** -/
inductive TableKind where
  /-- Written between braces. -/
  | inline
  /-- Written under a header of its own, or the document itself. -/
  | header
  /-- Implied by the header of a table inside it. -/
  | implied
  /-- Implied by a dotted name inside it. -/
  | dotted
deriving DecidableEq, Repr, Inhabited

/-- **A TOML value.** Tables under repeated headers form a list of their own kind. -/
inductive Toml where
  | string (value : String)
  | integer (value : Int)
  | float (value : Number.Binary64)
  | bool (value : Bool)
  | dateTime (text : String)
  | array (items : List Toml)
  | tables (items : List (List (String × Toml)))
  | table (kind : TableKind) (members : List (String × Toml))
deriving Inhabited

end Callpoint
