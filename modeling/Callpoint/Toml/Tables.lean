import Callpoint.Toml.Value

/-!
# Building tables

Lines add to a document at paths of names.  A path leads through tables that are there already, as
far as those may still be added to, and makes the ones that are missing.  A name is set once: no
line changes what an earlier one said.
-/

namespace Callpoint.Toml

/-- The members of a table, and how it came about. -/
abbrev Body := TableKind × Assoc Toml

/-- **Changes the table at a path.** Below a header, `dotted` names lead only through tables that
have no header; header names lead also to the last table of a list. -/
def change (dotted : Bool) (f : Body → Option (Assoc Toml)) :
    List String → Body → Option (Assoc Toml)
  | [], body => f body
  | name :: path, (_, ms) =>
    match ms.get? name with
    | none =>
      let kind := if dotted then TableKind.dotted else .implied
      (change dotted f path (kind, [])).map fun inner => ms.set name (.table kind inner)
    | some (.table kind inner) =>
      if kind = .inline ∨ (dotted ∧ kind = .header) then none
      else (change dotted f path (kind, inner)).map fun inner => ms.set name (.table kind inner)
    | some (.tables items) =>
      (items.getLast?).bind fun last =>
        (change dotted f path (.header, last)).map fun last =>
          ms.set name (.tables (items.dropLast ++ [last]))
    | some _ => none

/-- Adds a name to a table.  A dotted path must end in a table made by dotted names, a single name
stands in a table that was not. -/
def addName (dotted : Bool) (name : String) (v : Toml) (body : Body) : Option (Assoc Toml) :=
  if (body.1 = .dotted) ≠ dotted ∨ (body.2.get? name).isSome then none
  else some (body.2.set name v)

/-- Adds a value under a dotted name to a table. -/
def addValue (path : List String) (v : Toml) (body : Body) : Option (Assoc Toml) :=
  path.getLast?.bind fun name =>
    change true (addName (1 < path.length) name v) path.dropLast body

/-- Gives a table its header: there is no such table yet, or it was only implied. -/
def openTable (path : List String) (root : Assoc Toml) : Option (Assoc Toml) :=
  path.getLast?.bind fun name =>
    change false (fun (_, ms) =>
      match ms.get? name with
      | none => some (ms.set name (.table .header []))
      | some (.table .implied inner) => some (ms.set name (.table .header inner))
      | some _ => none) path.dropLast (.header, root)

/-- Adds a table to the list under a repeated header. -/
def openItem (path : List String) (root : Assoc Toml) : Option (Assoc Toml) :=
  path.getLast?.bind fun name =>
    change false (fun (_, ms) =>
      match ms.get? name with
      | none => some (ms.set name (.tables [[]]))
      | some (.tables items) => some (ms.set name (.tables (items ++ [[]])))
      | some _ => none) path.dropLast (.header, root)

/-- Adds a value below the header `section`. -/
def addBelow (header path : List String) (v : Toml) (root : Assoc Toml) : Option (Assoc Toml) :=
  change false (addValue path v) header (.header, root)

end Callpoint.Toml
