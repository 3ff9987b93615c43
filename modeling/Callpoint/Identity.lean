import Callpoint.Assoc

/-!
# Identities

Who makes a call.  An identity answers whether it is authenticated and which scopes and roles it
holds, and carries usage counters.  Only these answers are known about it, so the answers may follow
any rule.
-/

namespace Callpoint

/-- **A caller as the gate sees it.** -/
structure Identity where
  id : String
  tenant : Option String := none
  authenticated : Bool := true
  hasScope : String → Bool := fun _ => false
  hasRole : String → Bool := fun _ => false
  /-- Usage counters; a key that is missing counts as zero. -/
  stats : Assoc Nat := []

namespace Identity

/-- The caller of a request that carries no identity. -/
def anonymous : Identity := { id := "anonymous", authenticated := false }

/-- A caller given by the scopes, roles and counters it holds. -/
def holding (id : String) (tenant : Option String) (scopes roles : List String)
    (stats : Assoc Nat) : Identity where
  id := id
  tenant := tenant
  hasScope := scopes.contains
  hasRole := roles.contains
  stats := stats

/-- How much a caller has used of what a counter counts. -/
def usage (i : Identity) (key : String) : Nat := (i.stats.get? key).getD 0

/-- The name under which a caller appears in logs. -/
def logId (i : Identity) : String :=
  match i.tenant with
  | some tenant => tenant ++ "/" ++ i.id
  | none => i.id

end Identity

end Callpoint
