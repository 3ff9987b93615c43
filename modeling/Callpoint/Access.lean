import Callpoint.Distinct
import Callpoint.Errors.Definition
import Callpoint.Identity
import Callpoint.Text.Quoted

/-!
# Access

An endpoint requires authentication, one member of each scope group, one member of each role group
and usage below each limit.  `authorize` allows a call or denies it, with the first requirement that
is not met in this order.
-/

namespace Callpoint

/-- **A limit on a usage counter.** The threshold may depend on the caller. -/
structure UsageLimit where
  statKey : String
  threshold : Identity → Nat

/-- A limit as it is shown to people; a threshold is a function and has no text. -/
def UsageLimit.inspect (l : UsageLimit) : String :=
  "UsageLimit \x7b stat_key: " ++ Text.quoted l.statKey ++ ", .. \x7d"

/-- **What a caller must bring.** Of each group one member is enough. -/
structure Requirements where
  authRequired : Bool := false
  scopeGroups : List (List String) := []
  roleGroups : List (List String) := []
  usageLimits : List UsageLimit := []

namespace Requirements

/-- The scopes of all groups, each once, in order of first mention. -/
def allScopes (r : Requirements) : List String := distinct r.scopeGroups.flatten

/-- The requirements as they are published; thresholds are not. -/
def toJson (r : Requirements) : Json :=
  let groups (gs : List (List String)) : Json := .array (gs.map fun g => .array (g.map .string))
  .object [
    ("authRequired", .bool r.authRequired),
    ("scopeGroups", groups r.scopeGroups),
    ("roleGroups", groups r.roleGroups),
    ("usageLimits", .array (r.usageLimits.map fun l => .object [("statKey", .string l.statKey)]))]

end Requirements

/-- **Why a call is denied.** -/
inductive Denial where
  | unauthenticated
  | missingScope (group : List String)
  | missingRole (group : List String)
  | usageExceeded (statKey : String) (usage threshold : Nat)
deriving DecidableEq, Repr

namespace Denial

/-- The wording of a denial. -/
def message : Denial → String
  | .unauthenticated => "authentication required"
  | .missingScope group => "missing one of scopes [" ++ ", ".intercalate group ++ "]"
  | .missingRole group => "missing one of roles [" ++ ", ".intercalate group ++ "]"
  | .usageExceeded key usage threshold =>
    "usage of \x60" ++ key ++ "\x60 at " ++ toString usage ++ ", limit " ++ toString threshold

/-- A denial as it is sent, with its members in the given order. -/
def members : Denial → List (String × Json)
  | .unauthenticated => [("reason", .string "unauthenticated")]
  | .missingScope group =>
    [("reason", .string "missing_scope"), ("group", .array (group.map .string))]
  | .missingRole group =>
    [("reason", .string "missing_role"), ("group", .array (group.map .string))]
  | .usageExceeded key usage threshold =>
    [("reason", .string "usage_exceeded"), ("stat_key", .string key), ("usage", Json.nat usage),
      ("threshold", Json.nat threshold)]

/-- A denial as it is sent. -/
def toJson (d : Denial) : Json := .object d.members

/-- The status of the response to a denied call. -/
def status : Denial → Nat
  | .unauthenticated => 401
  | .missingScope _ | .missingRole _ => 403
  | .usageExceeded .. => 429

/-- The error that the client receives.  Its details are the denial itself, except that nothing more
is said to a caller who is not known. -/
def toError (d : Denial) : Definition :=
  let details := some (Json.ofMembers d.members)
  match d with
  | .unauthenticated => Errors.unauthorized
  | .missingScope _ | .missingRole _ =>
    (Errors.forbidden.withMessage d.message).withDetails details
  | .usageExceeded .. => Errors.rateLimited.withDetails details

/-- Headers that go with the response. -/
def headers : Denial → List (String × String)
  | .usageExceeded _ _ threshold =>
    [("x-ratelimit-limit", toString threshold), ("x-ratelimit-remaining", "0")]
  | _ => []

end Denial

/-- The first group none of whose members is granted. -/
def firstUnmet (groups : List (List String)) (granted : String → Bool) : Option (List String) :=
  groups.find? fun group => !group.any granted

/-- The first limit that a caller has reached, as a denial. -/
def firstReached (caller : Identity) : List UsageLimit → Option Denial
  | [] => none
  | l :: ls =>
    if l.threshold caller ≤ caller.usage l.statKey then
      some (.usageExceeded l.statKey (caller.usage l.statKey) (l.threshold caller))
    else firstReached caller ls

/-- **The decision on a call.** -/
def authorize (r : Requirements) (caller : Identity) : Except Denial Unit :=
  if !r.authRequired then .ok ()
  else if !caller.authenticated then .error .unauthenticated
  else match firstUnmet r.scopeGroups caller.hasScope with
    | some group => .error (.missingScope group)
    | none =>
      match firstUnmet r.roleGroups caller.hasRole with
      | some group => .error (.missingRole group)
      | none =>
        match firstReached caller r.usageLimits with
        | some denial => .error denial
        | none => .ok ()

end Callpoint
