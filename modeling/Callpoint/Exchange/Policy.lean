import Callpoint.Http.Headers

/-!
# Policies

The rules that hold for every call, whatever its endpoint.
-/

namespace Callpoint

open Callpoint.Http

/-- **The rules of a service.** -/
structure Policy where
  /-- The greatest body that is read; zero stands for no limit. -/
  maxBodyBytes : Nat := 10 * 1024 * 1024
  validateOutput : Bool := false
  defaultHeaders : Headers := []
  /-- Whether the identifier that comes with a request is kept. -/
  trustRequestId : Bool := false

namespace Policy

/-- The limit on bodies, if there is one. -/
def bodyLimit (p : Policy) : Option Nat :=
  if 0 < p.maxBodyBytes then some p.maxBodyBytes else none

/-- The policy with one more line of default headers. -/
def withDefaultHeader (p : Policy) (name : String) (value : HeaderValue) : Policy :=
  { p with defaultHeaders := p.defaultHeaders.append name value }

end Policy

end Callpoint
