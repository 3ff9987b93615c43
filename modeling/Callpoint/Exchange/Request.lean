import Callpoint.Context
import Callpoint.Exchange.Body
import Callpoint.Http.Form
import Callpoint.Http.Headers
import Callpoint.Http.Uri

/-!
# Routed requests

A request as the router hands it over: with the parameters matched in its path, and with the
identity and the cancel signal that were attached to it.
-/

namespace Callpoint

open Callpoint.Http

/-- **A request on its way to an endpoint.** -/
structure Request where
  method : String
  uri : Uri
  headers : Headers := []
  params : Params := []
  body : Body := {}
  identity : Option Identity := none
  /-- Whether the attached cancel signal is triggered, if one is attached. -/
  cancelled : Option Bool := none

namespace Request

/-- The header that carries the identifier of a request. -/
def idHeader : String := "x-request-id"

/-- The pairs of the query. -/
def queryPairs (r : Request) : List (String × String) :=
  match r.uri.query with
  | some q => Form.decodePairs q
  | none => []

/-- The identifier that came with a request, if its first identifier header holds one. -/
def inboundId? (r : Request) : Option RequestId :=
  r.headers.getText? idHeader >>= RequestId.parse?

end Request

end Callpoint
