import Callpoint.Errors.Definition
import Callpoint.Exchange.Request

/-!
# Responses

Responses with a JSON body, without a body, and for errors.
-/

namespace Callpoint

open Callpoint.Http

/-- **A response.** -/
structure Response where
  status : Nat
  headers : Headers := []
  body : Bytes := []
deriving DecidableEq

namespace Response

/-- The type of JSON bodies. -/
def jsonType : Bytes := Text.encode "application/json"

/-- A response with some bytes as its JSON body. -/
def json (status : Nat) (body : Bytes) : Response :=
  { status := status, headers := [("content-type", jsonType)], body := body }

/-- A response without a body. -/
def empty (status : Nat) : Response := { status := status }

/-- The response to a client for an error. -/
def ofError (d : Definition) : Response := json d.status (Text.encode d.body.toJson.compact)

/-- The response with the identifier of its request, and no other. -/
def withRequestId (r : Response) (id : RequestId) : Response :=
  { r with headers := r.headers.insert Request.idHeader (Text.encode id.text) }

/-- The response with those of the headers whose names it does not have. -/
def withHeaders (r : Response) (more : Headers) : Response :=
  { r with headers := r.headers.addMissing more }

/-- The response with one more header line. -/
def withHeader (r : Response) (name : String) (value : HeaderValue) : Response :=
  { r with headers := r.headers.append name value }

end Response

end Callpoint
