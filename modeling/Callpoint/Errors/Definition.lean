import Callpoint.Errors.Body
import Callpoint.TypeName

/-!
# Typed errors

An error that clients may see has a code, a status, a message and possibly details.  Errors are
compared by their code alone: a definition with another message, other details or another cause is
the same error.
-/

namespace Callpoint

/-- **What a client learns of an error,** and the type its details are documented as. -/
structure Definition where
  code : String
  status : Nat
  message : String
  details : Option Json := none
  detailsType : Option String := none
deriving Inhabited

/-- A rule that a value broke. -/
structure Violation where
  field : String
  rule : String
  value : String
deriving DecidableEq, Repr, Inhabited

namespace Violation

/-- A violation as it is sent. -/
def toJson (v : Violation) : Json :=
  .object [("field", .string v.field), ("rule", .string v.rule), ("value", .string v.value)]

/-- A violation inside details, with its members in the order of a free-form object. -/
def toDetails (v : Violation) : Json :=
  Json.ofMembers [("field", .string v.field), ("rule", .string v.rule), ("value", .string v.value)]

end Violation

namespace Definition

/-- The bare name of the type of the details. -/
def detailsName (d : Definition) : Option String := d.detailsType.map bareName

/-- The text under which an error appears in logs and chains. -/
def display (d : Definition) : String := d.code ++ ": " ++ d.message

/-- Whether two definitions are the same error. -/
def is (d e : Definition) : Bool := d.code == e.code

/-- Whether a definition has the code. -/
def hasCode (d : Definition) (code : String) : Bool := d.code == code

/-- The same error with another message. -/
def withMessage (d : Definition) (message : String) : Definition := { d with message := message }

/-- The same error with details; details that could not be encoded are dropped. -/
def withDetails (d : Definition) (details : Option Json) : Definition :=
  { d with details := details }

/-- The same error with its details documented as a type. -/
def documenting (d : Definition) (fullName : String) : Definition :=
  { d with detailsType := some fullName }

/-- The body a client receives. -/
def body (d : Definition) : ErrorBody := ⟨d.code, d.message, d.details⟩

end Definition

/-! ### The standard library of errors -/

namespace Errors

/-- The request is malformed. -/
def badRequest : Definition := { code := "BAD_REQUEST", status := 400, message := "bad request" }

/-- The caller is not known. -/
def unauthorized : Definition :=
  { code := "UNAUTHORIZED", status := 401, message := "authentication required" }

/-- The caller may not do this. -/
def forbidden : Definition := { code := "FORBIDDEN", status := 403, message := "forbidden" }

/-- There is no such thing. -/
def notFound : Definition := { code := "NOT_FOUND", status := 404, message := "not found" }

/-- The request contradicts the state of things. -/
def conflict : Definition := { code := "CONFLICT", status := 409, message := "conflict" }

/-- The body is larger than allowed. -/
def payloadTooLarge : Definition :=
  { code := "PAYLOAD_TOO_LARGE", status := 413, message := "request body too large" }

/-- The name under which the details of a failed validation are documented. -/
def validationDetailsName : String := "ValidationDetails"

/-- The request does not meet the rules. -/
def validationError : Definition :=
  { code := "VALIDATION_ERROR", status := 422, message := "validation failed",
    detailsType := some validationDetailsName }

/-- The caller has used up its share. -/
def rateLimited : Definition :=
  { code := "RATE_LIMITED", status := 429, message := "usage limit exceeded" }

/-- Something went wrong that is none of the client's business. -/
def internalError : Definition :=
  { code := "INTERNAL_ERROR", status := 500, message := "internal server error" }

/-- The operation is not there yet. -/
def notImplemented : Definition :=
  { code := "NOT_IMPLEMENTED", status := 501, message := "not implemented" }

/-- The service cannot answer now. -/
def serviceUnavailable : Definition :=
  { code := "SERVICE_UNAVAILABLE", status := 503, message := "service unavailable" }

/-- All standard errors, by status. -/
def standard : List Definition :=
  [badRequest, unauthorized, forbidden, notFound, conflict, payloadTooLarge, validationError,
    rateLimited, internalError, notImplemented, serviceUnavailable]

/-- The details of a failed validation. -/
def violationDetails (violations : List Violation) : Json :=
  Json.ofMembers [("violations", .array (violations.map Violation.toDetails))]

/-- A failed validation with the rules that were broken. -/
def validationFailed (violations : List Violation) : Definition :=
  validationError.withDetails (some (violationDetails violations))

end Errors

end Callpoint
