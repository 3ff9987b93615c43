import Callpoint.Access
import Callpoint.Endpoint.Spec
import Callpoint.Exchange.Course
import Callpoint.Exchange.Policy
import Callpoint.Exchange.Response
import Callpoint.Json.Reading

/-!
# The gates before a handler

A request passes five gates on its way to a handler: its path parameters are there, its body can be
read, decoded and is accepted by the validator, and its caller is allowed to call.  `passGates` runs
them in this order; the first gate that stays shut answers the client.
-/

namespace Callpoint

/-- **A type of inputs:** how it is decoded, and which value stands for no body. -/
structure InputType (α : Type) where
  type : TypeRef
  decode : Json → Except String α
  empty : α

/-- **A service:** its policy, its validator, and the identifier it gives to the next request. -/
structure Service where
  policy : Policy := {}
  validator : Validator := .acceptAll
  freshId : RequestId := default

namespace Service

variable {α β : Type}

/-- Answers with an error, ahead of the handler. -/
def reject (id : RequestId) (d : Definition) : Course α Response β := do
  let response := (Response.ofError d).withRequestId id
  Course.emit (.responseWritten response.status)
  Course.stop response

/-- The identifier of a request: its own if the service trusts it, else the fresh one. -/
def requestId (s : Service) (r : Request) : RequestId :=
  if s.policy.trustRequestId then r.inboundId?.getD s.freshId else s.freshId

/-- The first values of the declared query parameters, in the order of declaration. -/
def boundQuery (spec : Spec) (query : List (String × String)) : Params :=
  spec.queryParams.filterMap fun name => (query.lookup name).map (name, ·)

/-- The first path parameter that the router did not match. -/
def missingParam? (spec : Spec) (matched : Params) : Option String :=
  spec.pathParams.find? fun name => !matched.contains name

/-- The error for a missing path parameter. -/
def missingParamError (name : String) : Definition :=
  (Errors.validationFailed [⟨name, "required", ""⟩]).withMessage
    ("missing path parameter '" ++ name ++ "'")

/-- The first gate: every declared path parameter was matched.  The declared query parameters are
added behind what the router matched. -/
def bindParams (id : RequestId) (spec : Spec) (r : Request) : Course α Response Params := do
  match missingParam? spec r.params with
  | some name =>
    Course.emit (.paramMissing name)
    reject id (missingParamError name)
  | none =>
    let params := r.params ++ boundQuery spec r.queryPairs
    Course.emit (.paramsBound params.length)
    return params

/-- The error for a body beyond the limit. -/
def tooLargeError (limit : Nat) : Definition :=
  Errors.payloadTooLarge.withDetails (some (Json.ofMembers [("limit", Json.nat limit)]))

/-- The error for a body that could not be read. -/
def unreadableError : Definition := Errors.badRequest.withMessage "request body could not be read"

/-- The second gate: the body can be read within the limit. -/
def readBody (s : Service) (id : RequestId) (r : Request) : Course α Response Bytes := do
  match r.body.read s.policy.bodyLimit with
  | .ok bytes =>
    Course.emit (.bodyRead bytes.length)
    return bytes
  | .error (.tooLarge limit) =>
    Course.emit (.bodyTooLarge limit)
    reject id (tooLargeError limit)
  | .error e =>
    Course.emit (.bodyReadFailed e.message)
    reject id unreadableError

/-- A body as a value and as an input, or the reason why it is not. -/
def decodeBytes (input : InputType α) (bytes : Bytes) : Except String (Json × α) := do
  match Json.parse bytes with
  | .error f => .error (f.describe bytes)
  | .ok v => return (v, ← input.decode v)

/-- The error for a body that could not be decoded. -/
def undecodableError (reason : String) : Definition :=
  Errors.validationError.withMessage ("request body could not be decoded: " ++ reason)

/-- The third and the fourth gate: the body can be decoded, and the validator accepts the value it
was decoded from.  An empty body passes as the empty input. -/
def decodeBody (s : Service) (id : RequestId) (spec : Spec) (input : InputType α)
    (bytes : Bytes) : Course α Response α := do
  if bytes.isEmpty then
    Course.emit .decodeSkipped
    return input.empty
  else match decodeBytes input bytes with
    | .error reason =>
      Course.emit (.decodeFailed reason)
      reject id (undecodableError reason)
    | .ok (value, x) =>
      Course.emit .decoded
      match ← Course.validate s.validator spec.input.name value with
      | .error violations =>
        Course.emit (.validationFailed violations.length)
        reject id (Errors.validationFailed violations)
      | .ok () =>
        Course.emit .validated
        return x

/-- The input of a request.  An endpoint without an input does not look at the body. -/
def readInput (s : Service) (id : RequestId) (spec : Spec) (input : InputType α) (r : Request) :
    Course α Response α := do
  if spec.input.placeholder then return input.empty
  else
    let bytes ← s.readBody id r
    s.decodeBody id spec input bytes

/-- The answer to a caller who is denied. -/
def denialResponse (id : RequestId) (d : Denial) : Response :=
  d.headers.foldl (fun r (name, value) => r.withHeader name (Text.encode value))
    ((Response.ofError d.toError).withRequestId id)

/-- The last gate: the caller is allowed to call. -/
def checkAccess (id : RequestId) (spec : Spec) (caller : Identity) : Course α Response Unit := do
  Course.emit (.identityResolved caller.authenticated)
  match authorize spec.access caller with
  | .ok () => return ()
  | .error denial =>
    Course.emit (.accessDenied denial.status denial.message)
    let response := denialResponse id denial
    Course.emit (.responseWritten response.status)
    Course.stop response

/-- **All gates in order.** A request that passes comes with its context and its input. -/
def passGates (s : Service) (spec : Spec) (input : InputType α) (r : Request) :
    Course α Response (Context × α) := do
  let id := s.requestId r
  let params ← bindParams id spec r
  let x ← s.readInput id spec input r
  let caller := r.identity.getD .anonymous
  checkAccess id spec caller
  return (⟨id, spec.name, params, caller, r.cancelled.getD false⟩, x)

end Service

end Callpoint
