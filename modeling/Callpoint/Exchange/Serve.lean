import Callpoint.Exchange.Failure
import Callpoint.Exchange.Gates

/-!
# Serving a request

`Service.serve` sends a request through the gates to the handler and turns what the handler returns
into a response.  An output becomes a JSON body; an error that the specification declares is told to
the client; everything else is one generic error outside and a failure inside.
-/

namespace Callpoint

/-- **A type of outputs:** how it is encoded. -/
structure OutputType (β : Type) where
  type : TypeRef
  encode : β → Except String Json

/-- **An endpoint:** a specification and a handler of the types it names. -/
structure Endpoint (α β : Type) where
  spec : Spec
  input : InputType α
  output : OutputType β
  handler : Context → α → Except Chain β

namespace Endpoint

/-- A specification bound to a handler; its types become those of the handler. -/
def bind {α β : Type} (spec : Spec) (input : InputType α) (output : OutputType β)
    (handler : Context → α → Except Chain β) : Endpoint α β :=
  ⟨spec.withTypes input.type output.type, input, output, handler⟩

end Endpoint

/-- **What a call gives:** the response, and a failure if the service is to blame. -/
structure Served where
  response : Response
  failure : Option Failure := none

namespace Service

variable {α β : Type}

/-- The response for everything that clients must not learn of. -/
def internalError : Response := Response.ofError Errors.internalError

/-- The answer for an output that could not be encoded. -/
def encodeFailed (endpoint reason : String) : Course α Response Served := do
  Course.emit (.encodeFailed reason)
  return ⟨internalError, some (.unencodable endpoint reason)⟩

/-- The answer for an output. -/
def encodeOutput (s : Service) (e : Endpoint α β) (y : β) : Course α Response Served := do
  Course.emit .handlerSucceeded
  let headers := s.policy.defaultHeaders
  if e.spec.output.placeholder then
    return ⟨(Response.empty e.spec.successStatus).withHeaders headers, none⟩
  else match e.output.encode y with
    | .error reason => encodeFailed e.spec.name reason
    | .ok value =>
      let verdict ← if s.policy.validateOutput
        then Course.validate s.validator e.spec.output.name value
        else pure (.ok ())
      match verdict with
      | .error violations =>
        Course.emit (.outputValidationFailed violations.length)
        return ⟨internalError, some (.invalidOutput e.spec.name violations)⟩
      | .ok () =>
        let body := Text.encode value.compact
        return ⟨(Response.json e.spec.successStatus body).withHeaders headers, none⟩

/-- The answer for an error. -/
def classify (spec : Spec) (chain : Chain) : Course α Response Served := do
  match chain.definition? with
  | some typed =>
    if spec.declares typed then
      Course.emit (.declaredError typed.code typed.status)
      return ⟨Response.ofError typed.toDefinition, none⟩
    else
      Course.emit (.undeclaredError typed.code)
      return ⟨internalError, some (.undeclared spec.name typed)⟩
  | none =>
    Course.emit (.handlerFailed chain.text)
    return ⟨internalError, some (.handler spec.name chain)⟩

/-- The call of the handler and the answer to what it returns. -/
def callHandler (s : Service) (e : Endpoint α β) (context : Context) (x : α) :
    Course α Response Served := do
  Course.event (.called context x)
  let answer ← match e.handler context x with
    | .ok y => s.encodeOutput e y
    | .error chain => classify e.spec chain
  let response := answer.response.withRequestId context.requestId
  Course.emit (.responseWritten response.status)
  return { answer with response := response }

/-- The whole course of a call. -/
def course (s : Service) (e : Endpoint α β) (r : Request) : Course α Response Served := do
  let (context, x) ← s.passGates e.spec e.input r
  s.callHandler e context x

/-- **Serves a request.** An early answer of a gate is the response. -/
def serve (s : Service) (e : Endpoint α β) (r : Request) : List (Event α) × Served :=
  let c := s.course e r
  match c.outcome with
  | .ok served => (c.events, served)
  | .error response => (c.events, ⟨response, none⟩)

end Service

end Callpoint
