import Callpoint.Errors.Chain

/-!
# Failures

What went wrong inside a service and is not told to the client.
-/

namespace Callpoint

/-- **A failure of an endpoint.** -/
inductive Failure where
  | undeclared (endpoint : String) (error : TypedError)
  | handler (endpoint : String) (chain : Chain)
  | invalidOutput (endpoint : String) (violations : List Violation)
  | unencodable (endpoint : String) (reason : String)

namespace Failure

/-- The endpoint that failed. -/
def endpoint : Failure → String
  | .undeclared e _ | .handler e _ | .invalidOutput e _ | .unencodable e _ => e

/-- Whether the handler returned an error that its specification does not declare. -/
def isUndeclared : Failure → Bool
  | .undeclared .. => true
  | _ => false

/-- The wording of a failure. -/
def message : Failure → String
  | .undeclared e error => "endpoint '" ++ e ++ "' returned undeclared error " ++ error.code
  | .handler e chain => "endpoint '" ++ e ++ "' failed: " ++ chain.displays.headD ""
  | .invalidOutput e violations =>
    "endpoint '" ++ e ++ "' produced invalid output (" ++ toString violations.length
      ++ " violations)"
  | .unencodable e reason => "endpoint '" ++ e ++ "' output could not be encoded: " ++ reason

/-- The wordings of everything that led to a failure. -/
def sources : Failure → List String
  | .undeclared _ error => error.chain.displays
  | .handler _ chain => chain.displays
  | .invalidOutput .. => []
  | .unencodable _ reason => [reason]

end Failure

end Callpoint
