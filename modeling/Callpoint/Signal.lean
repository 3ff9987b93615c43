import Callpoint.Json.Value

/-!
# Signals

What observers learn about the course of a call.  A signal has a name, a severity and a wording.
-/

namespace Callpoint

/-- How loudly a signal is reported. -/
inductive Severity where
  | debug
  | info
  | warn
  | error
deriving DecidableEq, Repr

/-- The name of a severity. -/
def Severity.name : Severity → String
  | .debug => "Debug"
  | .info => "Info"
  | .warn => "Warn"
  | .error => "Error"

/-- **A step of a call, as observers see it.** -/
inductive Signal where
  | paramMissing (name : String)
  | paramsBound (count : Nat)
  | bodyRead (bytes : Nat)
  | bodyTooLarge (limit : Nat)
  | bodyReadFailed (reason : String)
  | decodeSkipped
  | decoded
  | decodeFailed (reason : String)
  | validated
  | validationFailed (violations : Nat)
  | identityResolved (authenticated : Bool)
  | accessDenied (status : Nat) (reason : String)
  | handlerSucceeded
  | declaredError (code : String) (status : Nat)
  | undeclaredError (code : String)
  | handlerFailed (reason : String)
  | outputValidationFailed (violations : Nat)
  | encodeFailed (reason : String)
  | responseWritten (status : Nat)
  | streamOpened
  | streamClosed (events : Nat)
  | streamDisconnected (events : Nat)
  | streamFailed (reason : String)
deriving DecidableEq, Repr

namespace Signal

/-- The name of a signal. -/
def name : Signal → String
  | .paramMissing _ => "param_missing"
  | .paramsBound _ => "params_bound"
  | .bodyRead _ => "body_read"
  | .bodyTooLarge _ => "body_too_large"
  | .bodyReadFailed _ => "body_read_failed"
  | .decodeSkipped => "decode_skipped"
  | .decoded => "decoded"
  | .decodeFailed _ => "decode_failed"
  | .validated => "validated"
  | .validationFailed _ => "validation_failed"
  | .identityResolved _ => "identity_resolved"
  | .accessDenied .. => "access_denied"
  | .handlerSucceeded => "handler_succeeded"
  | .declaredError .. => "declared_error"
  | .undeclaredError _ => "undeclared_error"
  | .handlerFailed _ => "handler_failed"
  | .outputValidationFailed _ => "output_validation_failed"
  | .encodeFailed _ => "encode_failed"
  | .responseWritten _ => "response_written"
  | .streamOpened => "stream_opened"
  | .streamClosed _ => "stream_closed"
  | .streamDisconnected _ => "stream_disconnected"
  | .streamFailed _ => "stream_failed"

/-- The severity of a signal: refusals of the client's doing warn, failures of the service are
errors, and what ends a call or a stream informs. -/
def severity : Signal → Severity
  | .paramMissing _ | .bodyTooLarge _ | .bodyReadFailed _ | .decodeFailed _ | .validationFailed _
  | .accessDenied .. => .warn
  | .undeclaredError _ | .handlerFailed _ | .outputValidationFailed _ | .encodeFailed _
  | .streamFailed _ => .error
  | .declaredError .. | .streamOpened | .streamClosed _ | .streamDisconnected _
  | .responseWritten _ => .info
  | _ => .debug

/-- The wording of a signal. -/
def message (s : Signal) : String :=
  match s with
  | .paramMissing name => "missing path parameter \x60" ++ name ++ "\x60"
  | .bodyTooLarge limit => "body exceeds " ++ toString limit ++ " bytes"
  | .bodyReadFailed reason | .decodeFailed reason | .handlerFailed reason | .encodeFailed reason
  | .streamFailed reason => s.name ++ ": " ++ reason
  | .declaredError code status => "declared error " ++ code ++ " (" ++ toString status ++ ")"
  | .undeclaredError code => "undeclared error " ++ code
  | .accessDenied status reason => "access denied (" ++ toString status ++ "): " ++ reason
  | _ => s.name

/-- What a signal carries. -/
def fields : Signal → List (String × Json)
  | .paramMissing name => [("name", .string name)]
  | .paramsBound count => [("count", Json.nat count)]
  | .bodyRead bytes => [("bytes", Json.nat bytes)]
  | .bodyTooLarge limit => [("limit", Json.nat limit)]
  | .bodyReadFailed reason | .decodeFailed reason | .handlerFailed reason | .encodeFailed reason
  | .streamFailed reason => [("reason", .string reason)]
  | .validationFailed n | .outputValidationFailed n => [("violations", Json.nat n)]
  | .identityResolved authenticated => [("authenticated", .bool authenticated)]
  | .accessDenied status reason => [("status", Json.nat status), ("reason", .string reason)]
  | .declaredError code status => [("code", .string code), ("status", Json.nat status)]
  | .undeclaredError code => [("code", .string code)]
  | .responseWritten status => [("status", Json.nat status)]
  | .streamClosed events | .streamDisconnected events => [("events", Json.nat events)]
  | .decodeSkipped | .decoded | .validated | .handlerSucceeded | .streamOpened => []

end Signal

/-- A signal of an endpoint. -/
structure Notice where
  endpoint : String
  signal : Signal
deriving DecidableEq, Repr

end Callpoint
