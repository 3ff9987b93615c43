import Callpoint.Errors.Definition

/-!
# Error chains

An error that a handler returns is a chain, from what was said last to what went wrong first.  Its
links are plain texts, typed errors and failures of a stream.  `Chain.definition?` finds the typed
error a client may see: the outermost one.
-/

namespace Callpoint

/-- **Why an event could not be sent.** -/
inductive StreamError where
  | disconnected
  | unencodable (reason : String)
  | invalidField (field : String)
deriving DecidableEq, Repr

/-- The wording of a stream error. -/
def StreamError.message : StreamError → String
  | .disconnected => "stream disconnected"
  | .unencodable reason => "failed to encode event data: " ++ reason
  | .invalidField field => "invalid event field: " ++ field

/-- **One link of a chain.** -/
inductive Link where
  | text (message : String)
  | typed (definition : Definition)
  | stream (error : StreamError)

/-- The wording of a link. -/
def Link.display : Link → String
  | .text message => message
  | .typed d => d.display
  | .stream e => e.message

/-- **An error with everything that led to it,** outermost first. -/
abbrev Chain := List Link

/-- **A typed error with its causes.** -/
structure TypedError extends Definition where
  causes : Chain := []
deriving Inhabited

namespace TypedError

/-- A typed error without a cause. -/
def ofDefinition (d : Definition) : TypedError := { d with }

/-- A change of what the client learns. -/
def modify (e : TypedError) (f : Definition → Definition) : TypedError :=
  { f e.toDefinition with causes := e.causes }

/-- The same error with another cause. -/
def withCause (e : TypedError) (cause : Chain) : TypedError := { e with causes := cause }

/-- The error and its causes as a chain. -/
def chain (e : TypedError) : Chain := .typed e.toDefinition :: e.causes

/-- The form used inside messages for programmers. -/
def inspect (e : TypedError) : String :=
  let details := match e.details with
    | none => "None"
    | some v => "Some(" ++ v.inspect ++ ")"
  let cause := match e.causes with
    | [] => "None"
    | l :: _ => "Some(" ++ Text.quoted l.display ++ ")"
  "ErrorDefinition \x7b code: " ++ Text.quoted e.code ++ ", status: " ++ toString e.status
    ++ ", message: " ++ Text.quoted e.message ++ ", details: " ++ details ++ ", cause: " ++ cause
    ++ " \x7d"

end TypedError

namespace Chain

/-- The outermost typed error of a chain, with what led to it. -/
def definition? : Chain → Option TypedError
  | [] => none
  | .typed d :: rest => some { d with causes := rest }
  | _ :: rest => definition? rest

/-- Whether a chain says anywhere that the client has gone. -/
def isDisconnect (c : Chain) : Bool :=
  c.any fun
    | .stream .disconnected => true
    | _ => false

/-- The wordings of all links. -/
def displays (c : Chain) : List String := c.map Link.display

/-- A chain in one line. -/
def text (c : Chain) : String := ": ".intercalate c.displays

/-- A chain with something said on top of it. -/
def context (message : String) (c : Chain) : Chain := .text message :: c

end Chain

end Callpoint
