import Callpoint.Access
import Callpoint.Errors.Chain
import Callpoint.TypeName

/-!
# Endpoint specifications

What an endpoint is, apart from the handler that answers it: its name, method and path, its
documentation, parameters, types, errors and access rules.  A specification is a list of clauses
applied in order to a blank one.
-/

namespace Callpoint

/-- **The description of an endpoint.** -/
structure Spec where
  name : String
  method : String
  path : String
  summary : Option String := none
  description : Option String := none
  tags : List String := []
  deprecated : Bool := false
  pathParams : List String := []
  queryParams : List String := []
  input : TypeRef := .noBody
  output : TypeRef := .noBody
  successStatus : Nat := 200
  errors : List TypedError := []
  access : Requirements := {}
  streaming : Bool := false

/-- **One clause of a specification.** -/
inductive Clause where
  | summary (text : String)
  | description (text : String)
  | tag (name : String)
  | deprecated
  | pathParam (name : String)
  | queryParam (name : String)
  | types (input output : TypeRef)
  | successStatus (status : Nat)
  | error (error : TypedError)
  | errors (errors : List TypedError)
  | requireAuth
  | scopes (group : List String)
  | roles (group : List String)
  | usageLimit (limit : UsageLimit)
  | streaming

namespace Spec

/-- Whether an error with that code is declared. -/
def declaresCode (s : Spec) (code : String) : Bool := s.errors.any fun e => e.hasCode code

/-- Whether an error is declared. -/
def declares (s : Spec) (e : TypedError) : Bool := s.declaresCode e.code

/-- Declares an error, unless its code is declared already. -/
def declare (s : Spec) (e : TypedError) : Spec :=
  if s.declares e then s else { s with errors := s.errors ++ [e] }

/-- Requires more of the caller.  Any requirement includes authentication. -/
def require (s : Spec) (more : Requirements → Requirements) : Spec :=
  { s with access := { more s.access with authRequired := true } }

/-- A group added behind others; an empty group would shut everyone out and is left out. -/
def addGroup (groups : List (List String)) (group : List String) : List (List String) :=
  if group.isEmpty then groups else groups ++ [group]

/-- The specification with a clause added. -/
def apply (s : Spec) : Clause → Spec
  | .summary text => { s with summary := some text }
  | .description text => { s with description := some text }
  | .tag name => { s with tags := s.tags ++ [name] }
  | .deprecated => { s with deprecated := true }
  | .pathParam name => { s with pathParams := s.pathParams ++ [name] }
  | .queryParam name => { s with queryParams := s.queryParams ++ [name] }
  | .types input output => { s with input := input, output := output }
  | .successStatus status => { s with successStatus := status }
  | .error e => s.declare e
  | .errors es => es.foldl declare s
  | .requireAuth => s.require id
  | .scopes group => s.require fun a => { a with scopeGroups := addGroup a.scopeGroups group }
  | .roles group => s.require fun a => { a with roleGroups := addGroup a.roleGroups group }
  | .usageLimit limit => s.require fun a => { a with usageLimits := a.usageLimits ++ [limit] }
  | .streaming => { s with streaming := true }

/-- The specification that the clauses describe. -/
def build (name method path : String) (clauses : List Clause) : Spec :=
  clauses.foldl apply { name := name, method := method, path := path }

/-- The same specification for a handler of other types. -/
def withTypes (s : Spec) (input output : TypeRef) : Spec :=
  { s with input := input, output := output }

/-- The same specification for a stream. -/
def intoStreaming (s : Spec) : Spec := { s with streaming := true }

/-- A declared error as it is published. -/
def publishedError (d : Definition) : Json :=
  .object ([("code", .string d.code), ("status", Json.nat d.status), ("message", .string d.message)]
    ++ Json.presentMembers [("detailsType", d.detailsName.map .string)])

/-- The specification as it is published. -/
def toJson (s : Spec) : Json :=
  let strings (xs : List String) : Json := .array (xs.map .string)
  .object (
    [("name", .string s.name), ("method", .string s.method), ("path", .string s.path)]
    ++ Json.presentMembers
      [("summary", s.summary.map .string), ("description", s.description.map .string)]
    ++ [("tags", strings s.tags), ("deprecated", .bool s.deprecated),
      ("pathParams", strings s.pathParams), ("queryParams", strings s.queryParams),
      ("input", .string s.input.name), ("output", .string s.output.name),
      ("successStatus", Json.nat s.successStatus),
      ("errors", .array (s.errors.map fun e => publishedError e.toDefinition)),
      ("access", s.access.toJson),
      ("streaming", .bool s.streaming)])

end Spec

end Callpoint
