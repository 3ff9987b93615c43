import Callpoint.Distinct
import Callpoint.Document.Basic
import Callpoint.Endpoint.Spec
import Callpoint.Schema.Catalog

/-!
# Building documents

A document is built from the specifications of a service.  Besides the errors that an endpoint
declares it lists those that every service may answer ahead of the handler, under each status that
no declared error uses.  Building fails only for a method that documents do not know and for two
endpoints with one method and one path.
-/

namespace Callpoint

/-- **What a document says apart from the endpoints.** `bearer` is the name of the scheme of bearer
tokens. -/
structure Outline where
  info : Info
  servers : List Server := []
  bearer : Option String := none

/-- **Why a document cannot be built.** -/
inductive BuildError where
  | unsupportedMethod (endpoint method : String)
  | duplicateOperation (method path first second : String)
deriving DecidableEq, Repr

/-- The wording of a build error. -/
def BuildError.message : BuildError → String
  | .unsupportedMethod endpoint method =>
    "endpoint '" ++ endpoint ++ "' uses unsupported method " ++ method
  | .duplicateOperation method path first second =>
    "endpoints '" ++ first ++ "' and '" ++ second ++ "' both serve " ++ method ++ " " ++ path

namespace Document

/-! ### Parameters -/

/-- The placeholder that begins behind a brace, and what follows it: at least one character up to a
closing brace, none of them a slash. -/
def placeholder? (behind : List Char) : Option (String × List Char) :=
  let name := behind.takeWhile fun c => c != '}' && c != '/'
  match behind.dropWhile fun c => c != '}' && c != '/' with
  | '}' :: rest => if name.isEmpty then none else some (String.ofList name, rest)
  | _ => none

theorem length_placeholder?_lt {behind rest : List Char} {name : String}
    (h : placeholder? behind = some (name, rest)) : rest.length < behind.length := by
  simp only [placeholder?] at h
  split at h
  · next rest' heq =>
    split at h
    · cases h
    · cases h
      have h₁ := (List.dropWhile_suffix (l := behind) fun c => c != '}' && c != '/').length_le
      rw [heq] at h₁
      simp only [List.length_cons] at h₁
      omega
  · cases h

/-- The placeholders of a path template, in order. -/
def placeholders : List Char → List String
  | [] => []
  | c :: cs =>
    if c = '{' then
      match _h : placeholder? cs with
      | some (name, rest) => name :: placeholders rest
      | none => placeholders cs
    else placeholders cs
termination_by cs => cs.length
decreasing_by
  · have := length_placeholder?_lt _h
    simp only [List.length_cons]
    omega
  · simp
  · simp

/-- A parameter that holds a text. -/
def textParameter (place : ParameterPlace) (required : Bool) (name : String) : Parameter :=
  { name, place, required, schema := some .string }

/-- The names of the path parameters: those of the template and then the declared ones that are not
among them. -/
def pathParameterNames (spec : Spec) : List String :=
  spec.pathParams.foldl addDistinct (placeholders spec.path.toList)

/-- The parameters of an operation. -/
def parameters (spec : Spec) : List Parameter :=
  (pathParameterNames spec).map (textParameter .path true)
    ++ spec.queryParams.map (textParameter .query false)

/-! ### Errors -/

/-- The errors that a service answers without its handler, and when. -/
def implicitErrors (spec : Spec) : List Definition :=
  let readsBody := !spec.input.placeholder
  let access := spec.access
  [(readsBody, Errors.badRequest),
    (access.authRequired, Errors.unauthorized),
    (!access.scopeGroups.isEmpty || !access.roleGroups.isEmpty, Errors.forbidden),
    (readsBody, Errors.payloadTooLarge),
    (readsBody || !spec.pathParams.isEmpty, Errors.validationError),
    (!access.usageLimits.isEmpty, Errors.rateLimited),
    (true, Errors.internalError)].filterMap fun (applies, e) => if applies then some e else none

/-- The declared errors, and of the implicit ones those whose status no declared error has. -/
def documentedErrors (spec : Spec) : List Definition :=
  let declared := spec.errors.map TypedError.toDefinition
  declared ++ (implicitErrors spec).filter fun e => !declared.any fun d => d.status == e.status

/-- The documented errors grouped by status, in the order of the statuses. -/
def errorGroups (spec : Spec) : List (Nat × List Definition) :=
  let errors := documentedErrors spec
  let statuses := (distinct (errors.map Definition.status)).mergeSort fun s t => decide (s ≤ t)
  statuses.map fun s => (s, errors.filter fun e => e.status == s)

/-- A list without members that follow an equal one. -/
def squeeze : List String → List String
  | a :: b :: rest => if a = b then squeeze (b :: rest) else a :: squeeze (b :: rest)
  | rest => rest

/-- The type of the details of a group of errors, if there is exactly one. -/
def detailsName? (group : List Definition) : Option String :=
  match squeeze (group.filterMap Definition.detailsName) with
  | [name] => some name
  | _ => none

/-- The name of the component that describes errors. -/
def errorComponent : String := "Error"

/-- The schema of errors. -/
def errorSchema : Schema :=
  ((((Schema.object.withProperty "code" .string).withProperty "message" .string).withProperty
    "details" .anyObject).withRequired "code").withRequired "message"

/-- The schema of a group of errors: with the details of the one type they have, if any. -/
def groupSchema (group : List Definition) : Schema :=
  match detailsName? group with
  | some name =>
    { allOf := [.component errorComponent,
        Schema.object.withProperty "details" (.component (bareName name))] }
  | none => .component errorComponent

/-! ### Operations -/

/-- One schema under one media type. -/
def content (mediaType : String) (schema : Schema) : Assoc MediaType :=
  [(mediaType, { schema := some schema })]

/-- The media type of bodies. -/
def jsonType : String := "application/json"

/-- The media type of streams. -/
def eventStreamType : String := "text/event-stream"

/-- The schema of a type by its reference. -/
def typeSchema (t : TypeRef) : Schema := .ofFieldType (.ofTypeName t.fullName)

/-- What an operation answers when it succeeds. -/
def successResponse (spec : Spec) : ResponseContent :=
  let output := spec.output
  if spec.streaming then
    { description := "Event stream"
      content :=
        content eventStreamType (if output.placeholder then .string else typeSchema output) }
  else
    { description := "Successful response"
      content := if output.placeholder then [] else content jsonType (typeSchema output) }

/-- What an operation answers when it fails with one of a group of errors. -/
def errorResponse (group : List Definition) : ResponseContent where
  description := "; ".intercalate (group.map Definition.display)
  content := content jsonType (groupSchema group)

/-- All answers of an operation by status.  Errors of the status of success take its place. -/
def responses (spec : Spec) : Assoc ResponseContent :=
  Assoc.setAll [(toString spec.successStatus, successResponse spec)]
    ((errorGroups spec).map fun (status, group) => (toString status, errorResponse group))

/-- The security of an operation. -/
def security (bearer : Option String) (spec : Spec) : List (Assoc (List String)) :=
  match bearer with
  | some name => if spec.access.authRequired then [[(name, spec.access.allScopes)]] else []
  | none => []

/-- **The operation of an endpoint.** -/
def operation (bearer : Option String) (spec : Spec) : Operation where
  operationId := spec.name
  summary := spec.summary
  description := spec.description
  tags := spec.tags
  deprecated := spec.deprecated
  parameters := parameters spec
  requestBody :=
    if spec.input.placeholder then none
    else some { required := true, content := content jsonType (typeSchema spec.input) }
  responses := responses spec
  security := security bearer spec

/-- The types that an operation mentions, in the order in which they are met. -/
def typesOf (spec : Spec) : List FieldType :=
  let body (t : TypeRef) := if t.placeholder then [] else [FieldType.ofTypeName t.fullName]
  body spec.input ++ body spec.output
    ++ (errorGroups spec).filterMap fun (_, group) => (detailsName? group).map .named

/-! ### Documents -/

/-- The paths with the operation of one more endpoint. -/
def place (bearer : Option String) (paths : Assoc PathItem) (spec : Spec) :
    Except BuildError (Assoc PathItem) :=
  match Method.ofName? spec.method with
  | none => .error (.unsupportedMethod spec.name spec.method)
  | some m =>
    let item := (paths.get? spec.path).getD {}
    match item.operation? m with
    | some first =>
      .error (.duplicateOperation spec.method spec.path first.operationId spec.name)
    | none => .ok (Assoc.set spec.path (item.set m (operation bearer spec)) paths)

/-- The types of details that a service itself sends. -/
def detailTypes : Descriptions :=
  let field (name wire : String) (type : FieldType) : Field :=
    { name := name, type := type, tags := [(Field.wireKey, wire)] }
  ⟨[("ValidationDetails",
      [field "Violations" "violations" (.array (.named "ValidationViolation"))]),
    ("ValidationViolation",
      [field "Field" "field" .string, field "Rule" "rule" .string, field "Value" "value" .string])]⟩

/-- The schemas that the operations of some endpoints refer to.  A component of the name of the
error component takes its place. -/
def schemas (descriptions : Descriptions) (specs : List Spec) : Assoc Schema :=
  let start : Catalog := { descriptions := descriptions.orElse detailTypes }
  let catalog := start.askAll ((specs.flatMap typesOf).map .fieldSchema)
  Assoc.setAll [(errorComponent, errorSchema)] catalog.components

/-- The scheme of bearer tokens. -/
def bearerScheme : SecurityScheme where
  type := "http"
  description := some "Bearer token authentication"
  scheme := some "bearer"
  bearerFormat := some "JWT"

/-- The version of the document format. -/
def formatVersion : String := "3.0.3"

/-- **The document of a service.** -/
def build (outline : Outline) (descriptions : Descriptions) (specs : List Spec) :
    Except BuildError Document := do
  let paths ← specs.foldlM (place outline.bearer) []
  return {
    version := formatVersion
    info := outline.info
    servers := outline.servers
    paths := paths
    components := some {
      schemas := schemas descriptions specs
      securitySchemes := outline.bearer.toList.map fun name => (name, bearerScheme) }
    tags := distinct (specs.flatMap Spec.tags) }

end Document

end Callpoint
