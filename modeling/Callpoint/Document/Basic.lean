import Callpoint.Schema.Basic

/-!
# Documents

A document describes a service to the people and tools that call it: the paths it serves, the
operations on each, what they take and answer, and the components that schemas refer to.
`Document.toJson` writes it; what is not set is not written.
-/

namespace Callpoint

/-- **The methods that a document can describe.** -/
inductive Method where
  | get
  | put
  | post
  | delete
  | options
  | head
  | patch
  | trace
deriving DecidableEq, Repr

namespace Method

/-- All methods, in the order in which they are written. -/
def all : List Method := [.get, .put, .post, .delete, .options, .head, .patch, .trace]

/-- The name of a method in a request. -/
def name : Method → String
  | .get => "GET"
  | .put => "PUT"
  | .post => "POST"
  | .delete => "DELETE"
  | .options => "OPTIONS"
  | .head => "HEAD"
  | .patch => "PATCH"
  | .trace => "TRACE"

/-- The name of a method in a document. -/
def key : Method → String
  | .get => "get"
  | .put => "put"
  | .post => "post"
  | .delete => "delete"
  | .options => "options"
  | .head => "head"
  | .patch => "patch"
  | .trace => "trace"

/-- The method of a request. -/
def ofName? (name : String) : Option Method := all.find? fun m => m.name == name

theorem ofName?_name (m : Method) : ofName? m.name = some m := by
  cases m <;> decide

end Method

/-- Where a parameter stands. -/
inductive ParameterPlace where
  | query
  | path
deriving DecidableEq, Repr, Inhabited

/-- The name of a place. -/
def ParameterPlace.name : ParameterPlace → String
  | .query => "query"
  | .path => "path"

/-- **A parameter of an operation.** -/
structure Parameter where
  name : String
  place : ParameterPlace
  required : Bool := false
  schema : Option Schema := none

/-- What is sent under a media type. -/
structure MediaType where
  schema : Option Schema := none

/-- **What an operation takes.** -/
structure RequestContent where
  required : Bool := false
  content : Assoc MediaType

/-- **What an operation answers.** -/
structure ResponseContent where
  description : String
  content : Assoc MediaType := []

/-- **An operation.** -/
structure Operation where
  operationId : String
  summary : Option String := none
  description : Option String := none
  tags : List String := []
  deprecated : Bool := false
  parameters : List Parameter := []
  requestBody : Option RequestContent := none
  responses : Assoc ResponseContent
  /-- Names of security schemes with the scopes they have to grant. -/
  security : List (Assoc (List String)) := []

/-- **The operations on a path.** -/
structure PathItem where
  operation? : Method → Option Operation := fun _ => none

/-- The path item with an operation set. -/
def PathItem.set (item : PathItem) (m : Method) (op : Operation) : PathItem :=
  ⟨fun n => if n = m then some op else item.operation? n⟩

/-- How callers prove who they are. -/
structure SecurityScheme where
  type : String
  description : Option String := none
  scheme : Option String := none
  bearerFormat : Option String := none
deriving Repr

/-- **What schemas and operations refer to.** -/
structure Components where
  schemas : Assoc Schema := []
  securitySchemes : Assoc SecurityScheme := []

/-- A title and a version. -/
structure Info where
  title : String
  version : String
  description : Option String := none
deriving Repr

/-- Where a service is found. -/
structure Server where
  url : String
  description : Option String := none
deriving Repr

/-- **A document.** -/
structure Document where
  version : String
  info : Info
  servers : List Server := []
  paths : Assoc PathItem := []
  components : Option Components := none
  tags : List String := []

/-! ### Writing -/

/-- Values with names as an object. -/
def Assoc.toJson {α : Type} (m : Assoc α) (value : α → Json) : Json :=
  .object (m.map fun (name, a) => (name, value a))

/-- An object that is written unless it is empty. -/
def Assoc.nonEmpty {α : Type} (m : Assoc α) (value : α → Json) : Option Json :=
  if m.isEmpty then none else some (m.toJson value)

/-- Texts in a row. -/
def textList (xs : List String) : Json := .array (xs.map .string)

namespace Document

open Schema (flag nonEmpty)

/-- A parameter as it is written. -/
def parameterJson (p : Parameter) : Json :=
  .object (Json.presentMembers [
    ("name", some (.string p.name)),
    ("in", some (.string p.place.name)),
    ("required", some (.bool p.required)),
    ("schema", p.schema.map Schema.toJson)])

/-- A media type as it is written. -/
def mediaTypeJson (m : MediaType) : Json :=
  .object (Json.presentMembers [("schema", m.schema.map Schema.toJson)])

/-- What an operation takes, as it is written. -/
def requestJson (r : RequestContent) : Json :=
  .object [("required", .bool r.required), ("content", Assoc.toJson r.content mediaTypeJson)]

/-- What an operation answers, as it is written. -/
def responseJson (r : ResponseContent) : Json :=
  .object (Json.presentMembers [
    ("description", some (.string r.description)),
    ("content", Assoc.nonEmpty r.content mediaTypeJson)])

/-- An operation as it is written. -/
def operationJson (op : Operation) : Json :=
  .object (Json.presentMembers [
    ("operationId", some (.string op.operationId)),
    ("summary", op.summary.map .string),
    ("description", op.description.map .string),
    ("tags", nonEmpty (op.tags.map .string)),
    ("deprecated", flag op.deprecated),
    ("parameters", nonEmpty (op.parameters.map parameterJson)),
    ("requestBody", op.requestBody.map requestJson),
    ("responses", some (Assoc.toJson op.responses responseJson)),
    ("security", nonEmpty (op.security.map fun s => Assoc.toJson s textList))])

/-- A path item as it is written: its operations in the order of the methods. -/
def pathItemJson (item : PathItem) : Json :=
  .object (Json.presentMembers (Method.all.map fun m =>
    (m.key, (item.operation? m).map operationJson)))

/-- A security scheme as it is written. -/
def securitySchemeJson (s : SecurityScheme) : Json :=
  .object (Json.presentMembers [
    ("type", some (.string s.type)),
    ("description", s.description.map .string),
    ("scheme", s.scheme.map .string),
    ("bearerFormat", s.bearerFormat.map .string)])

/-- The components as they are written. -/
def componentsJson (c : Components) : Json :=
  .object (Json.presentMembers [
    ("schemas", Assoc.nonEmpty c.schemas Schema.toJson),
    ("securitySchemes", Assoc.nonEmpty c.securitySchemes securitySchemeJson)])

/-- Title, version and description as they are written. -/
def infoJson (i : Info) : Json :=
  .object (Json.presentMembers [
    ("title", some (.string i.title)),
    ("version", some (.string i.version)),
    ("description", i.description.map .string)])

/-- A server as it is written. -/
def serverJson (s : Server) : Json :=
  .object (Json.presentMembers [
    ("url", some (.string s.url)),
    ("description", s.description.map .string)])

/-- **The document as it is written.** -/
def toJson (d : Document) : Json :=
  .object (Json.presentMembers [
    ("openapi", some (.string d.version)),
    ("info", some (infoJson d.info)),
    ("servers", nonEmpty (d.servers.map serverJson)),
    ("paths", some (Assoc.toJson d.paths pathItemJson)),
    ("components", d.components.map componentsJson),
    ("tags", nonEmpty (d.tags.map fun t => .object [("name", .string t)]))])

/-- The operation that a request for a path leads to. -/
def operation? (d : Document) (method path : String) : Option Operation := do
  let item ← Assoc.get? d.paths path
  item.operation? (← Method.ofName? method)

end Document

end Callpoint
