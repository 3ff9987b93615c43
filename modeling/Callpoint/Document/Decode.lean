import Callpoint.Document.Basic
import Callpoint.Schema.Decode

/-!
# Reading documents

The decoders of documents and their parts.  Members that are not known are skipped.
-/

namespace Callpoint.Document

open Callpoint.Json

/-- Where a parameter stands, by name. -/
def placeDecoder : Decoder ParameterPlace :=
  (Decoder.variantInText ["query", "path"]).map fun name => if name = "path" then .path else .query

/-- A parameter. -/
def parameterDecoder : Decoder Parameter :=
  .record "Parameter" false (Parameter.mk
    <$> Fields.required "name" .string
    <*> Fields.required "in" placeDecoder
    <*> Fields.defaulted "required" .bool false
    <*> Fields.omissible "schema" Schema.decoder)

/-- A media type. -/
def mediaTypeDecoder : Decoder MediaType :=
  .record "MediaType" false (MediaType.mk <$> Fields.omissible "schema" Schema.decoder)

/-- What an operation takes. -/
def requestDecoder : Decoder RequestContent :=
  .record "RequestBody" false (RequestContent.mk
    <$> Fields.defaulted "required" .bool false
    <*> Fields.required "content" (.mapping mediaTypeDecoder))

/-- What an operation answers. -/
def responseDecoder : Decoder ResponseContent :=
  .record "Response" false (ResponseContent.mk
    <$> Fields.required "description" .string
    <*> Fields.defaulted "content" (.mapping mediaTypeDecoder) [])

/-- An operation. -/
def operationDecoder : Decoder Operation :=
  .record "Operation" false (Operation.mk
    <$> Fields.required "operationId" .string
    <*> Fields.omissible "summary" .string
    <*> Fields.omissible "description" .string
    <*> Fields.defaulted "tags" (.list .string) []
    <*> Fields.defaulted "deprecated" .bool false
    <*> Fields.defaulted "parameters" (.list parameterDecoder) []
    <*> Fields.omissible "requestBody" requestDecoder
    <*> Fields.required "responses" (.mapping responseDecoder)
    <*> Fields.defaulted "security" (.list (.mapping (.list .string))) [])

/-- The operations on a path, of the methods that are still to come. -/
def operationFields : List Method → Fields PathItem
  | [] => pure {}
  | m :: ms =>
    (fun op item => match op with
      | some op => PathItem.set item m op
      | none => item)
    <$> Fields.omissible m.key operationDecoder <*> operationFields ms

/-- The operations on a path. -/
def pathItemDecoder : Decoder PathItem := .record "PathItem" false (operationFields Method.all)

/-- A security scheme. -/
def securitySchemeDecoder : Decoder SecurityScheme :=
  .record "SecurityScheme" false (SecurityScheme.mk
    <$> Fields.required "type" .string
    <*> Fields.omissible "description" .string
    <*> Fields.omissible "scheme" .string
    <*> Fields.omissible "bearerFormat" .string)

/-- The components. -/
def componentsDecoder : Decoder Components :=
  .record "Components" false (Components.mk
    <$> Fields.defaulted "schemas" (.mapping Schema.decoder) []
    <*> Fields.defaulted "securitySchemes" (.mapping securitySchemeDecoder) [])

/-- Title, version and description. -/
def infoDecoder : Decoder Info :=
  .record "Info" false (Info.mk
    <$> Fields.required "title" .string
    <*> Fields.required "version" .string
    <*> Fields.omissible "description" .string)

/-- A server. -/
def serverDecoder : Decoder Server :=
  .record "Server" false (Server.mk
    <$> Fields.required "url" .string
    <*> Fields.omissible "description" .string)

/-- The name of a tag. -/
def tagDecoder : Decoder String := .record "Tag" false (id <$> Fields.required "name" .string)

/-- **The decoder of documents.** -/
def decoder : Decoder Document :=
  .record "Document" false (Document.mk
    <$> Fields.required "openapi" .string
    <*> Fields.required "info" infoDecoder
    <*> Fields.defaulted "servers" (.list serverDecoder) []
    <*> Fields.defaulted "paths" (.mapping pathItemDecoder) []
    <*> Fields.omissible "components" componentsDecoder
    <*> Fields.defaulted "tags" (.list tagDecoder) [])

end Callpoint.Document
