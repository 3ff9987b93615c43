import Callpoint.Exchange.Response

/-!
# Drafts of requests

A draft collects the parts of a request, call after call.  A part that cannot be used is remembered
and reported when the request is built; of several such parts the first one counts.
-/

namespace Callpoint

open Callpoint.Http

/-- **Why a draft is no request.** -/
inductive DraftError where
  | badTarget (error : UriError)
  | badHeaderName
  | badHeaderValue
  | unencodable (reason : String)
deriving DecidableEq

/-- The wording of a draft error. -/
def DraftError.message : DraftError → String
  | .badTarget e => "request build error: " ++ e.message
  | .badHeaderName => "invalid header: " ++ invalidName
  | .badHeaderValue => "invalid header: " ++ invalidValue
  | .unencodable reason => "JSON error: " ++ reason

/-- **A request in the making.** -/
structure Draft where
  method : String
  target : String
  query : List (String × String) := []
  headers : Headers := []
  params : Params := []
  body : Bytes := []
  identity : Option Identity := none
  cancelled : Option Bool := none
  /-- The first part that could not be used. -/
  error : Option DraftError := none

namespace Draft

/-- The draft with an error, if it has none yet. -/
def fail (d : Draft) (e : DraftError) : Draft := { d with error := d.error <|> some e }

/-- The draft with a header in place of those of the same name. -/
def withHeader (d : Draft) (name : String) (value : Bytes) : Draft :=
  match headerName? name, headerValue? value with
  | some name, some value => { d with headers := d.headers.insert name value }
  | none, _ => d.fail .badHeaderName
  | _, none => d.fail .badHeaderValue

/-- The draft with its content type set. -/
def withContentType (d : Draft) (type : String) : Draft :=
  d.withHeader "content-type" (Text.encode type)

/-- The draft with the identifier of the request set. -/
def withRequestId (d : Draft) (id : RequestId) : Draft :=
  d.withHeader Request.idHeader (Text.encode id.text)

/-- The draft with one more pair in its query. -/
def withQuery (d : Draft) (name value : String) : Draft :=
  { d with query := d.query ++ [(name, value)] }

/-- The draft with one more path parameter. -/
def withParam (d : Draft) (name value : String) : Draft :=
  { d with params := d.params ++ [(name, value)] }

/-- The draft with a value as its JSON body, or the reason why it could not be encoded. -/
def withJson (d : Draft) : Except String Json → Draft
  | .ok v =>
    { d with body := Text.encode v.compact
             headers := d.headers.insert "content-type" Response.jsonType }
  | .error reason => d.fail (.unencodable reason)

/-- The target with the pairs of the query behind it. -/
def fullTarget (d : Draft) : String :=
  if d.query.isEmpty then d.target
  else d.target ++ (if d.target.toList.contains '?' then "&" else "?")
    ++ String.ofList (Form.encodePairs d.query)

/-- **The request of a draft.** An error met on the way comes before one of the target. -/
def build (d : Draft) : Except DraftError Request :=
  match d.error with
  | some e => .error e
  | none =>
    match Uri.parse d.fullTarget with
    | .error e => .error (.badTarget e)
    | .ok uri => .ok {
        method := d.method
        uri := uri
        headers := d.headers
        params := d.params
        body := .ofBytes d.body
        identity := d.identity
        cancelled := d.cancelled }

end Draft

end Callpoint
