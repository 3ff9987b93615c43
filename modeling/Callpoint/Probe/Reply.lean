import Callpoint.Exchange.Response
import Callpoint.Http.Status
import Callpoint.Stream.Frame

/-!
# Looking at responses

A response that was read to its end, seen as a text, a value, an error body or a stream of frames,
and what may be expected of it.
-/

namespace Callpoint

open Callpoint.Http

/-- **What is expected of a response.** -/
inductive Expectation where
  | status (code : Nat)
  | header (name value : String)
  | headerPresent (name : String)
  | errorCode (code : String)
  | emptyBody
deriving DecidableEq

namespace Response

/-- The text of the first header of a name, if it is plain. -/
def headerText? (r : Response) (name : String) : Option String := r.headers.getText? name

/-- The content type. -/
def contentType? (r : Response) : Option String := r.headerText? "content-type"

/-- The body as a text. -/
def text? (r : Response) : Option String := Text.decode? r.body

/-- The body as a value, or what is wrong with it. -/
def value (r : Response) : Except String Json :=
  (Json.parse r.body).mapError fun f => "JSON error: " ++ f.describe r.body

/-- The body as the body of an error. -/
def errorBody? (r : Response) : Option ErrorBody :=
  (Json.decodeText ErrorBody.decoder r.body).toOption

/-- The body as the frames of a stream. -/
def frames? (r : Response) : Option (List Frame) := r.text?.map Frame.parseAll

/-- **Whether a response is as expected.** -/
def meets (r : Response) : Expectation → Bool
  | .status code => r.status == code
  | .header name value => r.headerText? name == some value
  | .headerPresent name => r.headers.contains name
  | .errorCode code => r.errorBody?.any fun b => b.code == code
  | .emptyBody => r.body.isEmpty

end Response

end Callpoint
