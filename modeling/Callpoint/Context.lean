import Callpoint.Identity
import Callpoint.Params
import Callpoint.RequestId

/-!
# Request contexts

What a handler knows of the request it answers besides its input.
-/

namespace Callpoint

/-- **The context of a call.** -/
structure Context where
  requestId : RequestId
  endpoint : String
  params : Params := []
  identity : Identity := .anonymous
  cancelled : Bool := false

namespace Context

/-- The first value of a parameter. -/
def param? (c : Context) (name : String) : Option String := c.params.get? name

end Context

end Callpoint
