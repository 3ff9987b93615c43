import Callpoint.Json.Decode

/-!
# Error bodies

What a client receives of an error, as it is written and as it is read back.
-/

namespace Callpoint

/-- **The body of an error response.** -/
structure ErrorBody where
  code : String
  message : String
  details : Option Json := none

namespace ErrorBody

/-- A body as it is sent; without details the member is left out. -/
def toJson (b : ErrorBody) : Json :=
  .object ([("code", .string b.code), ("message", .string b.message)]
    ++ Json.presentMembers [("details", b.details)])

/-- Reads a body; members it does not know are skipped. -/
def decoder : Json.Decoder ErrorBody :=
  .record "ErrorBody" false
    ((fun code message details => ⟨code, message, details⟩)
      <$> Json.Fields.required "code" .string
      <*> Json.Fields.required "message" .string
      <*> Json.Fields.omissible "details" .value)

end ErrorBody

end Callpoint
