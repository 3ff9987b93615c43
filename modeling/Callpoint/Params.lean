/-!
# Parameters

The named values of a request: those the router matched in the path, followed by those taken from
the query.  A name may occur several times; the first value counts.
-/

namespace Callpoint

/-- **Named values in order.** -/
abbrev Params := List (String × String)

namespace Params

/-- The first value of a name. -/
def get? (p : Params) (name : String) : Option String := p.lookup name

/-- Whether a name has a value. -/
def contains (p : Params) (name : String) : Bool := (p.get? name).isSome

end Params

end Callpoint
