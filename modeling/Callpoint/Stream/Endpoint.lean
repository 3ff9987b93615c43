import Callpoint.Exchange.Serve
import Callpoint.Stream.Live

/-!
# Stream endpoints

A request for a stream passes the same gates as any other.  Behind them the response is committed
with status 200, whatever the callback does later: an error can only end the stream.
-/

namespace Callpoint

open Callpoint.Http

/-- **How streams are kept.** -/
structure StreamPolicy where
  /-- How many frames may be queued for a client. -/
  bufferSize : Nat := 32
  /-- The longest time without a frame, in milliseconds. -/
  keepAlive : Option Nat := some 15000
deriving DecidableEq, Repr

/-- The policy with another size of the queue, which holds at least one frame. -/
def StreamPolicy.withBufferSize (p : StreamPolicy) (size : Nat) : StreamPolicy :=
  { p with bufferSize := max 1 size }

/-- **A stream endpoint:** a specification and the callback that writes the stream. -/
structure StreamEndpoint (α : Type) where
  spec : Spec
  input : InputType α
  callback : Context → α → Callback

/-- A specification bound to a callback.  It is marked as one of a stream and takes the types of the
input and the events. -/
def StreamEndpoint.bind {α : Type} (spec : Spec) (input : InputType α) (event : TypeRef)
    (callback : Context → α → Callback) : StreamEndpoint α :=
  ⟨(spec.withTypes input.type event).intoStreaming, input, callback⟩

/-- **A committed stream:** the status and the headers of its response, and the stream itself. -/
structure Committed where
  status : Nat
  headers : Headers
  live : Live

/-- The status with which every stream is committed. -/
def committedStatus : Nat := 200

/-- The signal that tells how a stream ended; `sent` is the number of its events. -/
def StreamEnd.signal (sent : Nat) : StreamEnd → Signal
  | .completed events => .streamClosed events
  | .disconnected => .streamDisconnected sent
  | .failed e => .streamFailed e.text

/-- The signals of a stream since it was opened. -/
def Live.signals (s : Live) : List Signal := (s.end?.map (StreamEnd.signal s.channel.sent)).toList

namespace Service

variable {α : Type}

/-- The headers that every stream has. -/
def streamHeaders : Headers :=
  [("content-type", Text.encode "text/event-stream"), ("cache-control", Text.encode "no-cache"),
    ("connection", Text.encode "keep-alive"), ("x-accel-buffering", Text.encode "no")]

/-- The headers of a committed stream: its own, the identifier of the request, and the default
headers of other names. -/
def committedHeaders (s : Service) (id : RequestId) : Headers :=
  (streamHeaders.insert Request.idHeader (Text.encode id.text)).addMissing s.policy.defaultHeaders

/-- **Opens a stream.** A gate that stays shut answers like that of any other endpoint. -/
def openStream (s : Service) (p : StreamPolicy) (e : StreamEndpoint α) (r : Request) :
    Course α Response Committed := do
  let (context, x) ← s.passGates e.spec e.input r
  Course.emit .streamOpened
  Course.emit (.responseWritten committedStatus)
  Course.event (.called context x)
  return {
    status := committedStatus
    headers := s.committedHeaders context.requestId
    live := .start p.bufferSize p.keepAlive context.cancelled (e.callback context x) }

end Service

end Callpoint
