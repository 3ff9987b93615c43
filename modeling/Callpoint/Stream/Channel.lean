import Callpoint.Stream.ServerEvent

/-!
# Channels

The queue of frames between a callback and its client.  A send is refused once the writer is closed,
the receiver has gone or the request is cancelled, and a refusal is remembered: from then on the
channel is disconnected.  A send that finds no room waits.
-/

namespace Callpoint

/-- **What a callback sends.** Data that could not be encoded comes with the reason. -/
inductive Outgoing where
  | value (name : Option String) (data : Except String Json)
  | event (event : ServerEvent)
  | comment (text : String)

namespace Outgoing

/-- The frame of what is sent, or why it has none. -/
def frame : Outgoing → Except StreamError String
  | .value _ (.error reason) => .error (.unencodable reason)
  | .value name (.ok v) => do
    (ServerEvent.ofJson name v).check
    return (ServerEvent.ofJson name v).text
  | .event e => do
    e.check
    return e.text
  | .comment text => .ok (commentText text)

/-- Whether it counts as an event.  Comments do not. -/
def isEvent : Outgoing → Bool
  | .comment _ => false
  | _ => true

end Outgoing

/-- **The side that takes frames out.** A closed receiver takes what is queued and no more. -/
inductive Receiver where
  | taking
  | closed
  | gone
deriving DecidableEq, Repr, Inhabited

/-- **A queue of frames with the state of its two sides.** -/
structure Channel where
  /-- How many frames may be queued. -/
  room : Nat
  queue : List String := []
  /-- Whether the sending side is still open. -/
  writing : Bool := true
  receiver : Receiver := .taking
  /-- Whether a refusal or a lost client was noted. -/
  lost : Bool := false
  /-- Whether the request was cancelled. -/
  cancelled : Bool := false
  /-- How many events were queued. -/
  sent : Nat := 0
deriving DecidableEq, Repr, Inhabited

namespace Channel

/-- A channel with room for `size` frames, at least one. -/
def ofSize (size : Nat) : Channel := { room := max size 1 }

/-- Whether the client is known to be gone. -/
def isDisconnected (c : Channel) : Bool := c.lost || c.cancelled

/-- Whether nothing can be sent any more. -/
def refuses (c : Channel) : Bool := !c.writing || c.isDisconnected || c.receiver != .taking

/-- The channel with a refusal noted. -/
def noteLoss (c : Channel) : Channel := { c with lost := true }

/-- The channel with a frame queued. -/
def push (c : Channel) (frame : String) (isEvent : Bool) : Channel :=
  { c with queue := c.queue ++ [frame], sent := c.sent + isEvent.toNat }

/-- **How a send goes:** it is settled, or it waits with its frame. -/
inductive Sending where
  | settled (result : Except StreamError Unit)
  | waiting (frame : String)

/-- Sends: refused, then encoded, then queued or kept waiting for room. -/
def send (c : Channel) (o : Outgoing) : Sending × Channel :=
  if c.refuses then (.settled (.error .disconnected), c.noteLoss)
  else match o.frame with
    | .error e => (.settled (.error e), c)
    | .ok frame =>
      if c.queue.length < c.room then (.settled (.ok ()), c.push frame o.isEvent)
      else (.waiting frame, c)

/-- Goes on with a frame that waited.  A receiver that takes no more ends the wait and the writing;
nothing else does. -/
def resend (c : Channel) (frame : String) (isEvent : Bool) : Sending × Channel :=
  if c.receiver != .taking then
    (.settled (.error .disconnected), { c.noteLoss with writing := false })
  else if c.queue.length < c.room then (.settled (.ok ()), c.push frame isEvent)
  else (.waiting frame, c)

/-- Closes the sending side. -/
def close (c : Channel) : Channel := { c with writing := false }

/-- Cancels the request. -/
def cancel (c : Channel) : Channel := { c with cancelled := true }

/-- Closes the receiving side; what is queued can still be taken. -/
def closeReceiver (c : Channel) : Channel :=
  { c with receiver := if c.receiver = .gone then .gone else .closed }

/-- Gives up the receiving side and what is queued. -/
def dropReceiver (c : Channel) : Channel := { c with receiver := .gone, queue := [] }

/-- **What the receiver finds.** -/
inductive Taken where
  | frame (text : String)
  | empty
  | ended
  | gone

/-- Takes the next frame.  An empty queue has ended once nobody can add to it. -/
def take (c : Channel) : Taken × Channel :=
  if c.receiver = .gone then (.gone, c)
  else match c.queue with
    | frame :: rest => (.frame frame, { c with queue := rest })
    | [] => (if c.writing ∧ c.receiver = .taking then .empty else .ended, c)

end Channel

end Callpoint
