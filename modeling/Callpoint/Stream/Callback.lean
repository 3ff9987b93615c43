import Callpoint.Stream.Channel

/-!
# Callbacks

A callback writes a stream.  It is a tree of what it asks for, each time with what it does with the
answer, down to its result.  `Callback.advance` runs it up to the next point at which it has to
wait.
-/

namespace Callpoint

/-- **What a stream callback does.** Times are in milliseconds. -/
inductive Callback where
  | finish (result : Except Chain Unit)
  | send (outgoing : Outgoing) (next : Except StreamError Unit → Callback)
  | close (next : Callback)
  | cancel (next : Callback)
  | sleep (duration : Nat) (next : Callback)
  /-- Waits until the request is cancelled. -/
  | untilCancelled (next : Callback)
  /-- Asks how many events were sent, whether the client is gone and whether the request is
  cancelled. -/
  | inquire (next : Nat → Bool → Bool → Callback)
  /-- Leaves a note in the log of the stream. -/
  | note (entry : Json) (next : Callback)

/-- A refused send as an error of the callback; the reason of an encoding failure is its cause. -/
def StreamError.chain (e : StreamError) : Chain :=
  match e with
  | .unencodable reason => [.stream e, .text reason]
  | _ => [.stream e]

/-- **How a stream ended.** -/
inductive StreamEnd where
  | completed (events : Nat)
  | disconnected
  | failed (error : Chain)

/-- How a stream ended whose callback gave a result.  An error counts as a lost client if it says so
itself or the channel does. -/
def StreamEnd.ofResult (c : Channel) : Except Chain Unit → StreamEnd
  | .ok () => .completed c.sent
  | .error e => if e.isDisconnect || c.isDisconnected then .disconnected else .failed e

/-- **What a callback waits for.** -/
inductive Pause where
  | start (next : Callback)
  | forRoom (frame : String) (isEvent : Bool) (next : Except StreamError Unit → Callback)
  | untilTime (time : Nat) (next : Callback)
  | untilCancelled (next : Callback)
  | ended (outcome : StreamEnd)

/-- A callback's pause, the channel and the notes it left. -/
structure Advanced where
  pause : Pause
  channel : Channel
  notes : List Json

namespace Callback

/-- Runs a callback at a time until it has to wait.  When it has ended, the channel is closed. -/
def advance (now : Nat) : Callback → Channel → List Json → Advanced
  | .finish result, c, notes => ⟨.ended (.ofResult c.close result), c.close, notes⟩
  | .send o next, c, notes =>
    match c.send o with
    | (.settled r, c) => advance now (next r) c notes
    | (.waiting frame, c) => ⟨.forRoom frame o.isEvent next, c, notes⟩
  | .close next, c, notes => advance now next c.close notes
  | .cancel next, c, notes => advance now next c.cancel notes
  | .sleep duration next, c, notes => ⟨.untilTime (now + duration) next, c, notes⟩
  | .untilCancelled next, c, notes =>
    if c.cancelled then advance now next c notes else ⟨.untilCancelled next, c, notes⟩
  | .inquire next, c, notes =>
    advance now (next c.sent c.isDisconnected c.cancelled) c notes
  | .note entry next, c, notes => advance now next c (notes ++ [entry])

end Callback

namespace Pause

/-- Whether what a callback waits for has come. -/
def isOver (now : Nat) (c : Channel) : Pause → Bool
  | .start _ => true
  | .forRoom .. => c.receiver != .taking || c.queue.length < c.room
  | .untilTime time _ => time ≤ now
  | .untilCancelled _ => c.cancelled
  | .ended _ => false

/-- Goes on behind a pause, if what the callback waits for has come. -/
def resume (now : Nat) (p : Pause) (c : Channel) (notes : List Json) : Advanced :=
  match p with
  | .start next => next.advance now c notes
  | .forRoom frame isEvent next =>
    match c.resend frame isEvent with
    | (.settled r, c) => (next r).advance now c notes
    | (.waiting _, c) => ⟨p, c, notes⟩
  | .untilTime time next => if time ≤ now then next.advance now c notes else ⟨p, c, notes⟩
  | .untilCancelled next => if c.cancelled then next.advance now c notes else ⟨p, c, notes⟩
  | .ended _ => ⟨p, c, notes⟩

end Pause

end Callpoint
