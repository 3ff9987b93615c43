import Callpoint.Stream.Live
import Callpoint.Stream.Usage

/-!
# Streams with several writers

A callback may hand its stream on to other tasks, and these may go on sending when it has returned.
`Shared.step` says what each side does in a single step, in any order of steps: the client, the
callback, which does one thing at a time, the other tasks, and the time.  It also writes down how
the sends went and where the frames came from that the client received.
-/

namespace Callpoint

/-- **Where a frame comes from** that the client received: it was queued, or it keeps the stream
open. -/
inductive Delivery where
  | queued (frame : String)
  | keepAlive

namespace Delivery

/-- What the client received. -/
def text : Delivery → String
  | .queued frame => frame
  | .keepAlive => keepAliveFrame

/-- The frame, if it was queued. -/
def frame? : Delivery → Option String
  | .queued frame => some frame
  | .keepAlive => none

end Delivery

/-- What a poll brings to the client. -/
def Live.delivery? (s : Live) : Option Delivery :=
  if s.client ≠ .reading then none
  else match s.channel.take.1 with
    | .frame frame => some (.queued frame)
    | .empty => if s.isDue then some .keepAlive else none
    | _ => none

namespace Pause

/-- Where a callback stands when it has sent something. -/
def ofSending (isEvent : Bool) (next : Except StreamError Unit → Callback) :
    Channel.Sending → Pause
  | .settled r => .start (next r)
  | .waiting frame => .forRoom frame isEvent next

/-- Whether a callback waits for room. -/
def isForRoom : Pause → Bool
  | .forRoom .. => true
  | _ => false

end Pause

/-- **A stream with several writers,** and its history. -/
structure Shared where
  live : Live
  /-- The send that waits for room, whoever sends, with its frame. -/
  waiting : Option (Outgoing × String) := none
  /-- The sends that were settled, in order, with their results. -/
  results : List (Outgoing × Except StreamError Unit) := []
  /-- The frames that the client received. -/
  deliveries : List Delivery := []
  /-- The frames that the client left behind. -/
  discarded : List String := []

/-- **One step** of the client, of the time, of the callback or of another task. -/
inductive Act where
  | poll
  | leave
  | elapse (duration : Nat)
  /-- The callback does the next thing. -/
  | proceed
  | other (use : Use)

namespace Shared

/-- The channel of a stream with its history. -/
def usage (s : Shared) : Usage where
  channel := s.live.channel
  waiting := s.waiting
  results := s.results
  taken := s.deliveries.filterMap Delivery.frame?
  discarded := s.discarded

/-- The stream after a sender used its channel. -/
def use (s : Shared) (x : Use) : Shared :=
  let u := s.usage.step x
  { s with
    live := { s.live with channel := u.channel }
    waiting := u.waiting
    results := u.results }

/-- The stream with the callback at another place. -/
def withPause (s : Shared) (p : Pause) : Shared := { s with live := { s.live with pause := p } }

/-- What the callback does next.  It waits while the send of another task holds the lock.  When it
has returned, first the stream is closed; the end is told from what is then found. -/
def perform (s : Shared) : Callback → Shared
  | .finish result =>
    if s.live.channel.writing then s.use .close
    else s.withPause (.ended (.ofResult s.live.channel result))
  | .send o next =>
    if s.waiting.isSome then s
    else (s.use (.send o)).withPause (.ofSending o.isEvent next (s.live.channel.send o).1)
  | .close next => if s.waiting.isSome then s else (s.use .close).withPause (.start next)
  | .cancel next => (s.use .cancel).withPause (.start next)
  | .sleep duration next => s.withPause (.untilTime (s.live.now + duration) next)
  | .untilCancelled next => s.withPause (.untilCancelled next)
  | .inquire next =>
    let c := s.live.channel
    s.withPause (.start (next c.sent c.isDisconnected c.cancelled))
  | .note entry next =>
    { s with live := { s.live with pause := .start next, notes := s.live.notes ++ [entry] } }

/-- The callback goes on, if it need not wait. -/
def proceed (s : Shared) : Shared :=
  match s.live.pause with
  | .start next => s.perform next
  | .forRoom frame isEvent next =>
    (s.use .resend).withPause (.ofSending isEvent next (s.live.channel.resend frame isEvent).1)
  | .untilTime time next => if time ≤ s.live.now then s.withPause (.start next) else s
  | .untilCancelled next => if s.live.channel.cancelled then s.withPause (.start next) else s
  | .ended _ => s

/-- Whether another task can do something.  It can go on with a send that waits, or give it up, if
this is not the callback's. -/
def isFree (s : Shared) : Use → Bool
  | .resend | .giveUp => !s.live.pause.isForRoom
  | x => x.isBySender

/-- The stream after a step. -/
def step (s : Shared) : Act → Shared
  | .poll =>
    { s with live := s.live.poll, deliveries := s.deliveries ++ s.live.delivery?.toList }
  | .leave =>
    { s with
      live := s.live.leave
      discarded := s.discarded ++ if s.live.client = .reading then s.live.channel.queue else [] }
  | .elapse duration => { s with live := s.live.step (.elapse duration) }
  | .proceed => s.proceed
  | .other x => if s.isFree x then s.use x else s

/-- The stream after some steps. -/
def run (s : Shared) (acts : List Act) : Shared := acts.foldl step s

/-- The sends that were accepted, in order. -/
def accepted (s : Shared) : List Outgoing := s.usage.accepted

/-- The frames that the client received from the queue, in order. -/
def frames (s : Shared) : List String := s.deliveries.filterMap Delivery.frame?

end Shared

end Callpoint
