import Callpoint.Stream.Channel

/-!
# Channels in use

A channel has any number of senders, which hold handles of one stream, and one reader.  A send holds
the lock of the stream until it is settled: while it waits for room, nobody else sends or closes.
`Usage.step` says what each use does to the channel, and writes down how every send was settled and
which frames left the queue.
-/

namespace Callpoint

/-- **One use of a channel,** by a sender or by the reader. -/
inductive Use where
  | send (outgoing : Outgoing)
  /-- The send that waits looks for room again. -/
  | resend
  /-- The send that waits is given up. -/
  | giveUp
  | close
  | cancel
  | take
  | dropReceiver
  /-- Notes a lost client. -/
  | noteLoss

/-- Whether a sender can do it. -/
def Use.isBySender : Use → Bool
  | .send _ | .resend | .giveUp | .close | .cancel => true
  | .take | .dropReceiver | .noteLoss => false

/-- **A channel and its history.** -/
structure Usage where
  channel : Channel
  /-- The send that waits for room, with its frame. -/
  waiting : Option (Outgoing × String) := none
  /-- The sends that were settled, in order, with their results. -/
  results : List (Outgoing × Except StreamError Unit) := []
  /-- The frames that the reader took out. -/
  taken : List String := []
  /-- The frames that the reader left behind. -/
  discarded : List String := []

namespace Usage

/-- A new channel with room for `size` frames, at least one. -/
def start (size : Nat) : Usage := { channel := .ofSize size }

/-- A send is settled or goes on waiting. -/
def settle (u : Usage) (o : Outgoing) : Channel.Sending × Channel → Usage
  | (.settled r, c) => { u with channel := c, waiting := none, results := u.results ++ [(o, r)] }
  | (.waiting frame, c) => { u with channel := c, waiting := some (o, frame) }

/-- What a use does.  A use that needs the lock does nothing while a send holds it. -/
def step (u : Usage) : Use → Usage
  | .send o =>
    match u.waiting with
    | none => u.settle o (u.channel.send o)
    | some _ => u
  | .resend =>
    match u.waiting with
    | none => u
    | some (o, frame) => u.settle o (u.channel.resend frame o.isEvent)
  | .giveUp => { u with waiting := none }
  | .close =>
    match u.waiting with
    | none => { u with channel := u.channel.close }
    | some _ => u
  | .cancel => { u with channel := u.channel.cancel }
  | .take =>
    match u.channel.take with
    | (.frame frame, c) => { u with channel := c, taken := u.taken ++ [frame] }
    | _ => u
  | .dropReceiver =>
    { u with channel := u.channel.dropReceiver, discarded := u.discarded ++ u.channel.queue }
  | .noteLoss => { u with channel := u.channel.noteLoss }

/-- The channel after some uses. -/
def run (u : Usage) (uses : List Use) : Usage := uses.foldl step u

/-- The accepted ones of some sends, in order. -/
def acceptedOf (results : List (Outgoing × Except StreamError Unit)) : List Outgoing :=
  results.filterMap fun
    | (o, .ok ()) => some o
    | _ => none

/-- The sends that were accepted, in order. -/
def accepted (u : Usage) : List Outgoing := acceptedOf u.results

/-- Every frame that was queued at any time: those that left the queue and those still in it. -/
def queued (u : Usage) : List String := u.taken ++ u.discarded ++ u.channel.queue

end Usage

end Callpoint
