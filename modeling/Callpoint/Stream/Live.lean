import Callpoint.Stream.Callback

/-!
# Live streams

A live stream is a callback, the channel it writes to, and the body from which the client
reads.  The client polls the body for one frame at a time; while nothing is queued the body sends
keep-alive frames.  `Live.step` says what a single move of either side does, in any order of moves,
and `Live.run` lets both sides move in turn, with the time going on when both wait.
-/

namespace Callpoint

/-- How a client stands to the body it reads. -/
inductive Client where
  | reading
  | sawEnd
  | left
deriving DecidableEq, Repr, Inhabited

/-- **A stream under way.** Times are in milliseconds since it was opened. -/
structure Live where
  channel : Channel
  pause : Pause
  now : Nat := 0
  /-- The longest time without a frame. -/
  keepAlive : Option Nat := none
  /-- When the next keep-alive frame is due. -/
  due : Option Nat := none
  client : Client := .reading
  received : List String := []
  notes : List Json := []

/-- **One move** of the client, of the callback or of the time. -/
inductive Move where
  | poll
  | leave
  | resume
  | elapse (duration : Nat)
deriving DecidableEq, Repr

namespace Live

/-- A stream that has just been opened.  A keep-alive time of zero is none. -/
def start (size : Nat) (keepAlive : Option Nat) (cancelled : Bool) (callback : Callback) : Live :=
  let period := keepAlive.filter (0 < ·)
  { channel := { Channel.ofSize size with cancelled := cancelled }
    pause := .start callback
    keepAlive := period
    due := period }

/-- Whether a keep-alive frame is due. -/
def isDue (s : Live) : Bool := s.due.any (· ≤ s.now)

/-- The client receives a frame; the next keep-alive frame is due a full time later. -/
def receive (s : Live) (frame : String) : Live :=
  { s with received := s.received ++ [frame], due := s.keepAlive.map (s.now + ·) }

/-- The client polls the body: it takes what is queued first, then the end, then a keep-alive frame
that is due. -/
def poll (s : Live) : Live :=
  if s.client ≠ .reading then s
  else match s.channel.take with
    | (.frame frame, c) => { s.receive frame with channel := c }
    | (.ended, _) => { s with client := .sawEnd }
    | (.empty, _) => if s.isDue then s.receive keepAliveFrame else s
    | (.gone, _) => s

/-- The client drops the body.  Before its end that means that the client has gone, which is noted
and cancels the request. -/
def leave (s : Live) : Live :=
  if s.client ≠ .reading then s
  else { s with client := .left, channel := s.channel.dropReceiver.noteLoss.cancel }

/-- The callback goes on, if what it waits for has come. -/
def resume (s : Live) : Live :=
  let a := s.pause.resume s.now s.channel s.notes
  { s with pause := a.pause, channel := a.channel, notes := a.notes }

/-- The stream after a move. -/
def step (s : Live) : Move → Live
  | .poll => s.poll
  | .leave => s.leave
  | .resume => s.resume
  | .elapse duration => { s with now := s.now + duration }

/-- The stream after some moves. -/
def steps (s : Live) (moves : List Move) : Live := moves.foldl step s

/-- How the stream ended, once it has. -/
def end? (s : Live) : Option StreamEnd :=
  match s.pause with
  | .ended outcome => some outcome
  | _ => none

/-! ### Taking turns -/

/-- Whether the client would not have to wait. -/
def canPoll (s : Live) : Bool :=
  match s.channel.take.1 with
  | .empty => s.isDue
  | _ => true

/-- The next time at which one side has something to do: a sleep is over, or a keep-alive frame is
due to a client who reads. -/
def nextTime? (s : Live) : Option Nat :=
  let waking := match s.pause with
    | .untilTime time _ => some time
    | _ => none
  let due := if s.client = .reading then s.due else none
  match waking, due with
  | some t, some u => some (min t u)
  | t, u => t <|> u

/-- The move of a client who reads at most `limit` frames and then leaves, or else of the callback,
or else of the time.  The client has the first turn; `none` means that nothing will happen any more.
-/
def next? (limit : Option Nat) (s : Live) : Option Move :=
  if s.client = .reading ∧ limit.any (· ≤ s.received.length) then some .leave
  else if s.client = .reading ∧ s.canPoll then some .poll
  else if s.pause.isOver s.now s.channel then some .resume
  else s.nextTime?.map fun time => .elapse (time - s.now)

/-- Lets both sides take turns, for at most `moves` moves. -/
def run (limit : Option Nat) : (moves : Nat) → Live → Live
  | 0, s => s
  | moves + 1, s =>
    match s.next? limit with
    | none => s
    | some m => run limit moves (s.step m)

end Live

end Callpoint
