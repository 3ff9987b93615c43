/-!
# Cancellation

A cancel signal is shared by its handles.  Triggering any of them sets a flag and wakes those who
wait.  `Cancellation.step` runs the signal with its handles and waiters: a waiter has subscribed
when it was made, looks at the flag when it is polled first, and from then on listens for the one
message that a trigger sends.
-/

namespace Callpoint

/-- **How far a waiter has come.** -/
inductive Waiting where
  /-- Not polled yet. -/
  | fresh
  /-- Polled, and waiting for a message. -/
  | listening
  /-- Every handle was gone before a message came. -/
  | abandoned
  /-- Has been told. -/
  | finished
deriving DecidableEq, Repr

/-- **One who waits for the signal,** with the messages sent since it subscribed. -/
structure Waiter where
  stage : Waiting := .fresh
  messages : Nat := 0
deriving DecidableEq, Repr

/-- **A cancel signal with all its handles and waiters.** A handle that was dropped is `false`. -/
structure Cancellation where
  triggered : Bool := false
  handles : List Bool := [true]
  waiters : List Waiter := []
deriving DecidableEq, Repr

/-- What a poll finds. -/
inductive Poll where
  | ready
  | pending
  | done
deriving DecidableEq, Repr

namespace Cancellation

/-- Adds a handle. -/
def clone (c : Cancellation) : Cancellation := { c with handles := c.handles ++ [true] }

/-- Triggers the signal.  Only the first trigger has an effect. -/
def trigger (c : Cancellation) : Cancellation :=
  if c.triggered then c
  else
    { c with
      triggered := true
      waiters := c.waiters.map fun w => { w with messages := w.messages + 1 } }

/-- Drops a handle. -/
def drop (c : Cancellation) (handle : Nat) : Cancellation :=
  { c with handles := c.handles.set handle false }

/-- Adds a waiter. -/
def wait (c : Cancellation) : Cancellation := { c with waiters := c.waiters ++ [{}] }

/-- Whether some handle is left. -/
def alive (c : Cancellation) : Bool := c.handles.any id

/-- What a poll does to one waiter. -/
def pollWaiter (triggered alive : Bool) (w : Waiter) : Waiter × Poll :=
  let listen : Waiter × Poll :=
    if 0 < w.messages then (⟨.finished, w.messages - 1⟩, .ready)
    else if alive then (⟨.listening, 0⟩, .pending)
    else (⟨.abandoned, 0⟩, .pending)
  match w.stage with
  | .finished => (w, .done)
  | .abandoned => (w, .pending)
  | .listening => listen
  | .fresh => if triggered then (⟨.finished, w.messages⟩, .ready) else listen

/-- Polls a waiter; one that is not there has nothing more to tell. -/
def poll (c : Cancellation) (waiter : Nat) : Cancellation × Poll :=
  match c.waiters[waiter]? with
  | none => (c, .done)
  | some w =>
    let (w, found) := pollWaiter c.triggered c.alive w
    ({ c with waiters := c.waiters.set waiter w }, found)

/-! ### Steps -/

/-- **One step** with a handle of the signal, or of one who waits for it. -/
inductive Step where
  | clone (handle : Nat)
  | trigger (handle : Nat)
  | wait (handle : Nat)
  | drop (handle : Nat)
  | poll (waiter : Nat)
deriving DecidableEq, Repr

/-- Whether a handle was made and not dropped. -/
def holds (c : Cancellation) (handle : Nat) : Bool := c.handles[handle]? = some true

/-- What a handle says of the signal.  One that is not held says nothing. -/
def isCancelled? (c : Cancellation) (handle : Nat) : Option Bool :=
  if c.holds handle then some c.triggered else none

/-- **The signal after a step.** Nothing can be done with a handle that is not held. -/
def step (c : Cancellation) : Step → Cancellation
  | .clone handle => if c.holds handle then c.clone else c
  | .trigger handle => if c.holds handle then c.trigger else c
  | .wait handle => if c.holds handle then c.wait else c
  | .drop handle => c.drop handle
  | .poll waiter => (c.poll waiter).1

/-- The signal after some steps. -/
def run (c : Cancellation) (steps : List Step) : Cancellation := steps.foldl step c

end Cancellation

end Callpoint
