import Callpoint.Text.Utf8

/-!
# Request bodies

A body arrives in frames, any of which may be a fault instead, after a hint of at least how many
bytes there will be.  It is read whole, within a limit if there is one.  To go beyond a limit is a
fault as well (`Body.limited`), and the reader knows it by its kind (`BodyError.ofFault`).
-/

namespace Callpoint

/-- **Why a frame of a body did not come.** -/
inductive BodyFault where
  /-- A limit on the length of the body is exceeded. -/
  | lengthLimit
  | transport (reason : String)
deriving DecidableEq, Repr

/-- The wording of a fault. -/
def BodyFault.message : BodyFault → String
  | .lengthLimit => "length limit exceeded"
  | .transport reason => reason

/-- **A body still to be read.** -/
structure Body where
  frames : List (Except BodyFault Bytes) := []
  /-- How many bytes there will be at least. -/
  hint : Nat := 0

/-- **Why a body could not be read.** -/
inductive BodyError where
  | tooLarge (limit : Nat)
  | unreadable (reason : String)
deriving DecidableEq, Repr

namespace BodyError

/-- The wording of a body error. -/
def message : BodyError → String
  | .tooLarge limit => "request body exceeds the " ++ toString limit ++ " byte limit"
  | .unreadable reason => "failed to read request body: " ++ reason

/-- What is told of a fault.  Where there is a limit, an exceeded length limit is taken to be that
one, whoever set it. -/
def ofFault : Option Nat → BodyFault → BodyError
  | some limit, .lengthLimit => .tooLarge limit
  | _, fault => .unreadable fault.message

end BodyError

namespace Body

/-- The body of some bytes in one frame. -/
def ofBytes (bytes : Bytes) : Body := ⟨[.ok bytes], bytes.length⟩

/-- Frames under a limit: the one that does not fit into the `room` left becomes a fault. -/
def limited (room : Nat) : List (Except BodyFault Bytes) → List (Except BodyFault Bytes)
  | [] => []
  | .error fault :: rest => .error fault :: limited room rest
  | .ok frame :: rest =>
    if room < frame.length then .error .lengthLimit :: limited 0 rest
    else .ok frame :: limited (room - frame.length) rest

/-- All frames put together, up to the first fault. -/
def collect : List (Except BodyFault Bytes) → Except BodyFault Bytes
  | [] => .ok []
  | .error fault :: _ => .error fault
  | .ok frame :: rest => (collect rest).map (frame ++ ·)

/-- **The bytes of a body.** A hint beyond the limit is enough to refuse it. -/
def read (b : Body) : Option Nat → Except BodyError Bytes
  | none => (collect b.frames).mapError (.ofFault none)
  | some limit =>
    if limit < b.hint then .error (.tooLarge limit)
    else (collect (limited limit b.frames)).mapError (.ofFault (some limit))

end Body

end Callpoint
