import Callpoint.Json.Reading
import Callpoint.Text.Pieces

/-!
# Reading streams

What a client makes of the text of a stream: frames between empty lines.  Lines with a label that is
not known say nothing, but a frame of only such lines is a frame all the same.
-/

namespace Callpoint

open Callpoint.Text

/-- **A frame as a client reads it.** -/
structure Frame where
  event : Option String := none
  data : Option String := none
  id : Option String := none
  comments : List String := []
deriving DecidableEq, Repr, Inhabited

namespace Frame

/-- Whether a frame holds nothing but comments. -/
def isComment (f : Frame) : Bool := f.event.isNone && f.data.isNone && f.id.isNone

/-- The data of a frame as a value. -/
def json (f : Frame) : Except Json.Fault Json := Json.parse (encode (f.data.getD ""))

/-- A line as its label and its value; one space behind the colon is not part of the value. -/
def labelAndValue (line : List Char) : String × String :=
  match cutAtFirst ':' line with
  | none => (String.ofList line, "")
  | some (label, ' ' :: value) => (String.ofList label, String.ofList value)
  | some (label, value) => (String.ofList label, String.ofList value)

/-- A frame with one more line. -/
def addLine (f : Frame) (line : List Char) : Frame :=
  let (label, value) := labelAndValue line
  match label with
  | "" => { f with comments := f.comments ++ [value] }
  | "event" => { f with event := some value }
  | "id" => { f with id := some value }
  | "data" =>
    { f with data := some (match f.data with
        | some before => before ++ "\n" ++ value
        | none => value) }
  | _ => f

/-- The frames of some lines, when the lines of `current` have been read. -/
def ofLines (current : Option Frame) : List (List Char) → List Frame
  | [] => current.toList
  | line :: rest =>
    if line.isEmpty then current.toList ++ ofLines none rest
    else ofLines (some ((current.getD {}).addLine line)) rest

/-- **The frames of a text.** -/
def parseAll (text : String) : List Frame := ofLines none (lines text.toList)

end Frame

end Callpoint
