import Callpoint.Errors.Chain
import Callpoint.Text.Pieces

/-!
# Server-sent events

An event has data and may have an identifier and a name; on the wire it is a frame of lines that
ends with an empty line.  Data of several lines takes several `data` lines.  A comment is a frame
that readers ignore.  Identifiers and names stand on one line each, which `ServerEvent.check` makes
sure of.
-/

namespace Callpoint

open Callpoint.Text

/-- **An event for the client of a stream.** -/
structure ServerEvent where
  data : String
  id : Option String := none
  name : Option String := none
deriving DecidableEq, Repr, Inhabited

namespace ServerEvent

/-- One line of a frame: a label, a colon and a value. -/
def labelled (label value : List Char) : List Char := label ++ ':' :: ' ' :: value ++ ['\n']

/-- The line of a field that may be missing. -/
def optionalLine (label : String) : Option String → List Char
  | none => []
  | some value => labelled label.toList value.toList

/-- The lines of a text under one label; a text without characters takes a bare label. -/
def textLines (label text : List Char) : List Char :=
  if text.isEmpty then label ++ [':', '\n'] else (lines text).flatMap (labelled label)

/-- The frame of an event, character by character. -/
def chars (e : ServerEvent) : List Char :=
  optionalLine "id" e.id ++ optionalLine "event" e.name
    ++ textLines "data".toList e.data.toList ++ ['\n']

/-- **The frame of an event.** -/
def text (e : ServerEvent) : String := String.ofList e.chars

/-- Whether a value would not stay on its line. -/
def breaksLine (value : String) : Bool := value.toList.any fun c => c == '\n' || c == '\r'

/-- Refuses an event whose identifier or name would not stay on its line. -/
def check (e : ServerEvent) : Except StreamError Unit :=
  if e.id.any breaksLine then .error (.invalidField "id")
  else if e.name.any breaksLine then .error (.invalidField "event")
  else .ok ()

/-- An event whose data is a value. -/
def ofJson (name : Option String) (v : Json) : ServerEvent := { data := v.compact, name := name }

end ServerEvent

/-- The frame of a comment, character by character. -/
def commentChars (text : String) : List Char :=
  ServerEvent.textLines [] text.toList ++ ['\n']

/-- **The frame of a comment.** -/
def commentText (text : String) : String := String.ofList (commentChars text)

/-- The frame that keeps an idle stream open. -/
def keepAliveFrame : String := commentText "keepalive"

end Callpoint
