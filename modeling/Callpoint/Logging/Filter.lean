import Callpoint.Number.Literal
import Callpoint.Text.Blank
import Callpoint.Text.Letter
import Callpoint.Text.Pieces

/-!
# Log filters

A filter is a list of directives between commas.  A directive is a level, or a target that may be
followed by a span in brackets, with a field in braces, and by a level behind an equals sign.
`checkFilter` tells whether a text is a filter and, if not, what is wrong with its first bad
directive.
-/

namespace Callpoint.Logging

open Callpoint.Text

/-- The names of the levels.  A level may also be written as its place in this list. -/
def levelNames : List String := ["off", "error", "warn", "info", "debug", "trace"]

/-- **What is wrong with a directive.** -/
inductive FilterError where
  | malformed
  | badLevel
deriving DecidableEq, Repr

/-- The wording of a filter error. -/
def FilterError.message : FilterError → String
  | .malformed => "invalid filter directive"
  | .badLevel => "error parsing level filter: expected one of "
    ++ String.join (levelNames.map fun name => "\"" ++ name ++ "\", ") ++ "or a number 0-5"

/-- Whether a text is a level, in any case. -/
def isLevel (cs : List Char) : Bool :=
  match Number.natural? 64 cs with
  | some n => n < levelNames.length
  | none => levelNames.contains (String.ofList (cs.map Char.toLower))

/-- A level behind its equals sign; nothing stands for every level.  A directive with blanks around
it has no level that can be read. -/
def checkLevel (blanks : Bool) (cs : List Char) : Except FilterError Unit :=
  if !blanks && (cs.isEmpty || isLevel cs) then .ok () else .error .badLevel

/-- What may follow a span: a level or nothing. -/
def checkBehindSpan (blanks : Bool) : List Char → Except FilterError Unit
  | [] => .ok ()
  | '=' :: level => checkLevel blanks level
  | _ => .error .malformed

/-- A field behind its opening brace: it is not empty, and its brace closes right ahead of the
bracket of the span. -/
def checkField (blanks : Bool) (cs : List Char) : Except FilterError Unit :=
  match cutAtFirst '\x7d' cs with
  | some (_ :: _, ']' :: rest) => checkBehindSpan blanks rest
  | _ => .error .malformed

/-- A span behind its opening bracket. -/
def checkSpan (blanks : Bool) : List Char → Except FilterError Unit
  | [] => .error .malformed
  | c :: cs =>
    if c = ']' then checkBehindSpan blanks cs
    else if c = '\x7b' then checkField blanks cs
    else checkSpan blanks cs

/-- What follows the first character of a level or a target. -/
def checkTarget (blanks : Bool) : List Char → Except FilterError Unit
  | [] => .ok ()
  | '=' :: level => checkLevel blanks level
  | '[' :: span => checkSpan blanks span
  | _ :: cs => checkTarget blanks cs

/-- Whether a character may begin a level or a target. -/
def beginsTarget (c : Char) : Bool := isAlphanumeric c || c == '-' || c == ':' || c == '_'

/-- One directive; blanks around it are not part of it. -/
def checkDirective (cs : List Char) : Except FilterError Unit :=
  let shown := trim cs
  let blanks := shown != cs
  match shown with
  | '[' :: span => checkSpan blanks span
  | c :: rest => if beginsTarget c then checkTarget blanks rest else .error .malformed
  | [] => .error .malformed

/-- **Checks a filter.** Empty directives say nothing. -/
def checkFilter (filter : String) : Except FilterError Unit :=
  ((pieces ',' filter.toList).filter (· ≠ [])).forM checkDirective

end Callpoint.Logging
