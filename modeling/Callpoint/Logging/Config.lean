import Callpoint.Json.Text
import Callpoint.Logging.Filter

/-!
# Logging

How calls are logged: in which format, at which levels, and with how much about the place a line
comes from.
-/

namespace Callpoint

/-- **The format of log lines.** -/
inductive LogFormat where
  | json
  | pretty
deriving DecidableEq, Repr, Inhabited

/-- **Why logging cannot be set up.** -/
inductive LoggingError where
  | unknownFormat (name : String)
  | badFilter (filter : String) (error : Logging.FilterError)
deriving DecidableEq, Repr

/-- The wording of a logging error. -/
def LoggingError.message (e : LoggingError) : String :=
  "Invalid configuration: " ++ match e with
    | .unknownFormat name =>
      "unknown log format \x60" ++ name ++ "\x60, expected 'json' or 'pretty'"
    | .badFilter filter e => "invalid log level \x60" ++ filter ++ "\x60: " ++ e.message

namespace LogFormat

/-- The formats. -/
def all : List LogFormat := [.json, .pretty]

/-- The name of a format. -/
def name : LogFormat → String
  | .json => "json"
  | .pretty => "pretty"

/-- The format with a name. -/
def ofName? (name : String) : Option LogFormat := all.find? fun f => f.name == name

/-- The format with a name in any case. -/
def parse (text : String) : Except LoggingError LogFormat :=
  let lower := String.ofList (text.toList.map Char.toLower)
  match ofName? lower with
  | some f => .ok f
  | none => .error (.unknownFormat lower)

/-- The format that a name, read back, stands for is the format itself. -/
theorem ofName?_name (f : LogFormat) : ofName? f.name = some f := by
  cases f <;> rfl

end LogFormat

/-- **How calls are logged.** -/
structure LogConfig where
  enabled : Bool := true
  /-- The filter of the lines. -/
  level : String := "info"
  format : LogFormat := .json
  /-- Whether the begin and the end of spans are logged. -/
  spanEvents : Bool := false
  fileLineInfo : Bool := false
  includeTarget : Bool := true
deriving DecidableEq, Repr

namespace LogConfig

/-- Logging for people who look on. -/
def development : LogConfig :=
  { level := "debug", format := .pretty, spanEvents := true, fileLineInfo := true }

/-- Logging for machines that collect. -/
def production : LogConfig := {}

end LogConfig

namespace Logging

/-- Checks a text that is to be the filter of log lines. -/
def requireFilter (filter : String) : Except LoggingError Unit :=
  (checkFilter filter).mapError (.badFilter filter)

/-- Checks what logging needs to start: nothing when it is disabled. -/
def ready (c : LogConfig) : Except LoggingError Unit :=
  if c.enabled then requireFilter c.level else .ok ()

end Logging

end Callpoint
