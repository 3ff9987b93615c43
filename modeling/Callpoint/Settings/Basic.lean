import Callpoint.Assoc
import Callpoint.Exchange.Policy
import Callpoint.Json.Text
import Callpoint.Logging.Config
import Callpoint.Stream.Endpoint

/-!
# Settings

What can be set from outside the program: settings of calls, of streams and of logging.  `policy`,
`streamPolicy` and `logConfig` are what they amount to.
-/

namespace Callpoint

open Callpoint.Http

/-- Names with texts, sorted by name; of values of the same name the last one counts. -/
def sortedTexts (pairs : List (String × String)) : Assoc String :=
  (Assoc.setAll [] pairs).mergeSort fun a b => decide (a.1 ≤ b.1)

/-- **Settings of calls.** -/
structure CallSettings where
  /-- The greatest body that is read; zero stands for no limit. -/
  maxBodyBytes : Nat := 10 * 1024 * 1024
  validateOutput : Bool := false
  trustRequestId : Bool := false
  /-- Headers of every success, sorted by name. -/
  defaultHeaders : Assoc String := []
deriving DecidableEq, Repr

/-- **Settings of streams.** -/
structure StreamSettings where
  bufferSize : Nat := 32
  /-- Seconds between signs of life; zero stands for none. -/
  keepAliveSeconds : Nat := 15
deriving DecidableEq, Repr

/-- **Settings of logging.** -/
structure LogSettings where
  enabled : Bool := true
  level : String := "info"
  format : LogFormat := .json
  fileLineInfo : Bool := false
deriving DecidableEq, Repr

/-- **All settings.** -/
structure Settings where
  calls : CallSettings := {}
  streams : StreamSettings := {}
  logging : LogSettings := {}
deriving DecidableEq, Repr

/-- **A setting that cannot be used.** -/
inductive InvalidSetting where
  | headerName (name : String)
  | headerValue (name : String)
  | emptyBuffer
  | level (error : LoggingError)
deriving DecidableEq, Repr

namespace InvalidSetting

/-- The path of the setting. -/
def field : InvalidSetting → String
  | .headerName name | .headerValue name => "pipeline.default_headers." ++ name
  | .emptyBuffer => "stream.buffer_size"
  | .level _ => "logging.level"

/-- Why it cannot be used. -/
def reason : InvalidSetting → String
  | .headerName _ => invalidName
  | .headerValue _ => invalidValue
  | .emptyBuffer => "must be at least 1"
  | .level e => e.message

end InvalidSetting

namespace CallSettings

/-- The line of a default header. -/
def headerLine (header : String × String) : Except InvalidSetting (String × HeaderValue) :=
  match headerName? header.1, headerValue? (Text.encode header.2) with
  | some name, some value => .ok (name, value)
  | none, _ => .error (.headerName header.1)
  | _, none => .error (.headerValue header.1)

/-- The lines of the default headers, or the first of these that is none. -/
def headerLines (s : CallSettings) : Except InvalidSetting (List (String × HeaderValue)) :=
  s.defaultHeaders.mapM headerLine

/-- The rules of a service with these settings. -/
def policy (s : CallSettings) : Except InvalidSetting Policy := do
  let base : Policy :=
    { maxBodyBytes := s.maxBodyBytes
      validateOutput := s.validateOutput
      trustRequestId := s.trustRequestId }
  return (← s.headerLines).foldl (fun p line => p.withDefaultHeader line.1 line.2) base

end CallSettings

/-- The rules of streams with these settings. -/
def StreamSettings.policy (s : StreamSettings) : StreamPolicy :=
  { ({} : StreamPolicy).withBufferSize s.bufferSize with
    keepAlive := if s.keepAliveSeconds = 0 then none else some (1000 * s.keepAliveSeconds) }

/-- Logging with these settings: the begin and the end of spans are shown to people only. -/
def LogSettings.config (s : LogSettings) : LogConfig :=
  { enabled := s.enabled
    level := s.level
    format := s.format
    spanEvents := s.format = .pretty
    fileLineInfo := s.fileLineInfo }

namespace Settings

/-- Settings for work on the program itself. -/
def development : Settings := { logging := { level := "debug", format := .pretty } }

/-- Settings for its use. -/
def production : Settings := {}

/-- **Checks the settings:** the default headers, the buffer of streams, and the filter of logging
unless that is disabled. -/
def check (s : Settings) : Except InvalidSetting Unit := do
  let _ ← s.calls.headerLines
  if s.streams.bufferSize = 0 then throw .emptyBuffer
  if s.logging.enabled then (Logging.requireFilter s.logging.level).mapError .level

/-- Settings as they are written. -/
def toJson (s : Settings) : Json :=
  .object [
    ("pipeline", .object [
      ("max_body_bytes", .nat s.calls.maxBodyBytes),
      ("validate_output", .bool s.calls.validateOutput),
      ("trust_request_id", .bool s.calls.trustRequestId),
      ("default_headers", .object (s.calls.defaultHeaders.map fun h => (h.1, .string h.2)))]),
    ("stream", .object [
      ("buffer_size", .nat s.streams.bufferSize),
      ("keep_alive_secs", .nat s.streams.keepAliveSeconds)]),
    ("logging", .object [
      ("enabled", .bool s.logging.enabled),
      ("level", .string s.logging.level),
      ("format", .string s.logging.format.name),
      ("file_line_info", .bool s.logging.fileLineInfo)])]

end Settings

end Callpoint
