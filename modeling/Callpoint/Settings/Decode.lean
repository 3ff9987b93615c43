import Callpoint.Json.Decode
import Callpoint.Settings.Basic
import Callpoint.Toml.Value

/-!
# Reading settings

Settings are read from JSON and from TOML.  In both a missing section or field has its usual value,
a field that is not known is an error, and a section may also be a list of its fields by position.
-/

namespace Callpoint.Settings

/-! ### From JSON -/

section FromJson

open Callpoint.Json

/-- The names of the log formats. -/
def formatNames : List String := LogFormat.all.map LogFormat.name

/-- Settings of calls. -/
def callDecoder : Decoder CallSettings :=
  .record "PipelineSection" true
    ((fun limit validate trust headers => ⟨limit, validate, trust, sortedTexts headers⟩)
      <$> Fields.defaulted "max_body_bytes" (.unsigned "usize" 64) ({} : CallSettings).maxBodyBytes
      <*> Fields.defaulted "validate_output" .bool false
      <*> Fields.defaulted "trust_request_id" .bool false
      <*> Fields.defaulted "default_headers" (.mapping .string) [])

/-- Settings of streams. -/
def streamDecoder : Decoder StreamSettings :=
  .record "StreamSection" true
    ((fun buffer keepAlive => ⟨buffer, keepAlive⟩)
      <$> Fields.defaulted "buffer_size" (.unsigned "usize" 64) ({} : StreamSettings).bufferSize
      <*> Fields.defaulted "keep_alive_secs" (.unsigned "u64" 64)
        ({} : StreamSettings).keepAliveSeconds)

/-- Settings of logging. -/
def logDecoder : Decoder LogSettings :=
  .record "LoggingSection" true
    ((fun enabled level format info => ⟨enabled, level, format, info⟩)
      <$> Fields.defaulted "enabled" .bool true
      <*> Fields.defaulted "level" .string ({} : LogSettings).level
      <*> Fields.defaulted "format"
        ((Decoder.variantInText formatNames).map fun n => (LogFormat.ofName? n).getD .json) .json
      <*> Fields.defaulted "file_line_info" .bool false)

/-- **The decoder of settings.** -/
def decoder : Decoder Settings :=
  .record "DaedalusConfig" true
    ((fun calls streams logging => ⟨calls, streams, logging⟩)
      <$> Fields.defaulted "pipeline" callDecoder {}
      <*> Fields.defaulted "stream" streamDecoder {}
      <*> Fields.defaulted "logging" logDecoder {})

end FromJson

/-! ### From TOML -/

section FromToml

/-- The values of some fields: by name, when there are no others, or by position. -/
def tomlFields? (names : List String) : Toml → Option (List (Option Toml))
  | .table _ ms =>
    if ms.all fun m => names.contains m.1 then some (names.map (Assoc.get? ms)) else none
  | .array items => some (names.mapIdx fun i _ => items[i]?)
  | .tables items => some (names.mapIdx fun i _ => items[i]?.map (.table .header))
  | _ => none

/-- What a value says, or the usual value if there is none. -/
def given? {α : Type} (read : Toml → Option α) (usual : α) : Option Toml → Option α
  | none => some usual
  | some v => read v

/-- A natural number. -/
def tomlNat? : Toml → Option Nat
  | .integer i => if 0 ≤ i then some i.toNat else none
  | _ => none

/-- A truth value. -/
def tomlBool? : Toml → Option Bool
  | .bool b => some b
  | _ => none

/-- A text. -/
def tomlText? : Toml → Option String
  | .string s => some s
  | _ => none

/-- The name under which a moment stands where names with texts are expected. -/
def momentName : String := "$__toml_private_datetime"

/-- Names with texts. -/
def tomlTexts? : Toml → Option (Assoc String)
  | .table _ ms => ms.mapM fun m => (tomlText? m.2).map fun s => (m.1, s)
  | .dateTime s => some [(momentName, s)]
  | _ => none

/-- Whether a value holds nothing. -/
def tomlEmpty : Toml → Bool
  | .table _ [] | .array [] => true
  | _ => false

/-- A log format, by its name alone or as the name of an empty value. -/
def tomlFormat? : Toml → Option LogFormat
  | .string s => LogFormat.ofName? s
  | .table _ [(name, v)] => if tomlEmpty v then LogFormat.ofName? name else none
  | _ => none

/-- Settings of calls. -/
def callsOfToml? (v : Toml) : Option CallSettings := do
  match ← tomlFields? ["max_body_bytes", "validate_output", "trust_request_id", "default_headers"] v
    with
  | [limit, validate, trust, headers] =>
    return {
      maxBodyBytes := ← given? tomlNat? ({} : CallSettings).maxBodyBytes limit
      validateOutput := ← given? tomlBool? false validate
      trustRequestId := ← given? tomlBool? false trust
      defaultHeaders := sortedTexts (← given? tomlTexts? [] headers) }
  | _ => none

/-- Settings of streams. -/
def streamsOfToml? (v : Toml) : Option StreamSettings := do
  match ← tomlFields? ["buffer_size", "keep_alive_secs"] v with
  | [buffer, keepAlive] =>
    return {
      bufferSize := ← given? tomlNat? ({} : StreamSettings).bufferSize buffer
      keepAliveSeconds := ← given? tomlNat? ({} : StreamSettings).keepAliveSeconds keepAlive }
  | _ => none

/-- Settings of logging. -/
def logOfToml? (v : Toml) : Option LogSettings := do
  match ← tomlFields? ["enabled", "level", "format", "file_line_info"] v with
  | [enabled, level, format, info] =>
    return {
      enabled := ← given? tomlBool? true enabled
      level := ← given? tomlText? ({} : LogSettings).level level
      format := ← given? tomlFormat? .json format
      fileLineInfo := ← given? tomlBool? false info }
  | _ => none

/-- **The settings that a TOML value describes.** -/
def ofToml? (v : Toml) : Option Settings := do
  match ← tomlFields? ["pipeline", "stream", "logging"] v with
  | [calls, streams, logging] =>
    return {
      calls := ← given? callsOfToml? {} calls
      streams := ← given? streamsOfToml? {} streams
      logging := ← given? logOfToml? {} logging }
  | _ => none

end FromToml

end Callpoint.Settings
