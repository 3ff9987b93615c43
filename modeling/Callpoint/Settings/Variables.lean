import Callpoint.Number.Literal
import Callpoint.Settings.Basic
import Callpoint.Text.Blank
import Callpoint.Text.Case
import Callpoint.Text.Pieces

/-!
# Settings from variables

A variable `FAMILY_SECTION_FIELD` sets one field.  The variables of a family are applied sorted by
name and then by value, so the order in which they were given does not matter, and of several values
of one variable the greatest text counts.
-/

namespace Callpoint.Settings

/-- **The fields that a variable can set.** -/
inductive Field where
  | maxBodyBytes
  | validateOutput
  | trustRequestId
  | defaultHeaders
  | bufferSize
  | keepAliveSeconds
  | logEnabled
  | logLevel
  | logFormat
  | fileLineInfo
deriving DecidableEq, Repr

/-- The names of the fields behind the family. -/
def Field.keys : Assoc Field := [
  ("PIPELINE_MAX_BODY_BYTES", .maxBodyBytes), ("PIPELINE_VALIDATE_OUTPUT", .validateOutput),
  ("PIPELINE_TRUST_REQUEST_ID", .trustRequestId), ("PIPELINE_DEFAULT_HEADERS", .defaultHeaders),
  ("STREAM_BUFFER_SIZE", .bufferSize), ("STREAM_KEEP_ALIVE_SECS", .keepAliveSeconds),
  ("LOGGING_ENABLED", .logEnabled), ("LOGGING_LEVEL", .logLevel), ("LOGGING_FORMAT", .logFormat),
  ("LOGGING_FILE_LINE_INFO", .fileLineInfo)]

/-- **What the value of a variable should have been.** -/
inductive VariableError where
  | integer
  | boolean
  | pairs
  | format
deriving DecidableEq, Repr

/-- The wording of what was expected. -/
def VariableError.message : VariableError → String
  | .integer => "expected integer"
  | .boolean => "expected boolean"
  | .pairs => "expected name=value pairs"
  | .format => "expected 'json' or 'pretty'"

/-- A number of 64 bits, with blanks around it. -/
def readNumber (value : String) : Except VariableError Nat :=
  match Number.natural? 64 (Text.trim value.toList) with
  | some n => .ok n
  | none => .error .integer

/-- A truth value in one of its usual words, in any case. -/
def readFlag (value : String) : Except VariableError Bool :=
  let word := Text.lowercase value
  if word ∈ ["true", "1", "yes", "on"] then .ok true
  else if word ∈ ["false", "0", "no", "off"] then .ok false
  else .error .boolean

/-- A pair of a name and a value between which stands an equals sign. -/
def readPair (pair : List Char) : Except VariableError (String × String) :=
  match Text.cutAtFirst '=' pair with
  | some (name, value) => .ok (String.ofList (Text.trim name), String.ofList (Text.trim value))
  | none => .error .pairs

/-- Pairs between commas, with blanks around them; empty ones say nothing. -/
def readPairs (value : String) : Except VariableError (List (String × String)) :=
  (((Text.pieces ',' value.toList).map Text.trim).filter (· ≠ [])).mapM readPair

/-- Seconds, or the word for none. -/
def readSeconds (value : String) : Except VariableError Nat :=
  if value.toList.map Char.toLower = "none".toList then .ok 0 else readNumber value

/-- **Sets a field to what a value says.** -/
def Field.assign (f : Field) (value : String) (s : Settings) : Except VariableError Settings :=
  match f with
  | .maxBodyBytes =>
    (readNumber value).map fun n => { s with calls := { s.calls with maxBodyBytes := n } }
  | .validateOutput =>
    (readFlag value).map fun b => { s with calls := { s.calls with validateOutput := b } }
  | .trustRequestId =>
    (readFlag value).map fun b => { s with calls := { s.calls with trustRequestId := b } }
  | .defaultHeaders =>
    (readPairs value).map fun ps =>
      { s with calls := { s.calls with defaultHeaders := sortedTexts ps } }
  | .bufferSize =>
    (readNumber value).map fun n => { s with streams := { s.streams with bufferSize := n } }
  | .keepAliveSeconds =>
    (readSeconds value).map fun n => { s with streams := { s.streams with keepAliveSeconds := n } }
  | .logEnabled =>
    (readFlag value).map fun b => { s with logging := { s.logging with enabled := b } }
  | .logLevel => .ok { s with logging := { s.logging with level := value } }
  | .logFormat =>
    match LogFormat.parse value with
    | .ok f => .ok { s with logging := { s.logging with format := f } }
    | .error _ => .error .format
  | .fileLineInfo =>
    (readFlag value).map fun b => { s with logging := { s.logging with fileLineInfo := b } }

/-- The field that a variable of a family names. -/
def Field.ofVariable? (family name : String) : Option Field :=
  let start := (family ++ "_").toList
  if start.isPrefixOf name.toList then
    Field.keys.get? (String.ofList (name.toList.drop start.length))
  else none

/-- The variables of a family that name a field, sorted by name and value. -/
def familyOf (family : String) (vars : List (String × String)) :
    List (String × Field × String) :=
  (vars.mergeSort fun a b => decide (a.1 < b.1 ∨ a.1 = b.1 ∧ a.2 ≤ b.2)).filterMap
    fun (name, value) => (Field.ofVariable? family name).map fun f => (name, f, value)

/-- **Applies the variables of a family.** The error names the first variable that does not fit its
field. -/
def override (family : String) (vars : List (String × String)) (s : Settings) :
    Except (String × VariableError) Settings :=
  (familyOf family vars).foldlM (fun s (name, f, value) =>
    (f.assign value s).mapError fun e => (name, e)) s

end Callpoint.Settings
