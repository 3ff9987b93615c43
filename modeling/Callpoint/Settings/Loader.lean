import Callpoint.Settings.Decode
import Callpoint.Settings.Variables
import Callpoint.Toml.Document

/-!
# Loading settings

Settings are put together step by step: from one of the usual sets, from files and texts, each of
which replaces what came before as a whole, and at last from variables, which replace single fields.
-/

namespace Callpoint.Settings

/-- **Why settings could not be loaded.** -/
inductive LoadError where
  | fileNotFound (path : String)
  | unreadable (path : String)
  | badToml
  | badJson (error : Json.DecodeError)
  | unsupportedFormat (name : String)
  | invalid (setting : InvalidSetting)
  | badVariable (name : String) (error : VariableError)

/-- The wording of a load error. -/
def LoadError.message : LoadError → String
  | .fileNotFound path => "configuration file not found: " ++ path
  | .unreadable path => "failed to read configuration file: " ++ path
  | .badToml => "failed to parse TOML configuration"
  | .badJson e => "failed to parse JSON configuration: " ++ e.message
  | .unsupportedFormat name => "unsupported configuration format: " ++ name
  | .invalid v => "invalid configuration value for " ++ v.field ++ ": " ++ v.reason
  | .badVariable name e =>
    "failed to parse environment variable " ++ name ++ ": " ++ e.message

/-- **What is found at a path.** -/
inductive FileState where
  | missing
  | unreadable
  | holding (bytes : Bytes)
deriving DecidableEq, Repr

/-- The settings that a text describes in a format; `name` is what a format that is not known is
called. -/
def parse (format name text : String) : Except LoadError Settings :=
  if format = "toml" then
    match Toml.parse? text >>= ofToml? with
    | some s => .ok s
    | none => .error .badToml
  else if format = "json" then (Json.decodeText decoder (Text.encode text)).mapError .badJson
  else .error (.unsupportedFormat name)

/-- The extension of a file name: what follows its last dot, unless that is its first character. -/
def extension? (path : String) : Option String :=
  match Text.pieces '.' ((Text.pieces '/' path.toList).getLast?.getD []) with
  | [] | [_] | [[], _] => none
  | parts => parts.getLast?.map String.ofList

/-- **Settings in the making:** those so far, the family of the variables that may change them, and
the variables. -/
structure Loader where
  settings : Settings := {}
  family : Option String := none
  vars : List (String × String) := []

namespace Loader

/-- Begins again with some settings. -/
def resetTo (l : Loader) (s : Settings) : Loader := { l with settings := s }

/-- Takes the settings from a text. -/
def withText (l : Loader) (text format : String) : Except LoadError Loader :=
  (parse (Text.lowercase format) format text).map l.resetTo

/-- Takes the settings from a file. -/
def withFile (l : Loader) (path : String) : FileState → Except LoadError Loader
  | .missing => .error (.fileNotFound path)
  | .unreadable => .error (.unreadable path)
  | .holding bytes =>
    match Text.decode? bytes with
    | none => .error (.unreadable path)
    | some text =>
      (parse (Text.lowercase ((extension? path).getD "")) path text).map l.resetTo

/-- Takes the settings from a file, if there is one. -/
def withOptionalFile (l : Loader) (path : String) : FileState → Except LoadError Loader
  | .missing => .ok l
  | file => l.withFile path file

/-- Lets the variables of a family change settings. -/
def withFamily (l : Loader) (family : String) : Loader :=
  { l with family := some (Text.uppercase family) }

/-- Gives the variables. -/
def withVariables (l : Loader) (vars : List (String × String)) : Loader :=
  { l with vars := vars }

/-- The settings with the changes of the variables. -/
def overridden (l : Loader) : Except LoadError Settings :=
  match l.family with
  | none => .ok l.settings
  | some family =>
    (override family l.vars l.settings).mapError fun (name, e) => .badVariable name e

/-- **The settings, changed by the variables and checked.** -/
def load (l : Loader) : Except LoadError Settings := do
  let s ← l.overridden
  (s.check).mapError .invalid
  return s

end Loader

end Callpoint.Settings
