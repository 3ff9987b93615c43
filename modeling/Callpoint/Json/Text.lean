import Callpoint.Json.Value
import Callpoint.Text.Hex
import Callpoint.Text.Quoted

/-!
# The text of a JSON value

`Json.compact` writes a value without any space, `Json.pretty` over several lines with two spaces
for each level.  Strings escape the quote, the backslash and the characters below U+0020 and show
everything else as it is.
-/

namespace Callpoint.Json

open Callpoint.Number

/-- A character inside a JSON string. -/
def escapeChar (c : Char) : List Char :=
  if c = '"' then ['\\', '"']
  else if c = '\\' then ['\\', '\\']
  else if c = '\n' then ['\\', 'n']
  else if c = '\r' then ['\\', 'r']
  else if c = '\t' then ['\\', 't']
  else if c.toNat = 8 then ['\\', 'b']
  else if c.toNat = 12 then ['\\', 'f']
  else if c.toNat < 0x20 then
    ['\\', 'u', '0', '0', Text.hexLower (c.toNat / 16), Text.hexLower (c.toNat % 16)]
  else [c]

/-- A string as JSON text. -/
def quote (s : String) : String :=
  String.ofList ('"' :: (s.toList.flatMap escapeChar ++ ['"']))

/-- A number as JSON text. -/
def Number.text : Json.Number → String
  | .int i => toString i
  | .float x => x.text?.getD "null"

mutual

/-- A value as text without spaces. -/
def compact : Json → String
  | .null => "null"
  | .bool true => "true"
  | .bool false => "false"
  | .number n => n.text
  | .string s => quote s
  | .array [] => "[]"
  | .array (v :: vs) => "[" ++ compact v ++ compactItems vs ++ "]"
  | .object [] => "\x7b\x7d"
  | .object ((k, v) :: ms) => "\x7b" ++ quote k ++ ":" ++ compact v ++ compactMembers ms ++ "\x7d"

/-- Further items, each behind a comma. -/
def compactItems : List Json → String
  | [] => ""
  | v :: vs => "," ++ compact v ++ compactItems vs

/-- Further members, each behind a comma. -/
def compactMembers : List (String × Json) → String
  | [] => ""
  | (k, v) :: ms => "," ++ quote k ++ ":" ++ compact v ++ compactMembers ms

end

/-- A line break and the spaces of a level. -/
def newline (level : Nat) : String :=
  "\n" ++ String.ofList (List.replicate (2 * level) ' ')

mutual

/-- A value as indented text. -/
def prettyAt (level : Nat) : Json → String
  | .array (v :: vs) =>
    "[" ++ newline (level + 1) ++ prettyAt (level + 1) v ++ prettyItems (level + 1) vs
      ++ newline level ++ "]"
  | .object ((k, v) :: ms) =>
    "\x7b" ++ newline (level + 1) ++ quote k ++ ": " ++ prettyAt (level + 1) v
      ++ prettyMembers (level + 1) ms ++ newline level ++ "\x7d"
  | v => compact v

/-- Further items on lines of their own. -/
def prettyItems (level : Nat) : List Json → String
  | [] => ""
  | v :: vs => "," ++ newline level ++ prettyAt level v ++ prettyItems level vs

/-- Further members on lines of their own. -/
def prettyMembers (level : Nat) : List (String × Json) → String
  | [] => ""
  | (k, v) :: ms =>
    "," ++ newline level ++ quote k ++ ": " ++ prettyAt level v ++ prettyMembers level ms

end

/-- A value as indented text. -/
def pretty (v : Json) : String := prettyAt 0 v

mutual

/-- A value in the form used inside messages for programmers, with the kind of each part. -/
def inspect : Json → String
  | .null => "Null"
  | .bool b => "Bool(" ++ toString b ++ ")"
  | .number n => "Number(" ++ n.text ++ ")"
  | .string s => "String(" ++ Text.quoted s ++ ")"
  | .array vs => "Array [" ++ ", ".intercalate (inspectItems vs) ++ "]"
  | .object ms => "Object \x7b" ++ ", ".intercalate (inspectMembers ms) ++ "\x7d"

/-- `inspect` on items. -/
def inspectItems : List Json → List String
  | [] => []
  | v :: vs => inspect v :: inspectItems vs

/-- `inspect` on members. -/
def inspectMembers : List (String × Json) → List String
  | [] => []
  | (k, v) :: ms => (Text.quoted k ++ ": " ++ inspect v) :: inspectMembers ms

end

end Callpoint.Json
