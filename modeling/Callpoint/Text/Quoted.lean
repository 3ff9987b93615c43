import Callpoint.Text.Visible

/-!
# Quoted texts

The form in which a text is shown inside a message: between double quotes, with escapes for the
quote, the backslash and whatever cannot be seen.
-/

namespace Callpoint.Text

/-- A number in lower case hexadecimal digits. -/
def hex (n : Nat) : String :=
  String.ofList (Nat.toDigits 16 n)

/-- The escape of a character by its code point. -/
def codepointEscape (c : Char) : String :=
  "\\u\x7b" ++ hex c.toNat ++ "\x7d"

/-- A character inside quotes.  A character that would attach to the one before it is escaped. -/
def quoteChar (c : Char) : String :=
  if c = '\x00' then "\\0"
  else if c = '\t' then "\\t"
  else if c = '\n' then "\\n"
  else if c = '\r' then "\\r"
  else if c = '"' then "\\\""
  else if c = '\\' then "\\\\"
  else if isVisible c && !isExtending c then c.toString
  else codepointEscape c

/-- A text between double quotes. -/
def quoted (s : String) : String :=
  "\"" ++ String.join (s.toList.map quoteChar) ++ "\""

end Callpoint.Text
