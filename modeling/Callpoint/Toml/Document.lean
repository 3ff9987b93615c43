import Callpoint.Toml.Scalar
import Callpoint.Toml.Tables

/-!
# Reading TOML

A document is read line by line: blank lines and comments, headers, and names with their values.  A
reader gives what it found and what follows it.  Its fuel is twice the length of the text, which is
as much as it can use: no character takes more than two steps.
-/

namespace Callpoint.Toml

/-- The text without blanks at its start. -/
def skipSpace (cs : List Char) : List Char := cs.dropWhile isSpace

/-- The text without the comment at its start, if there is one. -/
def skipComment : List Char → List Char
  | '#' :: cs => cs.dropWhile isPlain
  | cs => cs

/-- What follows the end of a line, ahead of which blanks and a comment may stand. -/
def lineEnd? (cs : List Char) : Option (List Char) :=
  match skipComment (skipSpace cs) with
  | [] => some []
  | '\n' :: rest => some rest
  | _ => none

/-- The text without blanks, comments and line ends at its start. -/
def skipLines (fuel : Nat) (cs : List Char) : List Char :=
  match fuel, cs.dropWhile (fun c => isSpace c || c == '\n') with
  | fuel + 1, '#' :: rest => skipLines fuel (rest.dropWhile isPlain)
  | _, cs => cs

/-- Characters of a name without quotes. -/
def isNameChar (c : Char) : Bool := c.isAlphanum || c == '-' || c == '_'

/-- One name. -/
def readName (cs : List Char) : Option (String × List Char) :=
  match cs with
  | '"' :: rest => (basic rest).map fun (s, rest) => (String.ofList s, rest)
  | '\'' :: rest => (literal rest).map fun (s, rest) => (String.ofList s, rest)
  | cs =>
    let name := cs.takeWhile isNameChar
    if name.isEmpty then none else some (String.ofList name, cs.drop name.length)

/-- Names between dots, with blanks around them. -/
def readPath (fuel : Nat) (cs : List Char) : Option (List String × List Char) :=
  match fuel with
  | 0 => none
  | fuel + 1 => do
    let (name, rest) ← readName (skipSpace cs)
    match skipSpace rest with
    | '.' :: rest =>
      let (path, rest) ← readPath fuel rest
      return (name :: path, rest)
    | rest => return ([name], rest)

mutual

/-- One value. -/
def readValue (fuel : Nat) (cs : List Char) : Option (Toml × List Char) :=
  match fuel with
  | 0 => none
  | fuel + 1 =>
    match cs with
    | '[' :: cs => (readItems fuel cs).map fun (items, rest) => (.array items, rest)
    | '\x7b' :: cs => do
      let (ms, rest) ← match skipSpace cs with
        | '\x7d' :: rest => some ([], rest)
        | _ => readPairs fuel [] cs
      return (.table .inline ms, rest)
    | '"' :: _ | '\'' :: _ => (quoted cs).map fun (s, rest) => (.string (String.ofList s), rest)
    | cs => scalar cs

/-- The items of a list up to its closing bracket; a comma may follow the last one. -/
def readItems (fuel : Nat) (cs : List Char) : Option (List Toml × List Char) :=
  match fuel with
  | 0 => none
  | fuel + 1 =>
    match skipLines fuel cs with
    | ']' :: rest => some ([], rest)
    | cs => do
      let (v, rest) ← readValue fuel cs
      match skipLines fuel rest with
      | ']' :: rest => return ([v], rest)
      | ',' :: rest =>
        let (items, rest) ← readItems fuel rest
        return (v :: items, rest)
      | _ => none

/-- The pairs of a table up to its closing brace, added to those already read. -/
def readPairs (fuel : Nat) (ms : Assoc Toml) (cs : List Char) : Option (Assoc Toml × List Char) :=
  match fuel with
  | 0 => none
  | fuel + 1 => do
    let (path, v, rest) ← readPair fuel cs
    let ms ← addValue path v (.header, ms)
    match skipSpace rest with
    | '\x7d' :: rest => return (ms, rest)
    | ',' :: rest => readPairs fuel ms rest
    | _ => none

/-- A path, an equals sign and a value. -/
def readPair (fuel : Nat) (cs : List Char) : Option (List String × Toml × List Char) :=
  match fuel with
  | 0 => none
  | fuel + 1 => do
    let (path, rest) ← readPath fuel cs
    match rest with
    | '=' :: rest =>
      let (v, rest) ← readValue fuel (skipSpace rest)
      return (path, v, rest)
    | _ => none

end

/-- A document as far as it was read: its values, and the header that the next lines stand below. -/
structure Reading where
  root : Assoc Toml := []
  header : List String := []

/-- A path between brackets, and the rest of the document behind the line that it stands on. -/
def readHeader (fuel : Nat) (cs closing : List Char) : Option (List String × List Char) := do
  let (path, rest) ← readPath fuel cs
  if rest.take closing.length = closing then
    return (path, ← lineEnd? (rest.drop closing.length))
  else none

/-- Reads the lines of a document. -/
def readLines (fuel : Nat) (r : Reading) (cs : List Char) : Option (Assoc Toml) :=
  match fuel, cs with
  | _, [] => some r.root
  | 0, _ :: _ => none
  | fuel + 1, cs =>
    match lineEnd? cs with
    | some rest => readLines fuel r rest
    | none =>
      match skipSpace cs with
      | '[' :: '[' :: cs => do
        let (path, rest) ← readHeader fuel cs [']', ']']
        readLines fuel ⟨← openItem path r.root, path⟩ rest
      | '[' :: cs => do
        let (path, rest) ← readHeader fuel cs [']']
        readLines fuel ⟨← openTable path r.root, path⟩ rest
      | cs => do
        let (path, v, rest) ← readPair fuel cs
        let root ← addBelow r.header path v r.root
        readLines fuel { r with root := root } (← lineEnd? rest)

/-- The text with a line feed for every carriage return and line feed. -/
def unifyLineEnds : List Char → List Char
  | '\r' :: '\n' :: cs => '\n' :: unifyLineEnds cs
  | c :: cs => c :: unifyLineEnds cs
  | [] => []

/-- The text without a byte order mark. -/
def dropMark : List Char → List Char
  | '\ufeff' :: cs => cs
  | cs => cs

/-- **The table that a TOML document describes,** if it is one. -/
def parse? (text : String) : Option Toml :=
  let cs := unifyLineEnds (dropMark text.toList)
  (readLines (2 * cs.length + 2) {} cs).map (.table .header)

end Callpoint.Toml
