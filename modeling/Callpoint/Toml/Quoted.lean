import Callpoint.Text.Hex

/-!
# Quoted texts in TOML

Texts between quotes, where a backslash begins an escape, and between apostrophes, where nothing
does; both over one line or, between three of them, over several.  A line ends in a line feed: other
line ends have been turned into that before.
-/

namespace Callpoint.Toml

/-- A text that was read, and what follows it. -/
abbrev QuotedText := Option (List Char × List Char)

/-- The same reading with one more character ahead. -/
def QuotedText.cons (c : Char) (q : QuotedText) : QuotedText :=
  q.map fun (s, rest) => (c :: s, rest)

/-- Blanks within a line. -/
def isSpace (c : Char) : Bool := c == ' ' || c == '\t'

/-- Characters of comments and of texts: no control characters but the tab. -/
def isPlain (c : Char) : Bool := c == '\t' || (0x20 ≤ c.toNat && c.toNat ≠ 0x7f)

/-- What a letter behind a backslash stands for. -/
def escaped? : Char → Option Char
  | 'b' => some '\x08'
  | 't' => some '\t'
  | 'n' => some '\n'
  | 'f' => some '\x0c'
  | 'r' => some '\r'
  | '"' => some '"'
  | '\\' => some '\\'
  | _ => none

/-- The value of hexadecimal digits. -/
def hexNumber? (digits : List Char) : Option Nat :=
  digits.foldlM (fun n c =>
    if c.toNat < 0x80 then (Text.hexValue? c.toNat.toUInt8).map (16 * n + ·) else none) 0

/-- The character with a number in hexadecimal digits. -/
def codepoint? (digits : List Char) : Option Char :=
  (hexNumber? digits).bind fun n => if n.isValidChar then some (Char.ofNat n) else none

/-- A text behind its opening quote. -/
def basic : List Char → QuotedText
  | '\\' :: 'u' :: a :: b :: c :: d :: cs =>
    (codepoint? [a, b, c, d]).bind fun x => (basic cs).cons x
  | '\\' :: 'U' :: a :: b :: c :: d :: e :: f :: g :: h :: cs =>
    (codepoint? [a, b, c, d, e, f, g, h]).bind fun x => (basic cs).cons x
  | '\\' :: c :: cs => (escaped? c).bind fun x => (basic cs).cons x
  | '"' :: cs => some ([], cs)
  | c :: cs => if isPlain c then (basic cs).cons c else none
  | [] => none

/-- A text behind its opening apostrophe. -/
def literal : List Char → QuotedText
  | '\'' :: cs => some ([], cs)
  | c :: cs => if isPlain c then (literal cs).cons c else none
  | [] => none

/-- **Whether lines are being joined:** behind a backslash that ends a line, blanks and line ends
are passed over until the text goes on. -/
inductive Joining where
  | no
  | toLineEnd
  | toText
deriving DecidableEq

/-- A text behind its three opening quotes.  Up to two quotes may stand right ahead of the three
that close it. -/
def basicLines : Joining → List Char → QuotedText
  | .toLineEnd, c :: cs =>
    if isSpace c then basicLines .toLineEnd cs
    else if c = '\n' then basicLines .toText cs
    else none
  | _, '"' :: '"' :: '"' :: '"' :: '"' :: cs => some (['"', '"'], cs)
  | _, '"' :: '"' :: '"' :: '"' :: cs => some (['"'], cs)
  | _, '"' :: '"' :: '"' :: cs => some ([], cs)
  | _, '\\' :: 'u' :: a :: b :: c :: d :: cs =>
    (codepoint? [a, b, c, d]).bind fun x => (basicLines .no cs).cons x
  | _, '\\' :: 'U' :: a :: b :: c :: d :: e :: f :: g :: h :: cs =>
    (codepoint? [a, b, c, d, e, f, g, h]).bind fun x => (basicLines .no cs).cons x
  | _, '\\' :: c :: cs =>
    if isSpace c then basicLines .toLineEnd cs
    else if c = '\n' then basicLines .toText cs
    else (escaped? c).bind fun x => (basicLines .no cs).cons x
  | join, c :: cs =>
    if join = .toText ∧ (isSpace c ∨ c = '\n') then basicLines .toText cs
    else if isPlain c ∨ c = '\n' then (basicLines .no cs).cons c
    else none
  | _, [] => none

/-- A text behind its three opening apostrophes. -/
def literalLines : List Char → QuotedText
  | '\'' :: '\'' :: '\'' :: '\'' :: '\'' :: cs => some (['\'', '\''], cs)
  | '\'' :: '\'' :: '\'' :: '\'' :: cs => some (['\''], cs)
  | '\'' :: '\'' :: '\'' :: cs => some ([], cs)
  | c :: cs => if isPlain c ∨ c = '\n' then (literalLines cs).cons c else none
  | [] => none

/-- The text without a line end at its start. -/
def dropLineEnd : List Char → List Char
  | '\n' :: cs => cs
  | cs => cs

/-- **A quoted text and what follows it,** if one begins here. -/
def quoted : List Char → QuotedText
  | '"' :: '"' :: '"' :: cs => basicLines .no (dropLineEnd cs)
  | '"' :: cs => basic cs
  | '\'' :: '\'' :: '\'' :: cs => literalLines (dropLineEnd cs)
  | '\'' :: cs => literal cs
  | _ => none

end Callpoint.Toml
