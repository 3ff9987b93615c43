import Callpoint.Text.Hex
import Callpoint.Text.Pieces
import Callpoint.Text.Utf8

/-!
# Form text

Pairs of a name and a value as a query writes them: a plus sign for a space, a percent sign and two
hexadecimal digits for any byte that is not a letter, a digit or one of four marks.
-/

namespace Callpoint.Http.Form

open Callpoint.Text

/-- Characters written as they are. -/
def isPlain (b : UInt8) : Bool :=
  (0x30 ≤ b && b ≤ 0x39) || (0x41 ≤ b && b ≤ 0x5a) || (0x61 ≤ b && b ≤ 0x7a)
    || b = 0x2a || b = 0x2d || b = 0x2e || b = 0x5f

/-- A byte as form text. -/
def encodeByte (b : UInt8) : List Char :=
  if b = 0x20 then ['+']
  else if isPlain b then [Char.ofNat b.toNat]
  else ['%', hexUpper (b.toNat / 16), hexUpper (b.toNat % 16)]

/-- A text as form text. -/
def encodeText (s : String) : List Char := (Text.encode s).flatMap encodeByte

/-- A pair as form text. -/
def encodePair (p : String × String) : List Char := encodeText p.1 ++ '=' :: encodeText p.2

/-- Pairs as form text. -/
def encodePairs (ps : List (String × String)) : List Char :=
  Text.joinPieces '&' (ps.map encodePair)

/-- The bytes that form text stands for.  A percent sign without two digits stands for itself. -/
def decodeBytes : Bytes → Bytes
  | [] => []
  | 0x2b :: rest => 0x20 :: decodeBytes rest
  | 0x25 :: a :: b :: rest =>
    match hexValue? a, hexValue? b with
    | some x, some y => UInt8.ofNat (x * 16 + y) :: decodeBytes rest
    | _, _ => 0x25 :: decodeBytes (a :: b :: rest)
  | b :: rest => b :: decodeBytes rest
termination_by bytes => bytes.length

/-- The text that form text stands for. -/
def decodeText (cs : List Char) : String :=
  Text.decodeLossy (decodeBytes (Text.encode (String.ofList cs)))

/-- The pair that a piece of form text stands for; without an equals sign the value is empty. -/
def decodePair (piece : List Char) : String × String :=
  match Text.cutAtFirst '=' piece with
  | some (name, value) => (decodeText name, decodeText value)
  | none => (decodeText piece, "")

/-- The pairs of a query.  Empty pieces stand for nothing. -/
def decodePairs (query : List Char) : List (String × String) :=
  ((Text.pieces '&' query).filter (· ≠ [])).map decodePair

end Callpoint.Http.Form
