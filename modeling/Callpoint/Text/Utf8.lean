/-!
# Text from bytes

Bytes that are not UTF-8 are shown with a replacement character for each maximal sequence that
begins like a character and breaks off.
-/

namespace Callpoint

/-- Bytes of a body, a header value or a file. -/
abbrev Bytes := List UInt8

namespace Text

/-- The bytes of a text. -/
def encode (s : String) : Bytes := s.toUTF8.toList

/-- The text of some bytes, if they are UTF-8. -/
def decode? (bytes : Bytes) : Option String := String.fromUTF8? ⟨bytes.toArray⟩

/-- Whether a byte continues a character. -/
def isContinuation (b : UInt8) : Bool := 0x80 ≤ b && b ≤ 0xbf

/-- The range of second bytes that a first byte of three or four allows. -/
def secondRange (b : UInt8) : UInt8 × UInt8 :=
  if b = 0xe0 then (0xa0, 0xbf)
  else if b = 0xed then (0x80, 0x9f)
  else if b = 0xf0 then (0x90, 0xbf)
  else if b = 0xf4 then (0x80, 0x8f)
  else (0x80, 0xbf)

/-- Whether a byte may follow the first byte `b`. -/
def allowsSecond (b c : UInt8) : Bool := (secondRange b).1 ≤ c && c ≤ (secondRange b).2

/-- The character encoded by some bytes that are known to encode one. -/
def charOf (bytes : Bytes) : Char :=
  match decode? bytes with
  | some s => s.toList.headD '\ufffd'
  | none => '\ufffd'

/-- The first character of some bytes and how many of the bytes it takes; a sequence that breaks off
is a replacement character. -/
def firstChar (b : UInt8) (rest : Bytes) : Char × Nat :=
  if b < 0x80 then (charOf [b], 1)
  else if 0xc2 ≤ b && b ≤ 0xdf then
    match rest with
    | c :: _ => if isContinuation c then (charOf [b, c], 2) else ('\ufffd', 1)
    | [] => ('\ufffd', 1)
  else if 0xe0 ≤ b && b ≤ 0xef then
    match rest with
    | c :: d :: _ =>
      if allowsSecond b c then
        if isContinuation d then (charOf [b, c, d], 3) else ('\ufffd', 2)
      else ('\ufffd', 1)
    | [c] => ('\ufffd', if allowsSecond b c then 2 else 1)
    | [] => ('\ufffd', 1)
  else if 0xf0 ≤ b && b ≤ 0xf4 then
    match rest with
    | c :: d :: e :: _ =>
      if allowsSecond b c then
        if isContinuation d then
          if isContinuation e then (charOf [b, c, d, e], 4) else ('\ufffd', 3)
        else ('\ufffd', 2)
      else ('\ufffd', 1)
    | [c, d] =>
      ('\ufffd', if allowsSecond b c then (if isContinuation d then 3 else 2) else 1)
    | [c] => ('\ufffd', if allowsSecond b c then 2 else 1)
    | [] => ('\ufffd', 1)
  else ('\ufffd', 1)

/-- The characters of some bytes. -/
def lossyChars : Bytes → List Char
  | [] => []
  | b :: rest =>
    let (c, used) := firstChar b rest
    c :: lossyChars (rest.drop (used - 1))
termination_by bytes => bytes.length
decreasing_by simp only [List.length_drop, List.length_cons]; omega

/-- The text of some bytes, with replacement characters where they are not UTF-8. -/
def decodeLossy (bytes : Bytes) : String :=
  (decode? bytes).getD (String.ofList (lossyChars bytes))

end Text

end Callpoint
