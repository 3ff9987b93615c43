import Callpoint.Json.Fault
import Callpoint.Text.Hex
import Callpoint.Text.Utf8

/-!
# JSON string tokens

The reader of a string behind its opening quote.  Two kinds of fault are told apart.  A text that
ends, a bare control character and a bad escape leave no token.  An unpaired surrogate or bytes that
are not UTF-8 leave a token whose content cannot be had; whoever skips the token never learns.
-/

namespace Callpoint.Json

open Callpoint.Text (hexValue?)

/-- The value of four hexadecimal digits. -/
def hexValue4? (a b c d : UInt8) : Option Nat := do
  return ((← hexValue? a) * 16 + (← hexValue? b)) * 256 + (← hexValue? c) * 16 + (← hexValue? d)

/-- The byte that a one-letter escape stands for. -/
def simpleEscape? (b : UInt8) : Option UInt8 :=
  if b = 0x22 then some 0x22
  else if b = 0x5c then some 0x5c
  else if b = 0x2f then some 0x2f
  else if b = 0x62 then some 0x08
  else if b = 0x66 then some 0x0c
  else if b = 0x6e then some 0x0a
  else if b = 0x72 then some 0x0d
  else if b = 0x74 then some 0x09
  else none

/-- The code point of an escape with the unit `n`, and how many bytes of what follows belong to it.
A leading surrogate takes a second escape with a trailing one. -/
def codePoint (n : Nat) (rest : List UInt8) : Except Fault (Nat × Nat) :=
  if 0xdc00 ≤ n ∧ n ≤ 0xdfff then .error (Flaw.loneSurrogate.before rest)
  else if n < 0xd800 ∨ 0xdbff < n then .ok (n, 0)
  else match rest with
    | [] => .error (Flaw.endInString.before [])
    | 0x5c :: [] => .error (Flaw.endInString.before [])
    | 0x5c :: 0x75 :: a :: b :: c :: d :: r =>
      match hexValue4? a b c d with
      | none => .error (Flaw.invalidEscape.before r)
      | some m =>
        if 0xdc00 ≤ m ∧ m ≤ 0xdfff then .ok ((n - 0xd800) * 0x400 + (m - 0xdc00) + 0x10000, 6)
        else .error (Flaw.loneSurrogate.before r)
    | 0x5c :: 0x75 :: _ => .error (Flaw.endInString.before [])
    | 0x5c :: _ :: r => .error (Flaw.unexpectedEndOfEscape.before r)
    | _ :: r => .error (Flaw.unexpectedEndOfEscape.before r)

/-- The UTF-8 bytes of a code point, last first. -/
def encodeReversed (n : Nat) : List UInt8 :=
  (String.utf8EncodeChar (Char.ofNat n)).reverse

/-- The content of a token whose bytes are collected, unless a fault was met or they are not UTF-8,
which is noticed at the closing quote, the first byte of `rest`. -/
def finishString (collected : List UInt8) (spoilt : Option Fault) (rest : List UInt8) :
    Except Fault String :=
  match spoilt with
  | some f => .error f
  | none =>
    match Text.decode? collected.reverse with
    | some s => .ok s
    | none => .error (Flaw.invalidCodePoint.before rest)

/-- A string token behind its opening quote: its content and what follows it.  `collected` holds the
bytes of the content so far, last first; `spoilt` is the first fault that only spoils the content.
-/
def readString (collected : List UInt8) (spoilt : Option Fault) :
    List UInt8 → Except Fault (Except Fault String × List UInt8)
  | [] => .error (spoilt.getD (Flaw.endInString.before []))
  | [b] =>
    if b = 0x22 then .ok (finishString collected spoilt [b], [])
    else if b ≠ 0x5c && b < 0x20 then .error (spoilt.getD (Flaw.controlCharacter.before []))
    else .error (spoilt.getD (Flaw.endInString.before []))
  | b :: e :: rest =>
    if b = 0x22 then .ok (finishString collected spoilt (b :: e :: rest), e :: rest)
    else if b = 0x5c then
      match simpleEscape? e with
      | some x => readString (x :: collected) spoilt rest
      | none =>
        if e = 0x75 then
          match rest with
          | h₁ :: h₂ :: h₃ :: h₄ :: rest =>
            match hexValue4? h₁ h₂ h₃ h₄ with
            | none => .error (spoilt.getD (Flaw.invalidEscape.before rest))
            | some n =>
              match codePoint n rest with
              | .error f => readString collected (spoilt <|> some f) rest
              | .ok (c, used) =>
                readString (encodeReversed c ++ collected) spoilt (rest.drop used)
          | _ => .error (spoilt.getD (Flaw.endInString.before []))
        else .error (spoilt.getD (Flaw.invalidEscape.before rest))
    else if b < 0x20 then .error (spoilt.getD (Flaw.controlCharacter.before (e :: rest)))
    else readString (b :: collected) spoilt (e :: rest)
termination_by bytes => bytes.length
decreasing_by all_goals (simp only [List.length_cons, List.length_drop]; omega)

end Callpoint.Json
