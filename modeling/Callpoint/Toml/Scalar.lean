import Callpoint.Number.Literal
import Callpoint.Text.Pieces
import Callpoint.Toml.Quoted
import Callpoint.Toml.Value

/-!
# Numbers, truth values and moments in TOML

A value without quotes is a run of characters.  Digits of numbers may stand in groups between
underscores; integers have 64 bits; a moment is a date, a time, or both with or without an offset.
-/

namespace Callpoint.Toml

open Callpoint.Number

/-- Digits without the underscores between their groups. -/
def ungrouped? (cs : List Char) : Option (List Char) :=
  let groups := Text.pieces '_' cs
  if groups.contains [] then none else some groups.flatten

/-- Decimal digits, in groups. -/
def digits? (cs : List Char) : Option (List Char) :=
  (ungrouped? cs).filter fun ds => ds.all Char.isDigit

/-- A text without its sign, and whether that is a minus. -/
def unsigned : List Char → Bool × List Char
  | '-' :: cs => (true, cs)
  | '+' :: cs => (false, cs)
  | cs => (false, cs)

/-- The digits of a whole number: none stands behind a zero at the front. -/
def wholeDigits? (cs : List Char) : Option (List Char) :=
  (digits? cs).filter fun ds => ds.length = 1 || ds.head? ≠ some '0'

/-- Whether an integer has 64 bits. -/
def bounded? (i : Int) : Option Int :=
  if -0x8000000000000000 ≤ i ∧ i < 0x8000000000000000 then some i else none

/-- Digits of a base below the decimal one. -/
def inBase? (base : Nat) (cs : List Char) : Option Int := do
  let ds ← ungrouped? cs
  let n ← ds.foldlM (fun n c => do
    let d ← digitValue? c
    if d < base then some (base * n + d) else none) 0
  bounded? (n : Int)

/-- An integer. -/
def integer? (cs : List Char) : Option Int :=
  match cs with
  | '0' :: 'x' :: hex => ungrouped? hex >>= hexNumber? >>= fun n => bounded? (n : Int)
  | '0' :: 'o' :: octal => inBase? 8 octal
  | '0' :: 'b' :: binary => inBase? 2 binary
  | cs => do
    let (negative, body) := unsigned cs
    let n ← wholeDigits? body >>= Number.digits?
    bounded? (if negative then -(n : Int) else n)

/-- An exponent behind its letter. -/
def isExponent : List Char → Bool
  | c :: cs => (c == 'e' || c == 'E') && (digits? (unsigned cs).2).isSome
  | [] => false

/-- What follows the whole part of a float: a fraction, an exponent, or both. -/
def isFraction : List Char → Bool
  | '.' :: cs =>
    let fraction := cs.takeWhile fun c => c != 'e' && c != 'E'
    let rest := cs.drop fraction.length
    (digits? fraction).isSome && (rest.isEmpty || isExponent rest)
  | cs => isExponent cs

/-- A float; one that is too large for a binary number is refused unless it is negative. -/
def float? (cs : List Char) : Option Binary64 :=
  let (negative, body) := unsigned cs
  if body = "inf".toList then some (.infinite negative)
  else if body = "nan".toList then some .nan
  else
    let whole := body.takeWhile fun c => c != '.' && c != 'e' && c != 'E'
    if (wholeDigits? whole).isSome && isFraction (body.drop whole.length) then
      (binary? (cs.filter (· != '_'))).filter (· ≠ .infinite false)
    else none

/-- Two digits that stand for a number from `low` to `high`. -/
def twoDigits? (low high : Nat) (a b : Char) : Option Nat :=
  (Number.digits? [a, b]).filter fun n => low ≤ n && n ≤ high

/-- How many days a month has. -/
def daysIn (year month : Nat) : Nat :=
  if month = 2 then
    if year % 4 = 0 ∧ (year % 100 ≠ 0 ∨ year % 400 = 0) then 29 else 28
  else if month ∈ [4, 6, 9, 11] then 30 else 31

/-- A date and what follows it. -/
def date? : List Char → Option (String × List Char)
  | y₁ :: y₂ :: y₃ :: y₄ :: '-' :: m₁ :: m₂ :: '-' :: d₁ :: d₂ :: rest => do
    let year ← Number.digits? [y₁, y₂, y₃, y₄]
    let month ← twoDigits? 1 12 m₁ m₂
    let _ ← twoDigits? 1 (daysIn year month) d₁ d₂
    some (String.ofList [y₁, y₂, y₃, y₄, '-', m₁, m₂, '-', d₁, d₂], rest)
  | _ => none

/-- Parts of a second: nine digits count, and zeros at their end say nothing. -/
def fraction? : List Char → Option (String × List Char)
  | '.' :: cs =>
    let (ds, rest) := spanDigits cs
    let shown := ((ds.take 9).reverse.dropWhile (· == '0')).reverse
    if ds.isEmpty then none
    else some (if shown.isEmpty then "" else "." ++ String.ofList shown, rest)
  | cs => some ("", cs)

/-- A time of day and what follows it. -/
def time? : List Char → Option (String × List Char)
  | h₁ :: h₂ :: ':' :: m₁ :: m₂ :: ':' :: s₁ :: s₂ :: rest => do
    let _ ← twoDigits? 0 23 h₁ h₂
    let _ ← twoDigits? 0 59 m₁ m₂
    let _ ← twoDigits? 0 60 s₁ s₂
    let (fraction, rest) ← fraction? rest
    some (String.ofList [h₁, h₂, ':', m₁, m₂, ':', s₁, s₂] ++ fraction, rest)
  | _ => none

/-- The offset of a time; an offset of nothing is written with a plus sign. -/
def offset? : List Char → Option String
  | [] => some ""
  | ['Z'] | ['z'] => some "Z"
  | [sign, h₁, h₂, ':', m₁, m₂] => do
    let hours ← twoDigits? 0 23 h₁ h₂
    let minutes ← twoDigits? 0 59 m₁ m₂
    if sign = '+' ∨ sign = '-' then
      let shown := if hours + minutes = 0 then '+' else sign
      some (String.ofList [shown, h₁, h₂, ':', m₁, m₂])
    else none
  | _ => none

/-- A time with its offset. -/
def timeAndOffset? (cs : List Char) : Option String := do
  let (time, rest) ← time? cs
  return time ++ (← offset? rest)

/-- A moment in its usual form. -/
def dateTime? (cs : List Char) : Option String :=
  match date? cs with
  | some (date, []) => some date
  | some (date, delimiter :: rest) =>
    if delimiter ∈ ['T', 't', ' '] then (timeAndOffset? rest).map fun t => date ++ "T" ++ t
    else none
  | none => (time? cs).bind fun (time, rest) => if rest.isEmpty then some time else none

/-- **The value that a run of characters stands for.** -/
def scalar? (cs : List Char) : Option Toml :=
  if cs = "true".toList then some (.bool true)
  else if cs = "false".toList then some (.bool false)
  else (dateTime? cs).map .dateTime <|> (float? cs).map .float <|> (integer? cs).map .integer

/-- Characters of a value without quotes. -/
def isScalarChar (c : Char) : Bool := c.isAlphanum || "+-_.:".toList.contains c

/-- A value without quotes and what follows it.  A date and a time may have a blank between them. -/
def scalar (cs : List Char) : Option (Toml × List Char) :=
  let run := cs.takeWhile isScalarChar
  let rest := cs.drop run.length
  let time := (rest.drop 1).takeWhile isScalarChar
  if (date? run).any (fun d => d.2.isEmpty) && rest.head? == some ' ' && !time.isEmpty then
    (dateTime? (run ++ ' ' :: time)).map fun t => (.dateTime t, (rest.drop 1).drop time.length)
  else (scalar? run).map fun v => (v, rest)

end Callpoint.Toml
