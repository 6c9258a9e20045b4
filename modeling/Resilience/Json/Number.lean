import Resilience.Json.Basic

/-!
# JSON numbers

A number is read as a significand of at most 64 bits and a power of ten. Digits that no longer fit
the significand are dropped, and those dropped before the point raise the exponent. The significand
is rounded to binary64 and then multiplied or divided by the rounded power of ten, so a number with
more than fifteen digits may be one unit in the last place away from its nearest binary64 number.
A number may be well-formed and still have no value, because it is beyond the range of binary64.

## Main definitions

* `Json.scaled?` — significand and power of ten as a binary64 number
* `Json.readNumber?` — a number at the start of a text, and the text after it
-/

namespace Resilience.Json

/-- Significands stay below this bound. -/
def significandLimit : Nat := 2 ^ 64

/-- The value of a digit. -/
def digit? (c : Char) : Option Nat := if c.isDigit then some (c.toNat - '0'.toNat) else none

/-- Collects digits while the significand fits, and tells how many were collected. -/
def collect (significand count : Nat) : List Char → Nat × Nat × List Char
  | [] => (significand, count, [])
  | c :: rest =>
    match digit? c with
    | some d =>
      if significand * 10 + d < significandLimit then
        collect (significand * 10 + d) (count + 1) rest
      else (significand, count, c :: rest)
    | none => (significand, count, c :: rest)

/-- Skips digits, and tells how many there were. -/
def skipDigits (text : List Char) : Nat × List Char :=
  let digits := text.takeWhile Char.isDigit
  (digits.length, text.drop digits.length)

/-- The greatest power of ten that one factor holds. -/
def tableLimit : Nat := 308

/-- Divides by powers of ten too large for one factor before the last one. -/
def scaleDown (value : Binary64) (exponent : Nat) : Binary64 :=
  if _h : tableLimit < exponent then
    if value.same 0 then value
    else scaleDown (value / Binary64.ofNat (10 ^ tableLimit)) (exponent - tableLimit)
  else value / Binary64.ofNat (10 ^ exponent)
  termination_by exponent
  decreasing_by simp only [tableLimit] at *; omega

/-- The rounded significand times the rounded power of ten, if it is finite. -/
def scaled? (significand : Nat) (exponent : Int) : Option Binary64 :=
  let value := Binary64.ofNat significand
  if 0 ≤ exponent then
    if exponent ≤ tableLimit then
      let product := value * Binary64.ofNat (10 ^ exponent.toNat)
      if product.isInfinite then none else some product
    else if significand = 0 then some value
    else none
  else some (scaleDown value (-exponent).toNat)

/-- The magnitude beyond which an exponent is not read as a number. -/
def exponentLimit : Int := 2 ^ 31

/-- Keeps an exponent within the range of 32-bit integers. -/
def clampExponent (exponent : Int) : Int := max (-exponentLimit) (min (exponentLimit - 1) exponent)

/-- A signed float, if it is finite. -/
def signed? (negative : Bool) (value? : Option Binary64) : Option Json :=
  value?.map fun value => float (if negative then -value else value)

/-- The exponent part after its letter. -/
def readExponent? (negative : Bool) (significand : Nat) (exponent : Int) (text : List Char) :
    Option (Option Json × List Char) :=
  let (below, text) := match text with
    | '+' :: rest => (false, rest)
    | '-' :: rest => (true, rest)
    | _ => (false, text)
  let (digits, rest) := (text.takeWhile Char.isDigit, text.dropWhile Char.isDigit)
  if digits.isEmpty then none
  else
    let power := (Nat.ofDigitChars 10 digits 0 : Int)
    -- with an exponent that does not fit the number is zero or out of range
    if exponentLimit ≤ power then
      some (if significand = 0 || below then signed? negative (some 0) else none, rest)
    else
      let exponent := clampExponent (if below then exponent - power else exponent + power)
      some (signed? negative (scaled? significand exponent), rest)

/-- What follows the digits of a float: an exponent part or nothing. -/
def readScaled? (negative : Bool) (significand : Nat) (exponent : Int) (text : List Char) :
    Option (Option Json × List Char) :=
  match text with
  | 'e' :: rest | 'E' :: rest => readExponent? negative significand exponent rest
  | _ => some (signed? negative (scaled? significand exponent), text)

/-- The places after the point, of which there is at least one. -/
def readPlaces? (negative : Bool) (significand : Nat) (exponent : Int) (text : List Char) :
    Option (Option Json × List Char) :=
  let (significand, count, rest) := collect significand 0 text
  let (skipped, rest) := skipDigits rest
  if count = 0 && skipped = 0 then none
  else readScaled? negative significand (exponent - count) rest

/-- The part of a number after its whole digits, of which `skipped` did not fit. -/
def readTail? (negative : Bool) (significand skipped : Nat) (text : List Char) :
    Option (Option Json × List Char) :=
  match text with
  | '.' :: rest => readPlaces? negative significand skipped rest
  | 'e' :: rest | 'E' :: rest => readExponent? negative significand skipped rest
  | _ =>
    if skipped = 0 then
      if !negative then some (some (integer significand), text)
      else if 0 < significand && significand ≤ 2 ^ 63 then
        some (some (integer (-significand)), text)
      else some (some (float (-Binary64.ofNat significand)), text)
    else readScaled? negative significand skipped text

/-- An unsigned number at the start of a text. A leading zero stands alone. -/
def readUnsigned? (negative : Bool) (text : List Char) : Option (Option Json × List Char) :=
  match text with
  | '0' :: rest =>
    match rest with
    | c :: _ => if c.isDigit then none else readTail? negative 0 0 rest
    | [] => readTail? negative 0 0 rest
  | _ =>
    let (significand, count, rest) := collect 0 0 text
    if count = 0 then none
    else
      let (skipped, rest) := skipDigits rest
      readTail? negative significand skipped rest

/-- A number at the start of a text, if it has a value, and the text after it. -/
def readNumber? (text : List Char) : Option (Option Json × List Char) :=
  match text with
  | '-' :: rest => readUnsigned? true rest
  | _ => readUnsigned? false text

end Resilience.Json
