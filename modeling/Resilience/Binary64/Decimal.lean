import Resilience.Binary64

/-!
# Decimal text of binary numbers

A number is written with the fewest significant digits that read back as the same number; among
several candidates with that many digits the one nearest to the exact value is taken. Where the
point goes and when an exponent is written are decisions of a `Layout`, of which there are two:
`Layout.plain` for messages and `Layout.literal` for the descriptions of records.

## Main definitions

* `Binary64.Shortest.decimal` — the shortest digits of a positive finite number
* `Binary64.Layout` — the choices a text makes beyond its digits
* `Binary64.bitsText` — the bits of a number
* `Binary64.text` — the text of any number in a layout
-/

namespace Resilience.Binary64

/-- A positive decimal number: `digits * 10 ^ exponent`. -/
structure Decimal where
  digits : Nat
  exponent : Int
  deriving DecidableEq, Repr

/-- The decimal digits of a natural number, most significant first. -/
def digitsOf (n : Nat) : List Char := Nat.toDigits 10 n

namespace Shortest

/-- Twice the interval of reals that round to a magnitude, in units: a neighbour's half distance on
either side. Below a power of two the neighbours are half as far apart. -/
def interval (units : Nat) : Nat × Nat :=
  let grid := spacing units
  let below := if units = 2 ^ 52 * grid ∧ 1 < grid then grid else 2 * grid
  -- four times the value, so that a quarter of the spacing is whole
  (4 * units - below, 4 * units + 2 * grid)

/-- Whether both ends of the interval round to the magnitude: ties go to the even significand. -/
def closed (units : Nat) : Bool := units / spacing units % 2 = 0

/-- Whether `candidate / scale`, counted in quarter units, rounds to the magnitude. -/
def readsBack (units candidate scale : Nat) : Bool :=
  let (low, high) := interval units
  if closed units then low * scale ≤ candidate && candidate ≤ high * scale
  else low * scale < candidate && candidate < high * scale

/-- The point of the decimal grid `10 ^ exponent` that reads back and is nearest to the magnitude,
if one reads back; of two equally near points the greater is taken. -/
def onGrid? (units : Nat) (exponent : Int) : Option Nat :=
  -- the value is `units / unitsPerOne`, so its quotient by the step is `numerator / denominator`
  let numerator := units * 10 ^ (-exponent).toNat
  let denominator := unitsPerOne * 10 ^ exponent.toNat
  let lower := numerator / denominator
  let upper := lower + 1
  -- `candidate` steps in quarter units, over the scale `10 ^ (-exponent)`
  let reads (candidate : Nat) : Bool :=
    readsBack units (4 * candidate * denominator) (10 ^ (-exponent).toNat)
  let nearerUpper := denominator ≤ 2 * (numerator % denominator)
  match 0 < lower && reads lower, reads upper with
  | true, true => some (if nearerUpper then upper else lower)
  | true, false => some lower
  | false, true => some upper
  | false, false => none

/-- The number of decimal digits of the whole part, or minus the number of zeros that follow the
point: the least `p` with `units / unitsPerOne < 10 ^ p`. -/
def pointPosition (units : Nat) : Int :=
  if unitsPerOne ≤ units then (digitsOf (units / unitsPerOne)).length
  else
    -- digits of the quotient over the least power of ten that the format needs
    let shifted := units * 10 ^ 400 / unitsPerOne
    ((digitsOf shifted).length : Int) - 400

/-- The first grid with a point that reads back, tried from coarse to fine. -/
def search (units : Nat) (position : Int) : (count tried : Nat) → Decimal
  | 0, tried => ⟨units * 10 ^ (tried - position).toNat / unitsPerOne, position - tried⟩
  | count + 1, tried =>
    let exponent := position - (tried + 1 : Nat)
    match onGrid? units exponent with
    | some digits => ⟨digits, exponent⟩
    | none => search units position count (tried + 1)

/-- The shortest decimal number that reads back as the given positive count of units; seventeen
digits always suffice. -/
def decimal (units : Nat) : Decimal := search units (pointPosition units) 17 0

end Shortest

/-- Decisions of a text about numbers, beyond their digits. -/
structure Layout where
  /-- Whether a whole number written positionally ends in `.0`. -/
  marksWhole : Bool
  /-- Whether a number whose leading digit stands for `10 ^ magnitude` is written positionally. -/
  positional : (magnitude : Int) → Bool

/-- Messages write every number positionally and whole numbers without a point. -/
def Layout.plain : Layout := ⟨false, fun _ => true⟩

/-- Descriptions of records keep the point and use an exponent below `10 ^ (-4)` and from `10 ^ 16`
on. -/
def Layout.literal : Layout := ⟨true, fun magnitude => -4 ≤ magnitude && magnitude < 16⟩

/-- Digits with `10 ^ exponent` applied by moving the point. -/
def Layout.positionalText (layout : Layout) (digits : List Char) (exponent : Int) : List Char :=
  if 0 ≤ exponent then
    digits ++ List.replicate exponent.toNat '0' ++ (if layout.marksWhole then ['.', '0'] else [])
  else
    let places := (-exponent).toNat
    if digits.length ≤ places then
      '0' :: '.' :: List.replicate (places - digits.length) '0' ++ digits
    else digits.take (digits.length - places) ++ '.' :: digits.drop (digits.length - places)

/-- Digits with one digit before the point and the magnitude as an exponent. -/
def exponentText (digits : List Char) (magnitude : Int) : List Char :=
  let mantissa := match digits with
    | [] => []
    | [digit] => [digit]
    | digit :: rest => digit :: '.' :: rest
  let sign := if magnitude < 0 then ['-'] else []
  mantissa ++ 'e' :: sign ++ digitsOf magnitude.natAbs

/-- The text of a magnitude. -/
def Layout.magnitudeText (layout : Layout) (units : Nat) : List Char :=
  if units = 0 then layout.positionalText ['0'] 0
  else
    let shortest := Shortest.decimal units
    let digits := digitsOf shortest.digits
    -- a trailing zero can arise when a candidate rounds up to the next power of ten
    let significant := (digits.reverse.dropWhile (· = '0')).reverse
    let exponent := shortest.exponent + (digits.length - significant.length : Nat)
    let magnitude := exponent + (significant.length : Int) - 1
    if layout.positional magnitude then layout.positionalText significant exponent
    else exponentText significant magnitude

/-- The text of a number in a layout. -/
def text (layout : Layout) : Binary64 → String
  | nan => "NaN"
  | infinity negative => if negative then "-inf" else "inf"
  | finite negative units =>
    String.ofList ((if negative then ['-'] else []) ++ layout.magnitudeText units)

/-- The bits of a number as sixteen hexadecimal digits; all numbers without a value look the
same. -/
def bitsText (x : Binary64) : String :=
  let digits := Nat.toDigits 16 x.bits
  if x.isNaN then "NaN"
  else "0x" ++ String.ofList (List.replicate (16 - digits.length) '0' ++ digits)

end Resilience.Binary64
