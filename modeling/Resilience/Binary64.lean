/-!
# Binary floating-point numbers of 64 bits

Thresholds, multipliers and jitter factors are binary64 numbers. They are kept exactly: a finite
number is a sign and a whole number of *units*, where a unit is `2 ^ (-1074)`, the least positive
value of the format. Every operation computes its exact result as a ratio of natural numbers and
then rounds once, to the nearest representable value with ties going to the even significand.

## Main definitions

* `Binary64` — not-a-number, a signed infinity, or a signed count of units
* `Binary64.roundUnits` — the nearest representable count of units to a ratio
* `Binary64.add`, `sub`, `mul`, `div` — the exact result, rounded once
* `Binary64.lt`, `le`, `minimum`, `maximum`, `clamp` — comparison; not-a-number is unordered
* `Binary64.toWord64` — truncation into 64-bit words, saturating at both ends
* `Binary64.bits` — the interchange encoding
-/

namespace Resilience

/-- Powers of whole numbers are those of the core library, whatever else is imported. -/
@[default_instance 10000]
instance (priority := 10000) corePower {α : Type} [NatPow α] : Pow α Nat := instPowNat

/-- A binary64 number. Finite magnitudes count units of `2 ^ (-1074)`. -/
inductive Binary64 where
  /-- The result of an operation without a value. -/
  | nan
  | infinity (negative : Bool)
  | finite (negative : Bool) (units : Nat)
  deriving DecidableEq, Repr, Inhabited

namespace Binary64

/-- The number of units in one. -/
def unitsPerOne : Nat := 2 ^ 1074

/-- The least number of units that is beyond the finite range. -/
def unitsLimit : Nat := 2 ^ 2098

/-- The quotient `numerator / denominator` to the nearest whole number, ties to the even one. -/
def nearestEven (numerator denominator : Nat) : Nat :=
  let quotient := numerator / denominator
  let remainder := numerator % denominator
  if 2 * remainder < denominator ∨ (2 * remainder = denominator ∧ quotient % 2 = 0) then quotient
  else quotient + 1

/-- The spacing of representable values around a magnitude of `units`: values below `2 ^ 53`
units are one unit apart, and each further doubling doubles the distance. -/
def spacing (units : Nat) : Nat := 2 ^ (Nat.log2 units - 52)

/-- The representable count of units nearest to `numerator / denominator`. -/
def roundUnits (numerator denominator : Nat) : Nat :=
  let grid := spacing (numerator / denominator)
  nearestEven numerator (denominator * grid) * grid

/-- The number nearest to `numerator / denominator` units, infinite beyond the finite range. -/
def ofUnits (negative : Bool) (numerator denominator : Nat) : Binary64 :=
  let units := roundUnits numerator denominator
  if units < unitsLimit then finite negative units else infinity negative

/-- The number nearest to a ratio of natural numbers. -/
def ofRatio (negative : Bool) (numerator denominator : Nat) : Binary64 :=
  ofUnits negative (numerator * unitsPerOne) denominator

/-- The number nearest to a natural number. -/
def ofNat (n : Nat) : Binary64 := ofRatio false n 1

/-- The number nearest to an integer. -/
def ofInt (n : Int) : Binary64 := ofRatio (n < 0) n.natAbs 1

instance (n : Nat) : OfNat Binary64 n := ⟨ofNat n⟩

instance : OfScientific Binary64 where
  ofScientific mantissa negativeExponent exponent :=
    if negativeExponent then ofRatio false mantissa (10 ^ exponent)
    else ofRatio false (mantissa * 10 ^ exponent) 1

/-! ## Classes of numbers -/

def isNaN : Binary64 → Bool
  | nan => true
  | _ => false

def isFinite : Binary64 → Bool
  | finite .. => true
  | _ => false

def isInfinite : Binary64 → Bool
  | infinity _ => true
  | _ => false

/-- The signed count of units of a finite number, and zero for the others. -/
def signedUnits : Binary64 → Int
  | finite true units => -(units : Int)
  | finite false units => units
  | _ => 0

/-! ## Arithmetic -/

def neg : Binary64 → Binary64
  | nan => nan
  | infinity negative => infinity !negative
  | finite negative units => finite (!negative) units

/-- The sum, rounded once. A sum of exactly zero is negative only if both terms are. -/
def add : Binary64 → Binary64 → Binary64
  | nan, _ | _, nan => nan
  | infinity a, infinity b => if a = b then infinity a else nan
  | infinity a, finite .. => infinity a
  | finite .., infinity b => infinity b
  | x@(finite a _), y@(finite b _) =>
    -- both terms count the same unit, so the sum is exact before it is rounded
    let sum := x.signedUnits + y.signedUnits
    if sum = 0 then finite (a && b) 0 else ofUnits (sum < 0) sum.natAbs 1

/-- The difference, rounded once. -/
def sub (x y : Binary64) : Binary64 := add x (neg y)

/-- The product, rounded once. Zero times infinity has no value. -/
def mul : Binary64 → Binary64 → Binary64
  | nan, _ | _, nan => nan
  | infinity a, infinity b => infinity (a ^^ b)
  | infinity a, finite b units => if units = 0 then nan else infinity (a ^^ b)
  | finite a units, infinity b => if units = 0 then nan else infinity (a ^^ b)
  | finite a x, finite b y => ofUnits (a ^^ b) (x * y) unitsPerOne

/-- The quotient, rounded once. Zero over zero and infinity over infinity have no value. -/
def div : Binary64 → Binary64 → Binary64
  | nan, _ | _, nan => nan
  | infinity _, infinity _ => nan
  | infinity a, finite b _ => infinity (a ^^ b)
  | finite a _, infinity b => finite (a ^^ b) 0
  | finite a x, finite b y =>
    if y = 0 then (if x = 0 then nan else infinity (a ^^ b))
    else ofUnits (a ^^ b) (x * unitsPerOne) y

instance : Neg Binary64 := ⟨neg⟩
instance : Add Binary64 := ⟨add⟩
instance : Sub Binary64 := ⟨sub⟩
instance : Mul Binary64 := ⟨mul⟩
instance : Div Binary64 := ⟨div⟩

/-- One step of repeated squaring: `result` has collected the powers of the bits already read,
`power` stands for the next bit. -/
def powerLoop (result power : Binary64) (exponent : Nat) : Binary64 :=
  let result := if exponent % 2 = 1 then result * power else result
  if _h : exponent / 2 = 0 then result else powerLoop result (power * power) (exponent / 2)
  termination_by exponent
  decreasing_by omega

/-- A natural power by repeated squaring, every product rounded. -/
def pow (x : Binary64) (exponent : Nat) : Binary64 := powerLoop 1 x exponent

/-! ## Order -/

/-- The order of two numbers; not-a-number compares with nothing, and the two zeros are equal. -/
def compare? : Binary64 → Binary64 → Option Ordering
  | nan, _ | _, nan => none
  | infinity true, infinity true | infinity false, infinity false => some .eq
  | infinity true, _ | _, infinity false => some .lt
  | infinity false, _ | _, infinity true => some .gt
  | x@(finite ..), y@(finite ..) => some (compare x.signedUnits y.signedUnits)

def lt (x y : Binary64) : Bool := compare? x y == some .lt

def le (x y : Binary64) : Bool := compare? x y == some .lt || compare? x y == some .eq

/-- Equality as numbers: not-a-number differs from itself and the two zeros are equal. -/
def same (x y : Binary64) : Bool := compare? x y == some .eq

/-- The lesser of two numbers, or the other one if one is not a number. -/
def minimum (x y : Binary64) : Binary64 :=
  if x.isNaN then y else if y.isNaN then x else if lt y x then y else x

/-- The greater of two numbers, or the other one if one is not a number. -/
def maximum (x y : Binary64) : Binary64 :=
  if x.isNaN then y else if y.isNaN then x else if lt x y then y else x

/-- The nearest number within bounds; not-a-number stays as it is. -/
def clamp (x low high : Binary64) : Binary64 :=
  if lt x low then low else if lt high x then high else x

/-- Whether a number lies within closed bounds; not-a-number does not. -/
def within (x low high : Binary64) : Bool := le low x && le x high

/-! ## Conversions -/

/-- The greatest 64-bit word. -/
def word64Max : Nat := 2 ^ 64 - 1

/-- Truncation to a 64-bit word: negative numbers and not-a-number give zero, and numbers beyond
the greatest word give that word. -/
def toWord64 : Binary64 → Nat
  | nan | infinity true | finite true _ => 0
  | infinity false => word64Max
  | finite false units => min (units / unitsPerOne) word64Max

/-- The encoding of a magnitude: subnormal magnitudes are their own encoding, and the others put
the position of their leading bit above the 52 bits that follow it. -/
def magnitudeBits (units : Nat) : Nat :=
  if units < 2 ^ 52 then units
  else
    let position := Nat.log2 units - 52
    (position + 1) * 2 ^ 52 + (units / 2 ^ position - 2 ^ 52)

/-- The interchange encoding, sign bit first. -/
def bits : Binary64 → Nat
  | nan => 0x7ff8000000000000
  | infinity negative => (if negative then 2 ^ 63 else 0) + 0x7ff0000000000000
  | finite negative units => (if negative then 2 ^ 63 else 0) + magnitudeBits units

end Binary64

end Resilience
