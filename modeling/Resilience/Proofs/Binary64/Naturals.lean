import Mathlib.Tactic.Ring
import Resilience.Proofs.Binary64.Order
import Resilience.Proofs.Binary64.Rounding

/-!
# Natural numbers in binary64

Natural numbers below `2 ^ 53` are numbers of the format, and from there on rounding leaves at least
as much. So a number stands for a natural number as long as that is small, and for some number that
is large enough from then on. Products and powers keep this at every magnitude, and an upper bound
below `2 ^ 53` brings the exact result back. Only zero times infinity has no value.

## Main definitions

* `Binary64.IsAtLeast` — bounds by natural numbers
* `Binary64.StandsFor` — a number in the place of a natural number of any magnitude
* `Binary64.IsProper` — the numbers that results can be

## Main statements

* `Binary64.StandsFor.mul`, `Binary64.StandsFor.pow` — products and powers
* `Binary64.StandsFor.minimum` — the lesser of such a number and a small one is exact
* `Binary64.isInfinite_pow` — when powers leave the finite range
-/

namespace Resilience.Binary64

variable {x y : Binary64} {m n : Nat}

/-- The exponent of the least power of two that is beyond the finite range. -/
def rangeExponent : Nat := 1024

attribute [local irreducible] unitsPerOne unitsLimit rangeExponent

/-! ## Results of operations -/

theorem unitsPerOne_pos : 0 < unitsPerOne := by
  rw [unitsPerOne]
  apply Nat.two_pow_pos

theorem unitsLimit_eq : unitsLimit = 2 ^ rangeExponent * unitsPerOne := by
  rw [unitsLimit, unitsPerOne, rangeExponent, ← Nat.pow_add]

theorem unitsLimit_pos : 0 < unitsLimit := by
  rw [unitsLimit]
  apply Nat.two_pow_pos

/-- A result that is a number of the format is not rounded. -/
theorem ofUnits_of_onGrid (negative : Bool) {units denominator : Nat} (positive : 0 < denominator)
    (grid : OnGrid units) (small : units < unitsLimit) :
    ofUnits negative (units * denominator) denominator = finite negative units := by
  rw [ofUnits, roundUnits_of_onGrid positive grid]
  exact if_pos small

/-- Zero and a finite number have a product of zero. -/
theorem zero_mul_finite (units : Nat) : finite false 0 * finite false units = finite false 0 := by
  have product : finite false 0 * finite false units = ofUnits false (0 * units) unitsPerOne := rfl
  rw [product, Nat.zero_mul, ofUnits, roundUnits_zero unitsPerOne_pos]
  exact if_pos unitsLimit_pos

/-! ## Lower bounds -/

/-- A number that is at least a natural number. -/
def IsAtLeast (n : Nat) : Binary64 → Prop
  | infinity false => True
  | finite false units => n * unitsPerOne ≤ units
  | _ => False

theorem IsAtLeast.mono (atLeast : x.IsAtLeast n) (le : m ≤ n) : x.IsAtLeast m := by
  match x with
  | nan | infinity true | finite true _ => cases atLeast
  | infinity false => trivial
  | finite false units => exact Nat.le_trans (Nat.mul_le_mul_right _ le) atLeast

theorem OnGrid.mul_unitsPerOne (grid : OnGrid n) : OnGrid (n * unitsPerOne) := by
  rw [unitsPerOne]
  exact grid.mul_two_pow _

theorem natural_lt_unitsLimit (small : n < 2 ^ 53) : n * unitsPerOne < unitsLimit := by
  have range : n < 2 ^ rangeExponent := by
    rw [rangeExponent]
    exact Nat.lt_trans small (by decide +kernel)
  rw [unitsLimit_eq]
  exact Nat.mul_lt_mul_of_pos_right range unitsPerOne_pos

/-- Rounding a result that is at least a natural number of the format does not take it below. -/
theorem isAtLeast_ofUnits {numerator denominator : Nat} (positive : 0 < denominator)
    (grid : OnGrid n) (le : n * unitsPerOne * denominator ≤ numerator) :
    (ofUnits false numerator denominator).IsAtLeast n := by
  have rounded := le_roundUnits positive grid.mul_unitsPerOne le
  rw [ofUnits]
  split
  · exact rounded
  · trivial

/-- A product is at least the product of lower bounds, as far as the format is that exact. -/
theorem IsAtLeast.mul {k : Nat} (first : x.IsAtLeast m) (second : y.IsAtLeast n) (left : 0 < m)
    (right : 0 < n) (grid : OnGrid k) (le : k ≤ m * n) : (x * y).IsAtLeast k := by
  have nonzero {k units : Nat} (positive : 0 < k) (le : k * unitsPerOne ≤ units) : units ≠ 0 :=
    Nat.ne_of_gt (Nat.lt_of_lt_of_le (Nat.mul_pos positive unitsPerOne_pos) le)
  match x, y with
  | nan, _ | infinity true, _ | finite true _, _ => cases first
  | infinity false, nan | infinity false, infinity true | infinity false, finite true _ =>
    cases second
  | finite false _, nan | finite false _, infinity true | finite false _, finite true _ =>
    cases second
  | infinity false, infinity false => trivial
  | infinity false, finite false v =>
    have product : infinity false * finite false v = infinity false :=
      if_neg (nonzero right second)
    rw [product]
    trivial
  | finite false u, infinity false =>
    have product : finite false u * infinity false = infinity false :=
      if_neg (nonzero left first)
    rw [product]
    trivial
  | finite false u, finite false v =>
    refine isAtLeast_ofUnits unitsPerOne_pos grid ?_
    calc k * unitsPerOne * unitsPerOne
        ≤ m * n * unitsPerOne * unitsPerOne :=
          Nat.mul_le_mul_right _ (Nat.mul_le_mul_right _ le)
      _ = m * unitsPerOne * (n * unitsPerOne) := by ac_rfl
      _ ≤ u * v := Nat.mul_le_mul first second

/-- A number that stands for a natural number: it is that number below `2 ^ 53`, and it is at least
`2 ^ 53` from there on, where not all natural numbers are numbers of the format. -/
def StandsFor (x : Binary64) (n : Nat) : Prop :=
  if n < 2 ^ 53 then x = finite false (n * unitsPerOne) else x.IsAtLeast (2 ^ 53)

theorem StandsFor.eq (stands : x.StandsFor n) (small : n < 2 ^ 53) :
    x = finite false (n * unitsPerOne) := by
  rwa [StandsFor, if_pos small] at stands

theorem StandsFor.isAtLeast (stands : x.StandsFor n) : x.IsAtLeast (min n (2 ^ 53)) := by
  rw [StandsFor] at stands
  split at stands
  · rw [stands]
    exact Nat.mul_le_mul_right _ (Nat.min_le_left _ _)
  · exact stands.mono (Nat.min_le_right _ _)

theorem standsFor_of_units (n : Nat) : (finite false (n * unitsPerOne)).StandsFor n := by
  rw [StandsFor]
  split
  · rfl
  · rename_i large
    exact Nat.mul_le_mul_right _ (Nat.not_lt.1 large)

theorem ofNat_of_lt (small : n < 2 ^ 53) : ofNat n = finite false (n * unitsPerOne) := by
  have whole := ofUnits_of_onGrid false Nat.one_pos (onGrid_of_lt small).mul_unitsPerOne
    (natural_lt_unitsLimit small)
  rwa [Nat.mul_one] at whole

theorem ofNat_le_ofNat (first : m < 2 ^ 53) (second : n < 2 ^ 53) :
    (ofNat m).le (ofNat n) = true ↔ m ≤ n := by
  rw [ofNat_of_lt first, ofNat_of_lt second, le_finite_iff]
  exact Int.ofNat_le.trans (Nat.mul_le_mul_right_iff unitsPerOne_pos)

theorem standsFor_ofNat (small : n < 2 ^ 53) : (ofNat n).StandsFor n := by
  rw [ofNat_of_lt small]
  exact standsFor_of_units n

theorem toWord64_natural (small : n < 2 ^ 53) : (finite false (n * unitsPerOne)).toWord64 = n := by
  rw [toWord64_finite, Nat.mul_div_cancel n unitsPerOne_pos, word64Max]
  exact Nat.min_eq_left (by omega)

theorem mul_of_lt (small : m * n < 2 ^ 53) :
    finite false (m * unitsPerOne) * finite false (n * unitsPerOne) =
      finite false (m * n * unitsPerOne) := by
  have product : m * unitsPerOne * (n * unitsPerOne) = m * n * unitsPerOne * unitsPerOne := by
    ac_rfl
  have whole := ofUnits_of_onGrid false unitsPerOne_pos (onGrid_of_lt small).mul_unitsPerOne
    (natural_lt_unitsLimit small)
  rw [← product] at whole
  exact whole

/-- A product that reaches a bound does so with both factors cut to the bound. -/
theorem le_min_mul_min {bound : Nat} (left : 0 < m) (right : 0 < n) (le : bound ≤ m * n) :
    bound ≤ min m bound * min n bound := by
  rcases Nat.le_total bound m with reached | first
  · rw [Nat.min_eq_right reached]
    rcases Nat.le_total bound n with reached | second
    · rw [Nat.min_eq_right reached]
      exact Nat.le_mul_self bound
    · rw [Nat.min_eq_left second]
      exact Nat.le_mul_of_pos_right bound right
  · rw [Nat.min_eq_left first]
    rcases Nat.le_total bound n with reached | second
    · rw [Nat.min_eq_right reached]
      exact Nat.le_mul_of_pos_left bound left
    · rwa [Nat.min_eq_left second]

/-- Products stand for products, unless an infinity may meet zero. -/
theorem StandsFor.mul (first : x.StandsFor m) (second : y.StandsFor n)
    (fits : 0 < m ∧ 0 < n ∨ m < 2 ^ 53 ∧ n < 2 ^ 53) : (x * y).StandsFor (m * n) := by
  by_cases positive : 0 < m ∧ 0 < n
  · obtain ⟨left, right⟩ := positive
    rw [StandsFor]
    split
    · rename_i small
      have within {k l : Nat} (positive : 0 < l) (product : k * l < 2 ^ 53) : k < 2 ^ 53 :=
        Nat.lt_of_le_of_lt (Nat.le_mul_of_pos_right k positive) product
      rw [first.eq (within right small), second.eq (within left (Nat.mul_comm m n ▸ small))]
      exact mul_of_lt small
    · rename_i large
      exact first.isAtLeast.mul second.isAtLeast (Nat.lt_min.2 ⟨left, by decide⟩)
        (Nat.lt_min.2 ⟨right, by decide⟩) (onGrid_two_pow 53)
        (le_min_mul_min left right (Nat.not_lt.1 large))
  · have small := fits.resolve_left positive
    rw [first.eq small.1, second.eq small.2]
    have zero : m * n = 0 := by
      rw [Nat.mul_eq_zero]
      omega
    rw [mul_of_lt (by omega)]
    exact standsFor_of_units _

/-! ## Powers -/

/-- What products keep while exponents are added up, repeated squaring keeps. -/
theorem powerLoop_of_mul {R : Nat → Binary64 → Prop}
    (mul : ∀ {i j : Nat} {x y : Binary64}, R i x → R j y → R (i + j) (x * y))
    {result power : Binary64} {i j exponent : Nat} (first : R i result) (second : R j power) :
    R (i + j * exponent) (powerLoop result power exponent) := by
  induction exponent using Nat.strongRecOn generalizing result power i j with
  | ind exponent ih =>
    have halves := Nat.mod_add_div exponent 2
    -- the product with the bit that is read
    have read : R (i + j * (exponent % 2))
        (if exponent % 2 = 1 then result * power else result) := by
      split
      · rename_i odd
        rw [odd, Nat.mul_one]
        exact mul first second
      · rename_i even
        have zero : exponent % 2 = 0 := by omega
        rwa [zero, Nat.mul_zero, Nat.add_zero]
    rw [powerLoop]
    split
    · rename_i last
      have bit : exponent % 2 = exponent := by omega
      rwa [bit] at read ⊢
    · have rest := ih (exponent / 2) (by omega) read (mul second second)
      have exponents : i + j * (exponent % 2) + (j + j) * (exponent / 2) = i + j * exponent := by
        conv_rhs => rw [← halves]
        ring
      rwa [exponents] at rest

/-- What one and a number have, and products keep, the powers of the number have. -/
theorem pow_of_mul {R : Nat → Binary64 → Prop} {x : Binary64} (one : R 0 1) (self : R 1 x)
    (mul : ∀ {i j : Nat} {x y : Binary64}, R i x → R j y → R (i + j) (x * y)) (exponent : Nat) :
    R exponent (x.pow exponent) := by
  have loop : R (0 + 1 * exponent) (x.pow exponent) := powerLoop_of_mul mul one self
  rwa [Nat.zero_add, Nat.one_mul] at loop

theorem StandsFor.pow (stands : x.StandsFor n) (positive : 0 < n) (exponent : Nat) :
    (x.pow exponent).StandsFor (n ^ exponent) := by
  refine pow_of_mul (R := fun k y => y.StandsFor (n ^ k)) (standsFor_ofNat (by decide)) ?_ ?_ _
  · rwa [Nat.pow_one]
  · intro i j x y first second
    rw [Nat.pow_add]
    exact first.mul second (.inl ⟨Nat.pow_pos positive, Nat.pow_pos positive⟩)

/-! ## Numbers of the format -/

/-- The numbers that results can be: a finite one is of the format and below its limit. -/
def IsProper : Binary64 → Prop
  | finite _ units => OnGrid units ∧ units < unitsLimit
  | _ => True

theorem isProper_ofUnits (negative : Bool) (numerator denominator : Nat) :
    (ofUnits negative numerator denominator).IsProper := by
  rw [ofUnits]
  split
  · rename_i small
    exact ⟨onGrid_roundUnits numerator denominator, small⟩
  · trivial

theorem isProper_natural (small : n < 2 ^ 53) : (finite false (n * unitsPerOne)).IsProper :=
  ⟨(onGrid_of_lt small).mul_unitsPerOne, natural_lt_unitsLimit small⟩

theorem isProper_mul (x y : Binary64) : (x * y).IsProper := by
  match x, y with
  | nan, _ | infinity _, nan | finite _ _, nan | infinity _, infinity _ => trivial
  | infinity a, finite b units =>
    have product : infinity a * finite b units = if units = 0 then nan else infinity (a ^^ b) := rfl
    rw [product]
    split <;> trivial
  | finite a units, infinity b =>
    have product : finite a units * infinity b = if units = 0 then nan else infinity (a ^^ b) := rfl
    rw [product]
    split <;> trivial
  | finite a u, finite b v => exact isProper_ofUnits (a ^^ b) (u * v) unitsPerOne

theorem IsProper.pow (proper : x.IsProper) (exponent : Nat) : (x.pow exponent).IsProper :=
  pow_of_mul (R := fun _ y => y.IsProper) (isProper_ofUnits false (1 * unitsPerOne) 1) proper
    (fun _ _ => isProper_mul _ _) exponent

/-- The powers of a number that is at least two to some power are beyond the range as soon as those
of two are. -/
theorem isInfinite_pow {a exponent : Nat} (proper : x.IsProper) (atLeast : x.IsAtLeast (2 ^ a))
    (far : rangeExponent ≤ a * exponent) : (x.pow exponent).isInfinite = true := by
  have power : (x.pow exponent).IsAtLeast (2 ^ (a * exponent)) := by
    refine pow_of_mul (R := fun k y => y.IsAtLeast (2 ^ (a * k))) ?_ ?_ ?_ exponent
    · exact (standsFor_ofNat (n := 1) (by decide)).isAtLeast
    · rwa [Nat.mul_one]
    · intro i j x y first second
      have powers : 2 ^ (a * (i + j)) = 2 ^ (a * i) * 2 ^ (a * j) := by
        rw [Nat.mul_add, Nat.pow_add]
      exact first.mul second (Nat.two_pow_pos _) (Nat.two_pow_pos _) (onGrid_two_pow _)
        (Nat.le_of_eq powers)
  have range := proper.pow exponent
  have limit := power.mono (Nat.pow_le_pow_right Nat.two_pos far)
  generalize x.pow exponent = y at range limit
  match y with
  | nan | infinity true | finite true _ => cases limit
  | infinity false => rfl
  | finite false units =>
    have small : units < 2 ^ rangeExponent * unitsPerOne := unitsLimit_eq ▸ range.2
    exact absurd limit (Nat.not_le.2 small)

/-! ## The lesser of two numbers -/

theorem minimum_finite (a b : Nat) :
    (finite false a).minimum (finite false b) = finite false (min a b) := by
  have chosen : (finite false a).minimum (finite false b) =
      if (finite false b).lt (finite false a) = true then finite false b else finite false a := rfl
  have less : (finite false b).lt (finite false a) = true ↔ b < a :=
    lt_finite_iff.trans Int.ofNat_lt
  rw [chosen]
  split
  · rename_i above
    rw [Nat.min_eq_right (Nat.le_of_lt (less.1 above))]
  · rename_i below
    rw [Nat.min_eq_left (Nat.not_lt.1 (mt less.2 below))]

/-- The lesser of a number that stands for a natural number and of a small natural number. -/
theorem StandsFor.minimum {bound : Nat} (stands : x.StandsFor n) (small : bound < 2 ^ 53) :
    x.minimum (ofNat bound) = finite false (min n bound * unitsPerOne) := by
  rw [ofNat_of_lt small]
  by_cases whole : n < 2 ^ 53
  · rw [stands.eq whole, minimum_finite, Nat.mul_min_mul_right]
  · have large := stands.isAtLeast
    rw [Nat.min_eq_right (Nat.not_lt.1 whole)] at large
    rw [Nat.min_eq_right (by omega)]
    match x with
    | nan | infinity true | finite true _ => cases large
    | infinity false => rfl
    | finite false units =>
      have above : bound * unitsPerOne ≤ units :=
        Nat.le_trans (Nat.mul_le_mul_right _ (Nat.le_of_lt small)) large
      rw [minimum_finite, Nat.min_eq_right above]

end Resilience.Binary64
