import Mathlib.Data.List.Basic
import Resilience.Binary64

/-!
# The order of binary64 numbers

Finite numbers compare as their units do, and the words that numbers are truncated to follow that
order. A number that is cut at a bound is not above it, whatever the number was.

## Main definitions

* `Binary64.IsShare` — numbers from zero to one

## Main statements

* `Binary64.le_finite_iff`, `Binary64.lt_finite_iff` — the order of finite numbers
* `Binary64.within_zero_one_iff` — the test for shares
* `Binary64.le_minimum` — the lesser of two numbers is not above the second
* `Binary64.toWord64_mono` — truncation keeps the order
-/

namespace Resilience.Binary64

variable {x y : Binary64}

theorem zero_eq : (0 : Binary64) = finite false 0 := by decide +kernel

theorem one_eq : (1 : Binary64) = finite false unitsPerOne := by decide +kernel

/-! ## Comparison -/

/-- Finite numbers compare as their units do. -/
theorem le_finite_iff {a b : Bool} {x y : Nat} :
    (finite a x).le (finite b y) = true ↔ (finite a x).signedUnits ≤ (finite b y).signedUnits := by
  rw [le, compare?, Bool.or_eq_true, beq_iff_eq, beq_iff_eq, Option.some.injEq, Option.some.injEq,
    Int.compare_eq_lt, Int.compare_eq_eq]
  omega

theorem lt_finite_iff {a b : Bool} {x y : Nat} :
    (finite a x).lt (finite b y) = true ↔ (finite a x).signedUnits < (finite b y).signedUnits := by
  rw [lt, compare?, beq_iff_eq, Option.some.injEq, Int.compare_eq_lt]

/-- A number from zero to one; both zeros are, and not-a-number is not. -/
def IsShare (rate : Binary64) : Prop :=
  rate.isFinite = true ∧ 0 ≤ rate.signedUnits ∧ rate.signedUnits ≤ unitsPerOne

instance (rate : Binary64) : Decidable rate.IsShare := inferInstanceAs (Decidable (_ ∧ _ ∧ _))

theorem within_zero_one_iff {rate : Binary64} : rate.within 0 1 = true ↔ rate.IsShare := by
  rw [within, zero_eq, one_eq, Bool.and_eq_true, IsShare]
  match rate with
  | nan => exact iff_of_false (fun within => nomatch within.1) fun share => nomatch share.1
  | infinity true => exact iff_of_false (fun within => nomatch within.1) fun share => nomatch share.1
  | infinity false =>
    exact iff_of_false (fun within => nomatch within.2) fun share => nomatch share.1
  | finite negative units =>
    rw [le_finite_iff, le_finite_iff]
    exact (and_iff_right rfl).symm

theorem le_refl_of_number (number : x.isNaN = false) : x.le x = true := by
  match x with
  | nan => cases number
  | infinity true | infinity false => rfl
  | finite negative units => exact le_finite_iff.2 (Int.le_refl _)

/-- Of two numbers one is less or the other is not greater. -/
theorem le_of_not_lt (first : x.isNaN = false) (second : y.isNaN = false) (less : y.lt x = false) :
    x.le y = true := by
  match x, y with
  | nan, _ => cases first
  | infinity _, nan | finite _ _, nan => cases second
  | infinity true, infinity true | infinity true, infinity false => rfl
  | infinity true, finite _ _ | finite _ _, infinity false => rfl
  | infinity false, infinity false => rfl
  | infinity false, infinity true | infinity false, finite _ _ => cases less
  | finite _ _, infinity true => cases less
  | finite a m, finite b n =>
    rw [Bool.eq_false_iff, ne_eq, lt_finite_iff] at less
    exact le_finite_iff.2 (Int.not_lt.1 less)

theorem le_minimum (x : Binary64) (number : y.isNaN = false) : (x.minimum y).le y = true := by
  rw [minimum, number, if_neg Bool.false_ne_true]
  split
  · exact le_refl_of_number number
  · rename_i first
    split
    · exact le_refl_of_number number
    · rename_i less
      exact le_of_not_lt (Bool.eq_false_iff.2 first) number (Bool.eq_false_iff.2 less)

/-! ## Truncation -/

theorem toWord64_finite (units : Nat) :
    (finite false units).toWord64 = min (units / unitsPerOne) word64Max := rfl

theorem toWord64_zero : (finite false 0).toWord64 = 0 := by
  rw [toWord64_finite, Nat.zero_div, Nat.zero_min]

/-- Words are never negative, so that a lower bound of zero makes no difference. -/
theorem toWord64_maximum_zero (x : Binary64) : (x.maximum 0).toWord64 = x.toWord64 := by
  rw [zero_eq]
  match x with
  | nan | infinity true => exact toWord64_zero
  | infinity false => rfl
  | finite negative units =>
    have chosen : (finite negative units).maximum (finite false 0) =
        if (finite negative units).lt (finite false 0) = true then finite false 0
        else finite negative units := rfl
    rw [chosen]
    split
    · rename_i below
      rw [lt_finite_iff] at below
      cases negative with
      | true => exact toWord64_zero
      | false => exact absurd below (Int.not_lt.2 (Int.natCast_nonneg _))
    · rfl

theorem toWord64_mono (le : x.le y = true) : x.toWord64 ≤ y.toWord64 := by
  match x, y with
  | nan, _ | infinity false, nan => cases le
  | infinity false, infinity true | infinity false, finite _ _ => cases le
  | infinity true, _ | finite true _, _ => exact Nat.zero_le _
  | infinity false, infinity false => exact Nat.le_refl _
  | finite false _, nan | finite false _, infinity true => cases le
  | finite false _, infinity false => exact Nat.min_le_right _ _
  | finite false m, finite false n =>
    have units : m ≤ n := Int.ofNat_le.1 (le_finite_iff.1 le)
    have quotient : m / unitsPerOne ≤ n / unitsPerOne := Nat.div_le_div_right units
    exact Nat.le_min.2 ⟨Nat.le_trans (Nat.min_le_left _ _) quotient, Nat.min_le_right _ _⟩
  | finite false m, finite true n =>
    have units : (m : Int) ≤ -(n : Int) := le_finite_iff.1 le
    obtain rfl : m = 0 := by omega
    exact Nat.le_of_eq toWord64_zero

end Resilience.Binary64
