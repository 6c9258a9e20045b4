import Mathlib.Data.List.Basic
import Resilience.Binary64

/-!
# Rounding to binary64

A count of units is a number of the format if fifty-three bits followed by zeros write it down.
Around any magnitude these are multiples of the spacing there, and that is all that rounding needs:
it ends on a number of the format and does not pass any on its way.

## Main definitions

* `Binary64.OnGrid` — counts of units that are numbers of the format

## Main statements

* `Binary64.OnGrid.spacing_dvd` — numbers of the format are multiples of the spacing below them
* `Binary64.le_roundUnits`, `Binary64.roundUnits_le` — rounding does not pass a number of the format
* `Binary64.roundUnits_of_onGrid`, `Binary64.onGrid_roundUnits` — what is rounded is left alone from
  then on
-/

namespace Resilience.Binary64

/-! ## The grid -/

/-- A count of units with a significand of fifty-three bits. -/
def OnGrid (units : Nat) : Prop :=
  ∃ significand exponent, significand < 2 ^ 53 ∧ units = significand * 2 ^ exponent

variable {units numerator denominator k : Nat}

theorem onGrid_of_lt (small : units < 2 ^ 53) : OnGrid units := ⟨units, 0, small, by simp⟩

theorem OnGrid.mul_two_pow (grid : OnGrid units) (shift : Nat) : OnGrid (units * 2 ^ shift) := by
  obtain ⟨significand, exponent, small, rfl⟩ := grid
  exact ⟨significand, exponent + shift, small, by rw [Nat.pow_add, Nat.mul_assoc]⟩

theorem onGrid_two_pow (exponent : Nat) : OnGrid (2 ^ exponent) := by
  rw [← Nat.one_mul (2 ^ exponent)]
  exact (onGrid_of_lt (by decide)).mul_two_pow exponent

theorem spacing_pos (units : Nat) : 0 < spacing units := Nat.two_pow_pos _

/-- A number is a multiple of the distance between the numbers around any magnitude it is not
below. -/
theorem OnGrid.spacing_dvd (grid : OnGrid units) {magnitude : Nat}
    (above : 2 ^ magnitude.log2 ≤ units) : spacing magnitude ∣ units := by
  obtain ⟨significand, exponent, small, rfl⟩ := grid
  rw [spacing]
  generalize magnitude.log2 = position at above
  have fine : position - 52 ≤ exponent := by
    by_contra coarse
    have shorter : significand * 2 ^ exponent < 2 ^ (53 + exponent) := by
      rw [Nat.pow_add]
      exact Nat.mul_lt_mul_of_pos_right small (Nat.two_pow_pos _)
    have wide : 2 ^ (53 + exponent) ≤ 2 ^ position :=
      Nat.pow_le_pow_right (by decide) (by omega)
    omega
  exact Nat.dvd_trans (Nat.pow_dvd_pow 2 fine) (Nat.dvd_mul_left _ _)

/-! ## Rounding -/

theorem le_nearestEven (positive : 0 < denominator) (le : k * denominator ≤ numerator) :
    k ≤ nearestEven numerator denominator := by
  have quotient : k ≤ numerator / denominator := (Nat.le_div_iff_mul_le positive).2 le
  rw [nearestEven]
  split <;> omega

theorem nearestEven_le_succ (numerator denominator : Nat) :
    nearestEven numerator denominator ≤ numerator / denominator + 1 := by
  rw [nearestEven]
  split <;> omega

theorem nearestEven_le (positive : 0 < denominator) (le : numerator ≤ k * denominator) :
    nearestEven numerator denominator ≤ k := by
  have quotient : numerator / denominator ≤ k := Nat.div_le_of_le_mul (by rwa [Nat.mul_comm])
  rcases Nat.lt_or_eq_of_le quotient with less | same
  · exact Nat.le_trans (nearestEven_le_succ _ _) less
  · have whole : numerator % denominator = 0 := by
      have split := Nat.div_add_mod numerator denominator
      rw [same, Nat.mul_comm] at split
      omega
    rw [nearestEven, whole, if_pos (.inl positive)]
    exact quotient

theorem mul_spacing_le_roundUnits (positive : 0 < denominator)
    (below : k * spacing (numerator / denominator) ≤ numerator / denominator) :
    k * spacing (numerator / denominator) ≤ roundUnits numerator denominator := by
  refine Nat.mul_le_mul_right _ (le_nearestEven (Nat.mul_pos positive (spacing_pos _)) ?_)
  rw [Nat.mul_comm denominator, ← Nat.mul_assoc]
  exact (Nat.le_div_iff_mul_le positive).1 below

/-- Rounding down does not pass a number of the format. -/
theorem le_roundUnits (positive : 0 < denominator) (grid : OnGrid units)
    (le : units * denominator ≤ numerator) : units ≤ roundUnits numerator denominator := by
  have quotient : units ≤ numerator / denominator := (Nat.le_div_iff_mul_le positive).2 le
  by_cases above : 2 ^ (numerator / denominator).log2 ≤ units
  · obtain ⟨k, count⟩ := grid.spacing_dvd above
    rw [count, Nat.mul_comm] at quotient ⊢
    exact mul_spacing_le_roundUnits positive quotient
  · -- the leading bit of the quotient is a number of the format, too
    rcases Nat.eq_zero_or_pos (numerator / denominator) with zero | nonzero
    · omega
    have leading := Nat.log2_self_le (Nat.ne_of_gt nonzero)
    obtain ⟨k, count⟩ :=
      (onGrid_two_pow (numerator / denominator).log2).spacing_dvd (Nat.le_refl _)
    rw [count, Nat.mul_comm] at leading above
    have rounded := mul_spacing_le_roundUnits positive leading
    omega

/-- Rounding up does not pass a number of the format. -/
theorem roundUnits_le (positive : 0 < denominator) (grid : OnGrid units)
    (le : numerator ≤ units * denominator) : roundUnits numerator denominator ≤ units := by
  have quotient : numerator / denominator ≤ units :=
    Nat.div_le_of_le_mul (by rwa [Nat.mul_comm])
  have dvd : spacing (numerator / denominator) ∣ units := by
    rcases Nat.eq_zero_or_pos (numerator / denominator) with zero | nonzero
    · rw [zero]
      exact Nat.one_dvd units
    · exact grid.spacing_dvd (Nat.le_trans (Nat.log2_self_le (Nat.ne_of_gt nonzero)) quotient)
  obtain ⟨k, count⟩ := dvd
  have rounded : nearestEven numerator (denominator * spacing (numerator / denominator)) ≤ k := by
    refine nearestEven_le (Nat.mul_pos positive (spacing_pos _)) ?_
    rw [Nat.mul_comm denominator, ← Nat.mul_assoc, Nat.mul_comm k, ← count]
    exact le
  rw [count, Nat.mul_comm, roundUnits]
  exact Nat.mul_le_mul_right _ rounded

/-- Numbers of the format are not rounded. -/
theorem roundUnits_of_onGrid (positive : 0 < denominator) (grid : OnGrid units) :
    roundUnits (units * denominator) denominator = units :=
  Nat.le_antisymm (roundUnits_le positive grid (Nat.le_refl _))
    (le_roundUnits positive grid (Nat.le_refl _))

theorem roundUnits_zero (positive : 0 < denominator) : roundUnits 0 denominator = 0 := by
  have zero := roundUnits_of_onGrid positive (onGrid_of_lt (Nat.two_pow_pos 53))
  rwa [Nat.zero_mul] at zero

theorem div_spacing_lt (units : Nat) : units / spacing units < 2 ^ 53 := by
  rw [Nat.div_lt_iff_lt_mul (spacing_pos _), spacing, ← Nat.pow_add]
  exact Nat.lt_of_lt_of_le Nat.lt_log2_self (Nat.pow_le_pow_right (by decide) (by omega))

/-- The last number of the format that is not above a magnitude. -/
theorem onGrid_div_mul_spacing (units : Nat) : OnGrid (units / spacing units * spacing units) :=
  (onGrid_of_lt (div_spacing_lt units)).mul_two_pow _

/-- What is rounded is a number of the format. -/
theorem onGrid_roundUnits (numerator denominator : Nat) :
    OnGrid (roundUnits numerator denominator) := by
  have few := div_spacing_lt (numerator / denominator)
  have bound := nearestEven_le_succ numerator
    (denominator * spacing (numerator / denominator))
  rw [← Nat.div_div_eq_div_mul] at bound
  rw [roundUnits]
  generalize nearestEven numerator (denominator * spacing (numerator / denominator)) = k at bound
  rcases Nat.lt_or_eq_of_le (Nat.le_trans bound few) with small | limit
  · exact (onGrid_of_lt small).mul_two_pow _
  · rw [limit]
    exact (onGrid_two_pow 53).mul_two_pow _

/-- A magnitude that rounding takes up is long enough to have a full significand. -/
theorem two_pow_le_div_spacing (up : units < roundUnits units 1) :
    2 ^ 52 ≤ units / spacing units := by
  have large : 2 ^ 53 ≤ units := by
    by_contra small
    have unchanged := roundUnits_of_onGrid Nat.one_pos (onGrid_of_lt (Nat.not_le.1 small))
    rw [Nat.mul_one] at unchanged
    omega
  have leading := Nat.log2_self_le (n := units) (by omega)
  have bits : 53 ≤ units.log2 := (Nat.le_log2 (by omega)).2 large
  rw [Nat.le_div_iff_mul_le (spacing_pos _), spacing, ← Nat.pow_add]
  rwa [Nat.add_sub_cancel' (by omega)]

end Resilience.Binary64
