import Resilience.Proofs.Binary64.Naturals
import Resilience.Entropy

/-!
# Numbers drawn between bounds

A number is drawn as a fraction of the distance of two bounds, added to the lower one. The distance,
the part of it and the sum are all rounded, and yet the upper bound is never passed: the fraction
stays away from one by more than the rounding of the distance can add, and the sum is rounded to
numbers of the format, of which the bounds are two.

## Main statements

* `Binary64.within_add` — sums between two numbers of the format stay there when they are rounded
* `Binary64.roundUnits_fraction_le` — the part of a distance is not above the exact distance
* `Entropy.between_within` — numbers are drawn between their bounds
-/

namespace Resilience

attribute [local irreducible] Binary64.unitsPerOne Binary64.unitsLimit

namespace Binary64

/-! ## Sums between bounds -/

theorem within_finite_iff {a b c : Bool} {l h u : Nat} :
    (finite c u).within (finite a l) (finite b h) = true ↔
      (finite a l).signedUnits ≤ (finite c u).signedUnits ∧
        (finite c u).signedUnits ≤ (finite b h).signedUnits := by
  rw [within, Bool.and_eq_true, le_finite_iff, le_finite_iff]

theorem signedUnits_zero (negative : Bool) : (finite negative 0).signedUnits = 0 := by
  cases negative <;> rfl

/-- A magnitude below one of the format is below it after rounding, too, and finite. -/
theorem ofUnits_of_le (negative : Bool) {units n : Nat} (grid : OnGrid units)
    (small : units < unitsLimit) (le : n ≤ units) :
    ofUnits negative n 1 = finite negative (roundUnits n 1) ∧ roundUnits n 1 ≤ units := by
  have rounded : roundUnits n 1 ≤ units := roundUnits_le Nat.one_pos grid (by rwa [Nat.mul_one])
  exact ⟨if_pos (Nat.lt_of_le_of_lt rounded small), rounded⟩

theorem le_round_of_le {units n : Nat} (grid : OnGrid units) (le : units ≤ n) :
    units ≤ roundUnits n 1 := le_roundUnits Nat.one_pos grid (by rwa [Nat.mul_one])

/-- A sum that is exactly between two numbers of the format is so when it is rounded. -/
theorem within_add {a b c e : Bool} {l h u v : Nat} (lowProper : (finite a l).IsProper)
    (highProper : (finite b h).IsProper)
    (below : (finite a l).signedUnits ≤ (finite c u).signedUnits + (finite e v).signedUnits)
    (above : (finite c u).signedUnits + (finite e v).signedUnits ≤ (finite b h).signedUnits) :
    (finite c u + finite e v).within (finite a l) (finite b h) = true := by
  have sum : finite c u + finite e v =
      if (finite c u).signedUnits + (finite e v).signedUnits = 0 then finite (c && e) 0
      else ofUnits ((finite c u).signedUnits + (finite e v).signedUnits < 0)
        ((finite c u).signedUnits + (finite e v).signedUnits).natAbs 1 := rfl
  rw [sum]
  generalize (finite c u).signedUnits + (finite e v).signedUnits = total at below above
  by_cases zero : total = 0
  · rw [if_pos zero, within_finite_iff, signedUnits_zero, ← zero]
    exact ⟨below, above⟩
  rw [if_neg zero]
  obtain ⟨n, rfl | rfl⟩ := total.eq_nat_or_neg
  · -- a positive sum is at most the upper bound, and at least the lower one if that is positive
    have sign : decide ((n : Int) < 0) = false := decide_eq_false (by omega)
    have upper : n ≤ h := by
      cases b <;> simp only [signedUnits] at above <;> omega
    obtain ⟨whole, rounded⟩ := ofUnits_of_le false highProper.1 highProper.2 upper
    rw [sign, Int.natAbs_natCast, whole, within_finite_iff]
    constructor
    · cases a with
      | true => simp only [signedUnits]; omega
      | false => exact Int.ofNat_le.2 (le_round_of_le lowProper.1 (Int.ofNat_le.1 below))
    · cases b with
      | true => simp only [signedUnits] at above ⊢; omega
      | false => exact Int.ofNat_le.2 rounded
  -- a negative sum, with the bounds in the place of each other
  · have sign : decide (-(n : Int) < 0) = true := decide_eq_true (by omega)
    have lower : n ≤ l := by
      cases a <;> simp only [signedUnits] at below <;> omega
    obtain ⟨whole, rounded⟩ := ofUnits_of_le true lowProper.1 lowProper.2 lower
    rw [sign, Int.natAbs_neg, Int.natAbs_natCast, whole, within_finite_iff]
    constructor
    · cases a with
      | true => simp only [signedUnits]; omega
      | false => simp only [signedUnits] at below ⊢; omega
    · cases b with
      | true =>
        simp only [signedUnits] at above ⊢
        have rounded := le_round_of_le (n := n) highProper.1 (by omega)
        omega
      | false => simp only [signedUnits]; omega

/-! ## Fractions of a distance -/

/-- A rounded distance, multiplied by a fraction of at most `1 - 2 ^ (-52)`, is not above the exact
distance: what rounding has added is less than what the fraction takes away. -/
theorem roundUnits_fraction_le {fraction : Nat}
    (part : fraction * 2 ^ 52 ≤ (2 ^ 52 - 1) * unitsPerOne) (distance : Nat) :
    roundUnits (fraction * roundUnits distance 1) unitsPerOne ≤ distance := by
  rcases Nat.lt_or_ge distance (roundUnits distance 1) with up | down
  -- a distance that is rounded up has at least `2 ^ 52` steps of its grid, and gains one at most
  · have full := two_pow_le_div_spacing up
    have next : roundUnits distance 1 ≤
        (distance / spacing distance + 1) * spacing distance := by
      have step := nearestEven_le_succ distance (spacing distance)
      rw [roundUnits, Nat.div_one, Nat.one_mul]
      exact Nat.mul_le_mul_right _ step
    have grid := onGrid_div_mul_spacing distance
    have previous : distance / spacing distance * spacing distance ≤ distance :=
      Nat.div_mul_le_self _ _
    generalize distance / spacing distance = a at full next grid previous
    have below : fraction * (a + 1) ≤ a * unitsPerOne := by
      have scaled : 2 ^ 52 * (fraction * (a + 1)) ≤ 2 ^ 52 * (a * unitsPerOne) :=
        calc 2 ^ 52 * (fraction * (a + 1)) = fraction * 2 ^ 52 * (a + 1) := by ring
          _ ≤ (2 ^ 52 - 1) * unitsPerOne * (a + 1) := Nat.mul_le_mul_right _ part
          _ = (2 ^ 52 - 1) * (a + 1) * unitsPerOne := by ring
          _ ≤ 2 ^ 52 * a * unitsPerOne := Nat.mul_le_mul_right _ (by omega)
          _ = 2 ^ 52 * (a * unitsPerOne) := by ring
      exact Nat.le_of_mul_le_mul_left scaled (by decide)
    refine Nat.le_trans (roundUnits_le unitsPerOne_pos grid ?_) previous
    calc fraction * roundUnits distance 1
        ≤ fraction * ((a + 1) * spacing distance) := Nat.mul_le_mul_left _ next
      _ = fraction * (a + 1) * spacing distance := by ring
      _ ≤ a * unitsPerOne * spacing distance := Nat.mul_le_mul_right _ below
      _ = a * spacing distance * unitsPerOne := by ring
  -- rounded down, the fraction only takes away
  · have below : fraction * roundUnits distance 1 ≤ roundUnits distance 1 * unitsPerOne := by
      rw [Nat.mul_comm]
      exact Nat.mul_le_mul_left _ (by omega)
    exact Nat.le_trans (roundUnits_le unitsPerOne_pos (onGrid_roundUnits _ _) below) down

/-! ## Differences -/

/-- The difference of finite numbers, as the sum with the opposite. -/
theorem sub_finite (a b : Bool) (l h : Nat) :
    finite b h - finite a l =
      if (finite b h).signedUnits - (finite a l).signedUnits = 0 then finite (b && !a) 0
      else ofUnits ((finite b h).signedUnits - (finite a l).signedUnits < 0)
        ((finite b h).signedUnits - (finite a l).signedUnits).natAbs 1 := by
  have opposite : (finite (!a) l).signedUnits = -(finite a l).signedUnits := by
    cases a <;> simp [signedUnits]
  rw [Int.sub_eq_add_neg, ← opposite]
  rfl

theorem isFinite_sub {a b : Bool} {l h units : Nat} (grid : OnGrid units)
    (small : units < unitsLimit)
    (le : ((finite b h).signedUnits - (finite a l).signedUnits).natAbs ≤ units) :
    (finite b h - finite a l).isFinite = true := by
  rw [sub_finite]
  split
  · rfl
  · rw [(ofUnits_of_le _ grid small le).1]
    rfl

/-- The difference of numbers in order, if it is finite, is their exact distance, rounded. -/
theorem exists_sub {a b : Bool} {l h : Nat} (le : (finite a l).le (finite b h) = true)
    (reaches : (finite b h - finite a l).isFinite = true) :
    ∃ negative units, finite b h - finite a l = finite negative units ∧
      units = roundUnits ((finite b h).signedUnits - (finite a l).signedUnits).natAbs 1 ∧
      units < unitsLimit ∧ (negative = true → units = 0) := by
  have difference := sub_finite a b l h
  rw [le_finite_iff] at le
  have sign : decide ((finite b h).signedUnits - (finite a l).signedUnits < 0) = false :=
    decide_eq_false (by omega)
  rw [sign] at difference
  by_cases zero : (finite b h).signedUnits - (finite a l).signedUnits = 0
  · rw [if_pos zero] at difference
    refine ⟨_, 0, difference, ?_, unitsLimit_pos, fun _ => rfl⟩
    rw [zero]
    exact (roundUnits_zero Nat.one_pos).symm
  · rw [if_neg zero, ofUnits] at difference
    split at difference
    · rename_i small
      exact ⟨false, _, difference, rfl, small, fun below => absurd below Bool.false_ne_true⟩
    · rw [difference] at reaches
      cases reaches

/-- A factor of at most one keeps a product within the range. -/
theorem mul_of_le_one {part units : Nat} (negative : Bool) (grid : OnGrid units)
    (small : units < unitsLimit) (le : part ≤ unitsPerOne) :
    finite false part * finite negative units =
      finite negative (roundUnits (part * units) unitsPerOne) := by
  have sign : (false ^^ negative) = negative := Bool.false_xor negative
  have below : part * units ≤ units * unitsPerOne := by
    rw [Nat.mul_comm]
    exact Nat.mul_le_mul_left _ le
  have range := Nat.lt_of_le_of_lt (roundUnits_le unitsPerOne_pos grid below) small
  exact (congrArg (ofUnits · _ _) sign).trans (if_pos range)

end Binary64

namespace Entropy

open Binary64

/-- A fraction is zero or more, and at most `1 - 2 ^ (-52)`. -/
theorem exists_fraction (word : UInt64) : ∃ units,
    fraction word = finite false units ∧ units * 2 ^ 52 ≤ (2 ^ 52 - 1) * unitsPerOne := by
  have bits : word.toNat / 2 ^ 12 ≤ 2 ^ 52 - 1 := by
    have word := word.toNat_lt
    omega
  obtain ⟨exponent, fine⟩ : ∃ exponent, unitsPerOne = 2 ^ exponent * 2 ^ 52 := by
    refine ⟨1074 - 52, ?_⟩
    rw [← Nat.pow_add, Nat.sub_add_cancel (by decide), unitsPerOne]
  have grid : OnGrid ((2 ^ 52 - 1) * 2 ^ exponent) := (onGrid_of_lt (by decide)).mul_two_pow _
  have below : word.toNat / 2 ^ 12 * unitsPerOne ≤ (2 ^ 52 - 1) * 2 ^ exponent * 2 ^ 52 := by
    rw [fine, Nat.mul_assoc (2 ^ 52 - 1)]
    exact Nat.mul_le_mul_right _ bits
  have rounded := roundUnits_le (Nat.two_pow_pos 52) grid below
  have scaled : roundUnits (word.toNat / 2 ^ 12 * unitsPerOne) (2 ^ 52) * 2 ^ 52 ≤
      (2 ^ 52 - 1) * unitsPerOne :=
    calc _ ≤ (2 ^ 52 - 1) * 2 ^ exponent * 2 ^ 52 := Nat.mul_le_mul_right _ rounded
      _ = (2 ^ 52 - 1) * unitsPerOne := by rw [fine, Nat.mul_assoc]
  have small : roundUnits (word.toNat / 2 ^ 12 * unitsPerOne) (2 ^ 52) < unitsLimit := by
    have one : 1 * unitsPerOne < unitsLimit := natural_lt_unitsLimit (by decide)
    omega
  exact ⟨_, if_pos small, scaled⟩

/-- Numbers are drawn between their bounds, if these are in order and their distance is a number. -/
theorem between_within (entropy : Entropy) {low high : Binary64} (lowProper : low.IsProper)
    (highProper : high.IsProper) (le : low.le high = true)
    (reaches : (high - low).isFinite = true) :
    (entropy.between low high).1.within low high = true := by
  match low, high with
  | nan, _ | infinity true, nan | infinity false, nan | finite _ _, nan => cases le
  | infinity true, infinity true | infinity true, infinity false => cases reaches
  | infinity true, finite _ _ | finite _ _, infinity true => cases reaches
  | infinity false, infinity true | infinity false, infinity false => cases reaches
  | infinity false, finite _ _ | finite _ _, infinity false => cases reaches
  | finite a l, finite b h =>
    obtain ⟨part, fraction_eq, less⟩ := exists_fraction entropy.next.1
    obtain ⟨negative, units, difference, distance, small, sign⟩ := exists_sub le reaches
    have grid : OnGrid units := distance ▸ onGrid_roundUnits _ _
    have drawn : (entropy.between (finite a l) (finite b h)).1 =
        finite negative (roundUnits (part * units) unitsPerOne) + finite a l := by
      have formula : (entropy.between (finite a l) (finite b h)).1 =
          fraction entropy.next.1 * (finite b h - finite a l) + finite a l := rfl
      rw [formula, fraction_eq, difference, mul_of_le_one negative grid small (by omega)]
    -- the product is not above the rounded distance, and not above the exact one either
    have within := roundUnits_fraction_le less
      ((finite b h).signedUnits - (finite a l).signedUnits).natAbs
    rw [← distance] at within
    have positive : 0 ≤ (finite negative (roundUnits (part * units) unitsPerOne)).signedUnits := by
      cases negative with
      | true =>
        rw [sign rfl, Nat.mul_zero, roundUnits_zero unitsPerOne_pos]
        exact Int.le_refl 0
      | false => exact Int.natCast_nonneg _
    have bounded : (finite negative (roundUnits (part * units) unitsPerOne)).signedUnits ≤
        (roundUnits (part * units) unitsPerOne : Int) := by
      cases negative <;> simp only [signedUnits] <;> omega
    rw [le_finite_iff] at le
    rw [drawn]
    exact within_add lowProper highProper (by omega) (by omega)

end Entropy

end Resilience
