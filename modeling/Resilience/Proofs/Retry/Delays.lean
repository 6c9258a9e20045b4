import Resilience.Proofs.Binary64.Naturals
import Resilience.Retry.Policy

/-!
# The formula of the delays

Delays are computed in binary64, with a multiplier raised to a power by repeated squaring, and each
product is rounded. With whole milliseconds below `2 ^ 53` and a whole multiplier nothing of that
shows: as far as the greatest delay leaves them alone, all results on the way are exact. What is not
exact is beyond the greatest delay already, an infinity included. A policy without a base delay is
the exception, since zero times infinity is not zero.

## Main definitions

* `RetryPolicy.CountsMillis` — policies of whole milliseconds with a whole multiplier
* `RetryPolicy.overflows` — whether a power of the multiplier is beyond the range of numbers

## Main statements

* `RetryPolicy.CountsMillis.overflows_of_le` — when powers of the multiplier are beyond the range
* `RetryPolicy.delay_formula` — the delays of all attempts, in exact whole milliseconds
* `RetryPolicy.delay_of_nothing_doubled` — no base delay, and yet a full greatest delay
-/

namespace Resilience.RetryPolicy

open Binary64 (StandsFor unitsPerOne standsFor_ofNat)

attribute [local irreducible] Binary64.unitsPerOne Binary64.unitsLimit

/-- Whether the power of the multiplier for an attempt is beyond the range of numbers. -/
def overflows (policy : RetryPolicy) (attempt : Nat) : Bool :=
  (policy.multiplier.pow (min (attempt - 1) exponentLimit)).isInfinite

variable {policy : RetryPolicy} {base greatest multiplier attempt n : Nat} {entropy : Entropy}

/-- Where no number is drawn, the delay is the raw one or the greatest one. -/
theorem delay_of_raw {raw : Binary64} (bounded : policy.strategy ≠ .random) (first : 1 ≤ attempt)
    (computed : policy.rawMillis (.ofNat policy.baseDelay.millis) (.ofNat policy.maxDelay.millis)
      attempt entropy = (raw, entropy)) :
    (policy.delay attempt entropy).1 =
      .ofMillis (raw.minimum (.ofNat policy.maxDelay.millis)).toWord64 := by
  have capped : policy.strategy.isBounded = true := decide_eq_true bounded
  rw [delay, Nat.max_eq_left first, computed]
  dsimp only
  rw [capped, if_pos rfl, Binary64.toWord64_maximum_zero]

theorem toWord64_minimum {raw : Binary64} (stands : raw.StandsFor n) (small : greatest < 2 ^ 53) :
    (raw.minimum (.ofNat greatest)).toWord64 = min n greatest := by
  rw [stands.minimum small]
  exact Binary64.toWord64_natural (Nat.lt_of_le_of_lt (Nat.min_le_right _ _) small)

/-- The limit of exponents is beyond all that matters to a small bound. -/
theorem min_power_exponentLimit (small : greatest < 2 ^ 53) (atLeastOne : 1 ≤ multiplier)
    (exponent : Nat) :
    min (base * multiplier ^ min exponent exponentLimit) greatest =
      min (base * multiplier ^ exponent) greatest := by
  rcases Nat.le_total exponent exponentLimit with below | above
  · rw [Nat.min_eq_left below]
  rw [Nat.min_eq_right above]
  rcases Nat.eq_zero_or_pos base with rfl | positive
  · rw [Nat.zero_mul, Nat.zero_mul]
  rcases Nat.lt_or_eq_of_le atLeastOne with greater | rfl
  · have great {power : Nat} (far : exponentLimit ≤ power) : greatest ≤ base * multiplier ^ power :=
      calc greatest ≤ 2 ^ 53 := Nat.le_of_lt small
        _ ≤ 2 ^ power := Nat.pow_le_pow_right (by decide) (Nat.le_trans (by decide) far)
        _ ≤ multiplier ^ power := Nat.pow_le_pow_left greater power
        _ ≤ base * multiplier ^ power := Nat.le_mul_of_pos_left _ positive
    rw [Nat.min_eq_right (great (Nat.le_refl _)), Nat.min_eq_right (great above)]
  · rw [Nat.one_pow, Nat.one_pow]

/-- Nothing is left of a power that is a number if there is no base delay, and no value at all of a
power beyond the range. -/
theorem exponentialMillis_zero
    (whole : policy.multiplier = .finite false (multiplier * unitsPerOne))
    (atLeastOne : 1 ≤ multiplier) :
    policy.exponentialMillis (.ofNat 0) attempt =
      if policy.overflows attempt then .nan else .finite false 0 := by
  have stands := (Binary64.standsFor_of_units multiplier).pow atLeastOne
    (min (attempt - 1) exponentLimit)
  have power := stands.isAtLeast
  have zero : Binary64.ofNat 0 = .finite false 0 := Binary64.zero_eq
  rw [exponentialMillis, overflows, whole, zero]
  generalize (Binary64.finite false (multiplier * unitsPerOne)).pow
    (min (attempt - 1) exponentLimit) = x at power ⊢
  match x with
  | .nan | .infinity true | .finite true _ => cases power
  | .infinity false => rfl
  | .finite false units => exact Binary64.zero_mul_finite units

/-! ## Exact delays -/

/-- A policy with delays of whole milliseconds below `2 ^ 53` and a positive whole multiplier. -/
structure CountsMillis (policy : RetryPolicy) (base greatest multiplier : Nat) : Prop where
  baseDelay : policy.baseDelay = .ofMillis base
  maxDelay : policy.maxDelay = .ofMillis greatest
  whole : policy.multiplier = .finite false (multiplier * unitsPerOne)
  baseSmall : base < 2 ^ 53
  greatestSmall : greatest < 2 ^ 53
  atLeastOne : 1 ≤ multiplier

namespace CountsMillis

variable (counts : policy.CountsMillis base greatest multiplier)
include counts

/-- Where no number is drawn, the delay is the raw one, cut at the greatest one. -/
theorem delay_eq {raw : Binary64} (bounded : policy.strategy ≠ .random) (first : 1 ≤ attempt)
    (computed : policy.rawMillis (.ofNat base) (.ofNat greatest) attempt entropy = (raw, entropy)) :
    (policy.delay attempt entropy).1 = .ofMillis (raw.minimum (.ofNat greatest)).toWord64 := by
  have lengths : policy.baseDelay.millis = base ∧ policy.maxDelay.millis = greatest := by
    rw [counts.baseDelay, counts.maxDelay, Duration.millis_ofMillis, Duration.millis_ofMillis]
    exact ⟨rfl, rfl⟩
  rw [← lengths.1, ← lengths.2] at computed
  rw [delay_of_raw bounded first computed, lengths.2]

theorem delay_fixed (fixed : policy.strategy = .fixed) (first : 1 ≤ attempt) :
    (policy.delay attempt entropy).1 = .ofMillis (min base greatest) := by
  have raw : policy.rawMillis (.ofNat base) (.ofNat greatest) attempt entropy =
      (.ofNat base, entropy) := by
    rw [rawMillis, fixed]
  rw [counts.delay_eq (by simp [fixed]) first raw,
    toWord64_minimum (standsFor_ofNat counts.baseSmall) counts.greatestSmall]

theorem delay_linear (linear : policy.strategy = .linear) (first : 1 ≤ attempt)
    (last : attempt < 2 ^ 32) :
    (policy.delay attempt entropy).1 = .ofMillis (min (base * attempt) greatest) := by
  have raw : policy.rawMillis (.ofNat base) (.ofNat greatest) attempt entropy =
      (.ofNat base * .ofNat attempt, entropy) := by
    rw [rawMillis, linear]
  have small : attempt < 2 ^ 53 := by omega
  have product := (standsFor_ofNat counts.baseSmall).mul (standsFor_ofNat small)
    (.inr ⟨counts.baseSmall, small⟩)
  rw [counts.delay_eq (by simp [linear]) first raw, toWord64_minimum product counts.greatestSmall]

theorem delay_exponential (exponential : policy.strategy = .exponential) (first : 1 ≤ attempt) :
    (policy.delay attempt entropy).1 = .ofMillis
      (if base = 0 ∧ policy.overflows attempt then greatest
        else min (base * multiplier ^ (attempt - 1)) greatest) := by
  have raw : policy.rawMillis (.ofNat base) (.ofNat greatest) attempt entropy =
      (policy.exponentialMillis (.ofNat base) attempt, entropy) := by
    rw [rawMillis, exponential]
  have small := counts.greatestSmall
  have delay := counts.delay_eq (by simp [exponential]) first raw
  rcases Nat.eq_zero_or_pos base with rfl | positive
  · rw [delay, exponentialMillis_zero counts.whole counts.atLeastOne]
    cases policy.overflows attempt with
    | true =>
      -- the lesser of no value and the greatest delay is the greatest delay
      have lesser : Binary64.nan.minimum (.ofNat greatest) = .ofNat greatest :=
        if_pos rfl
      rw [if_pos rfl, if_pos ⟨rfl, rfl⟩, lesser, Binary64.ofNat_of_lt small,
        Binary64.toWord64_natural small]
    | false =>
      have zero : Binary64.finite false 0 = .ofNat 0 := Binary64.zero_eq.symm
      rw [if_neg Bool.false_ne_true, if_neg (fun beyond => Bool.false_ne_true beyond.2), zero,
        toWord64_minimum (standsFor_ofNat (by decide)) small, Nat.zero_mul]
  · have power := (Binary64.standsFor_of_units multiplier).pow counts.atLeastOne
      (min (attempt - 1) exponentLimit)
    rw [← counts.whole] at power
    have product := (standsFor_ofNat counts.baseSmall).mul power
      (.inl ⟨positive, Nat.pow_pos counts.atLeastOne⟩)
    have nonzero : ¬ (base = 0 ∧ policy.overflows attempt = true) :=
      fun beyond => Nat.ne_of_gt positive beyond.1
    rw [delay, exponentialMillis, toWord64_minimum product small, if_neg nonzero,
      min_power_exponentLimit small counts.atLeastOne]

/-! ## Powers beyond the range -/

/-- A multiplier of two to some power or more overflows when that power of two does. -/
theorem overflows_of_le {a : Nat} (proper : policy.multiplier.IsProper) (grows : 2 ^ a ≤ multiplier)
    (far : Binary64.rangeExponent ≤ a * (attempt - 1)) : policy.overflows attempt = true := by
  have atLeast : policy.multiplier.IsAtLeast (2 ^ a) := by
    rw [counts.whole]
    exact Nat.mul_le_mul_right _ grows
  have limited : Binary64.rangeExponent ≤ a * min (attempt - 1) exponentLimit := by
    rcases Nat.le_total (attempt - 1) exponentLimit with below | above
    · rwa [Nat.min_eq_left below]
    · rw [Nat.min_eq_right above]
      have positive : 0 < a := Nat.pos_of_mul_pos_right (Nat.lt_of_lt_of_le (by decide) far)
      calc Binary64.rangeExponent ≤ exponentLimit := by decide
        _ ≤ a * exponentLimit := Nat.le_mul_of_pos_left _ positive
  exact Binary64.isInfinite_pow proper atLeast limited

end CountsMillis

/-! ## The formula -/

/-- The delays in exact whole milliseconds, of any magnitude: the base delay, the base delay as often
as there were attempts, and the base delay times a power of the multiplier, each cut at the greatest
delay. The one exception is a policy without a base delay whose power of the multiplier is beyond
the range: zero times infinity has no value, and the greatest delay is what is left. -/
theorem delay_formula (counts : policy.CountsMillis base greatest multiplier) (first : 1 ≤ attempt)
    (last : attempt < 2 ^ 32) (entropy : Entropy) :
    (policy.strategy = .fixed →
      (policy.delay attempt entropy).1 = .ofMillis (min base greatest)) ∧
    (policy.strategy = .linear →
      (policy.delay attempt entropy).1 = .ofMillis (min (base * attempt) greatest)) ∧
    (policy.strategy = .exponential →
      (policy.delay attempt entropy).1 = .ofMillis
        (if base = 0 ∧ policy.overflows attempt then greatest
          else min (base * multiplier ^ (attempt - 1)) greatest)) :=
  ⟨fun fixed => counts.delay_fixed fixed first,
    fun linear => counts.delay_linear linear first last,
    fun exponential => counts.delay_exponential exponential first⟩

theorem countsMillis_doubling {base greatest : Nat} {strategy : Backoff} (baseSmall : base < 2 ^ 53)
    (greatestSmall : greatest < 2 ^ 53) :
    RetryPolicy.CountsMillis
      { baseDelay := .ofMillis base, maxDelay := .ofMillis greatest, multiplier := 2, strategy }
      base greatest 2 where
  baseDelay := rfl
  maxDelay := rfl
  whole := Binary64.ofNat_of_lt (by decide)
  baseSmall := baseSmall
  greatestSmall := greatestSmall
  atLeastOne := by decide

/-- Doubled delays, before and after they reach the greatest one. -/
theorem delay_formula_doubling :
    let policy : RetryPolicy :=
      { baseDelay := .ofMillis 100, maxDelay := .ofMillis 60000, multiplier := 2 }
    policy.CountsMillis 100 60000 2 ∧ (policy.delay 4 default).1 = .ofMillis 800 ∧
      (policy.delay 100 default).1 = .ofMillis 60000 := by
  intro policy
  have counts : policy.CountsMillis 100 60000 2 := countsMillis_doubling (by decide) (by decide)
  have nonzero {overflows : Prop} : ¬ (100 = 0 ∧ overflows) := fun beyond => nomatch beyond.1
  refine ⟨counts, ?_, ?_⟩
  · refine ((delay_formula counts (by decide) (by decide) default).2.2 rfl).trans ?_
    rw [if_neg nonzero]
    rfl
  · refine ((delay_formula counts (by decide) (by decide) default).2.2 rfl).trans ?_
    rw [if_neg nonzero]
    rfl

/-- Without a base delay, a thousand and twenty-four doublings are a full greatest delay and not
none. -/
theorem delay_of_nothing_doubled :
    let policy : RetryPolicy :=
      { baseDelay := .ofMillis 0, maxDelay := .ofMillis 1000, multiplier := 2 }
    policy.CountsMillis 0 1000 2 ∧ (policy.delay 1025 default).1 = .ofMillis 1000 ∧
      (policy.delay 1025 default).1 ≠ .ofMillis (min (0 * 2 ^ (1025 - 1)) 1000) := by
  intro policy
  have counts : policy.CountsMillis 0 1000 2 := countsMillis_doubling (by decide) (by decide)
  have proper : policy.multiplier.IsProper := by
    rw [counts.whole]
    exact Binary64.isProper_natural (by decide)
  have overflows : policy.overflows 1025 = true :=
    counts.overflows_of_le (a := 1) proper (by decide) (by decide)
  have delay : (policy.delay 1025 default).1 = .ofMillis 1000 := by
    rw [counts.delay_exponential rfl (by decide), if_pos ⟨rfl, overflows⟩]
  refine ⟨counts, delay, fun formula => ?_⟩
  rw [delay, Nat.zero_mul] at formula
  exact absurd formula (by decide)

end Resilience.RetryPolicy
