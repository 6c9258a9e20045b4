import Resilience.Proofs.Entropy
import Resilience.Retry.Policy

/-!
# The bounds of the delays

Whatever the multiplier is, and whatever numbers are drawn, a delay is not above the greatest one: it
is cut there after everything else, and the lesser of any number and the greatest delay is not above
the latter. Only random delays are not cut. They are drawn between the base delay and the greatest
one, or are the base delay if these are not in order.

The numbers may come from any source that draws between bounds in order; a stream of words is one.

## Main definitions

* `Draw`, `Draw.IsFaithful` — sources of random numbers, and those that keep to their bounds
* `RetryPolicy.delayDrawing?` — the delay with numbers from any source
* `RetryPolicy.Allows` — the delays within the bounds of a policy

## Main statements

* `Entropy.isFaithful_draw` — streams of words keep to their bounds
* `RetryPolicy.delayDrawing?_draw` — the delay with numbers from a stream is the delay
* `RetryPolicy.delay_bounded` — all delays are within the bounds of their policy
-/

namespace Resilience

attribute [local irreducible] Binary64.unitsPerOne Binary64.unitsLimit

/-! ## Sources of random numbers -/

/-- A source of random numbers: for two bounds it gives a number or refuses them. -/
abbrev Draw := Binary64 → Binary64 → Option Binary64

/-- A source that draws a number between any bounds in order with a finite distance. -/
def Draw.IsFaithful (draw : Draw) : Prop :=
  ∀ low high : Binary64, low.IsProper → high.IsProper → low.le high = true →
    (high - low).isFinite = true → ∃ x, draw low high = some x ∧ x.within low high = true

/-- A stream of words as a source. -/
def Entropy.draw (entropy : Entropy) : Draw := fun low high => some (entropy.between low high).1

theorem Entropy.isFaithful_draw (entropy : Entropy) : entropy.draw.IsFaithful :=
  fun _ _ lowProper highProper le reaches =>
    ⟨_, rfl, entropy.between_within lowProper highProper le reaches⟩

namespace RetryPolicy

/-- The delay in milliseconds before it is capped for the last time, with numbers from a source. -/
def rawDrawing? (policy : RetryPolicy) (base greatest : Binary64) (attempt : Nat) (draw : Draw) :
    Option Binary64 :=
  match policy.strategy with
  | .fixed => some base
  | .linear => some (base * Binary64.ofNat attempt)
  | .exponential => some (policy.exponentialMillis base attempt)
  | .exponentialJitter =>
    let exponential := (policy.exponentialMillis base attempt).minimum greatest
    if Binary64.lt 0 policy.jitter then
      (draw (-policy.jitter) policy.jitter).map fun shift => exponential * (1 + shift)
    else some exponential
  | .random => if greatest.le base then some base else draw base greatest

/-- The delay after an attempt, with numbers from a source; there is none if the source refuses the
bounds it is given. -/
def delayDrawing? (policy : RetryPolicy) (attempt : Nat) (draw : Draw) : Option Duration :=
  let base := Binary64.ofNat policy.baseDelay.millis
  let greatest := Binary64.ofNat policy.maxDelay.millis
  (policy.rawDrawing? base greatest (max attempt 1) draw).map fun raw =>
    let capped := if policy.strategy.isBounded then raw.minimum greatest else raw
    Duration.ofMillis (capped.maximum 0).toWord64

variable {policy : RetryPolicy} {base greatest : Binary64} {attempt : Nat} {draw : Draw}

theorem rawDrawing?_draw (policy : RetryPolicy) (base greatest : Binary64) (attempt : Nat)
    (entropy : Entropy) :
    policy.rawDrawing? base greatest attempt entropy.draw =
      some (policy.rawMillis base greatest attempt entropy).1 := by
  rw [rawDrawing?, rawMillis]
  cases policy.strategy with
  | fixed | linear | exponential => rfl
  | exponentialJitter =>
    dsimp only
    split <;> rfl
  | random =>
    dsimp only
    split <;> rfl

/-- With a stream of words for a source, the delay is that of the stream. -/
theorem delayDrawing?_draw (policy : RetryPolicy) (attempt : Nat) (entropy : Entropy) :
    policy.delayDrawing? attempt entropy.draw = some (policy.delay attempt entropy).1 := by
  rw [delayDrawing?, rawDrawing?_draw]
  rfl

end RetryPolicy

/-! ## Bounds -/

/-- A length of whole milliseconds, so many that binary64 can tell them all apart. -/
def Duration.FitsNumber (duration : Duration) : Prop :=
  ∃ millis < 2 ^ 53, duration = .ofMillis millis

namespace Duration

theorem FitsNumber.millis_lt {duration : Duration} (fits : duration.FitsNumber) :
    duration.millis < 2 ^ 53 := by
  obtain ⟨millis, small, rfl⟩ := fits
  rwa [millis_ofMillis]

theorem FitsNumber.ofMillis_millis {duration : Duration} (fits : duration.FitsNumber) :
    ofMillis duration.millis = duration := by
  obtain ⟨millis, small, rfl⟩ := fits
  rw [millis_ofMillis]

theorem ofMillis_le_ofMillis {m n : Nat} : ofMillis m ≤ ofMillis n ↔ m ≤ n :=
  Nat.mul_le_mul_right_iff (by decide)

end Duration

namespace RetryPolicy

/-- A delay within the bounds of a policy. -/
def Allows (policy : RetryPolicy) (delay : Duration) : Prop :=
  if policy.strategy = .random then
    if policy.baseDelay ≤ policy.maxDelay then
      policy.baseDelay ≤ delay ∧ delay ≤ policy.maxDelay
    else delay = policy.baseDelay
  else delay ≤ policy.maxDelay

variable {policy : RetryPolicy} {base greatest : Binary64} {attempt n : Nat} {draw : Draw}

/-! ### Strategies that are cut -/

/-- What is cut at a small number of milliseconds is not longer. -/
theorem toWord64_minimum_le (raw : Binary64) (small : n < 2 ^ 53) :
    ((raw.minimum (.ofNat n)).maximum 0).toWord64 ≤ n := by
  have number : (Binary64.ofNat n).isNaN = false := by
    rw [Binary64.ofNat_of_lt small]
    rfl
  have cut := Binary64.toWord64_mono (Binary64.le_minimum raw number)
  rw [Binary64.toWord64_maximum_zero]
  rwa [Binary64.ofNat_of_lt small, Binary64.toWord64_natural small,
    ← Binary64.ofNat_of_lt small] at cut

/-- A share above zero is drawn around zero by any source that keeps to its bounds. -/
theorem exists_shift {jitter : Binary64} (faithful : draw.IsFaithful) (proper : jitter.IsProper)
    (share : jitter.IsShare) (above : Binary64.lt 0 jitter = true) :
    ∃ shift, draw (-jitter) jitter = some shift := by
  match jitter with
  | .nan | .infinity _ => cases share.1
  | .finite true units =>
    rw [Binary64.zero_eq, Binary64.lt_finite_iff] at above
    have negative : (0 : Int) < -(units : Int) := above
    omega
  | .finite false units =>
    -- a share is one at most, so the bounds are two apart at most
    have atMostOne : units ≤ Binary64.unitsPerOne := Int.ofNat_le.1 share.2.2
    have order : (Binary64.finite true units).le (.finite false units) = true := by
      rw [Binary64.le_finite_iff]
      simp only [Binary64.signedUnits]
      omega
    have two : Binary64.OnGrid (2 * Binary64.unitsPerOne) :=
      (Binary64.onGrid_of_lt (by decide)).mul_unitsPerOne
    have reaches : (Binary64.finite false units - .finite true units).isFinite = true := by
      refine Binary64.isFinite_sub two (Binary64.natural_lt_unitsLimit (by decide)) ?_
      simp only [Binary64.signedUnits]
      omega
    obtain ⟨shift, drawn, -⟩ := faithful (.finite true units) _ proper proper order reaches
    exact ⟨shift, drawn⟩

/-- The strategies that are cut ask for no numbers but those around zero. -/
theorem exists_rawDrawing? (cut : policy.strategy ≠ .random) (faithful : draw.IsFaithful)
    (jitter : policy.jitter = .nan ∨ policy.jitter.IsProper ∧ policy.jitter.IsShare)
    (base greatest : Binary64) (attempt : Nat) :
    ∃ raw, policy.rawDrawing? base greatest attempt draw = some raw := by
  rw [rawDrawing?]
  cases strategy : policy.strategy with
  | fixed | linear | exponential => exact ⟨_, rfl⟩
  | random => exact absurd strategy cut
  | exponentialJitter =>
    dsimp only
    split
    · rename_i above
      rcases jitter with none | ⟨proper, share⟩
      · rw [none, Binary64.zero_eq] at above
        cases above
      · obtain ⟨shift, drawn⟩ := exists_shift faithful proper share above
        exact ⟨_, by rw [drawn, Option.map_some]⟩
    · exact ⟨_, rfl⟩

theorem exists_delay_le (cut : policy.strategy ≠ .random) (fits : policy.maxDelay.FitsNumber)
    (faithful : draw.IsFaithful)
    (jitter : policy.jitter = .nan ∨ policy.jitter.IsProper ∧ policy.jitter.IsShare)
    (attempt : Nat) :
    ∃ delay, policy.delayDrawing? attempt draw = some delay ∧ delay ≤ policy.maxDelay := by
  obtain ⟨raw, computed⟩ := exists_rawDrawing? cut faithful jitter
    (.ofNat policy.baseDelay.millis) (.ofNat policy.maxDelay.millis) (max attempt 1)
  have bounded : policy.strategy.isBounded = true := decide_eq_true cut
  refine ⟨.ofMillis ((raw.minimum (.ofNat policy.maxDelay.millis)).maximum 0).toWord64, ?_, ?_⟩
  · rw [delayDrawing?]
    dsimp only
    rw [computed, Option.map_some, bounded, if_pos rfl]
  · have millis := toWord64_minimum_le raw fits.millis_lt
    rw [← Duration.ofMillis_le_ofMillis, fits.ofMillis_millis] at millis
    exact millis

/-! ### Random delays -/

theorem delayDrawing?_random (random : policy.strategy = .random) {raw : Binary64}
    (computed : policy.rawDrawing? (.ofNat policy.baseDelay.millis)
      (.ofNat policy.maxDelay.millis) (max attempt 1) draw = some raw) :
    policy.delayDrawing? attempt draw = some (.ofMillis raw.toWord64) := by
  have unbounded : policy.strategy.isBounded = false := decide_eq_false (not_not_intro random)
  rw [delayDrawing?]
  dsimp only
  rw [computed, Option.map_some, unbounded, if_neg Bool.false_ne_true,
    Binary64.toWord64_maximum_zero]

/-- Small natural numbers are bounds that can be drawn between. -/
theorem exists_between {m n : Nat} (faithful : draw.IsFaithful) (small : n < 2 ^ 53) (le : m ≤ n) :
    ∃ x, draw (.ofNat m) (.ofNat n) = some x ∧ m ≤ x.toWord64 ∧ x.toWord64 ≤ n := by
  have smaller : m < 2 ^ 53 := Nat.lt_of_le_of_lt le small
  have units := Nat.mul_le_mul_right Binary64.unitsPerOne le
  have order : (Binary64.finite false (m * Binary64.unitsPerOne)).le
      (.finite false (n * Binary64.unitsPerOne)) = true :=
    Binary64.le_finite_iff.2 (Int.ofNat_le.2 units)
  -- a source is asked only for bounds with a finite distance
  have reaches : (Binary64.finite false (n * Binary64.unitsPerOne) -
      .finite false (m * Binary64.unitsPerOne)).isFinite = true := by
    refine Binary64.isFinite_sub (Binary64.isProper_natural small).1
      (Binary64.natural_lt_unitsLimit small) ?_
    simp only [Binary64.signedUnits]
    omega
  obtain ⟨x, drawn, within⟩ := faithful _ _ (Binary64.isProper_natural smaller)
    (Binary64.isProper_natural small) order reaches
  rw [Binary64.within, Bool.and_eq_true] at within
  have lower := Binary64.toWord64_mono within.1
  have upper := Binary64.toWord64_mono within.2
  rw [Binary64.toWord64_natural smaller] at lower
  rw [Binary64.toWord64_natural small] at upper
  rw [Binary64.ofNat_of_lt smaller, Binary64.ofNat_of_lt small]
  exact ⟨x, drawn, lower, upper⟩

/-- Random delays in order are drawn between the two, and the others are the base delay. -/
theorem exists_delay_between (random : policy.strategy = .random)
    (baseFits : policy.baseDelay.FitsNumber) (fits : policy.maxDelay.FitsNumber)
    (faithful : draw.IsFaithful) (attempt : Nat) :
    ∃ delay, policy.delayDrawing? attempt draw = some delay ∧
      if policy.baseDelay ≤ policy.maxDelay then
        policy.baseDelay ≤ delay ∧ delay ≤ policy.maxDelay
      else delay = policy.baseDelay := by
  have raw : policy.rawDrawing? (.ofNat policy.baseDelay.millis) (.ofNat policy.maxDelay.millis)
      (max attempt 1) draw =
        if policy.maxDelay.millis ≤ policy.baseDelay.millis then
          some (.ofNat policy.baseDelay.millis)
        else draw (.ofNat policy.baseDelay.millis) (.ofNat policy.maxDelay.millis) := by
    rw [rawDrawing?, random]
    dsimp only
    simp only [Binary64.ofNat_le_ofNat fits.millis_lt baseFits.millis_lt]
  -- without a range between the two nothing is drawn
  by_cases spread : policy.maxDelay.millis ≤ policy.baseDelay.millis
  · rw [if_pos spread] at raw
    have delay := delayDrawing?_random random raw
    rw [Binary64.ofNat_of_lt baseFits.millis_lt, Binary64.toWord64_natural baseFits.millis_lt,
      baseFits.ofMillis_millis] at delay
    refine ⟨_, delay, ?_⟩
    split
    · rename_i order
      exact ⟨Nat.le_refl _, order⟩
    · rfl
  · have le := Nat.le_of_not_le spread
    obtain ⟨x, drawn, lower, upper⟩ := exists_between faithful fits.millis_lt le
    rw [if_neg spread, drawn] at raw
    refine ⟨_, delayDrawing?_random random raw, ?_⟩
    rw [← Duration.ofMillis_le_ofMillis] at le lower upper
    rw [baseFits.ofMillis_millis] at le lower
    rw [fits.ofMillis_millis] at le upper
    rw [if_pos le]
    exact ⟨lower, upper⟩

/-! ### All strategies -/

/-- Delays of whole milliseconds keep to the bounds of their policy, whatever the multiplier is, with
a jitter factor from zero to one or none at all, after any attempt. That is so with any source of
random numbers that keeps to its own bounds, which is never asked for others, and so with any stream
of words. -/
theorem delay_bounded (policy : RetryPolicy) (baseFits : policy.baseDelay.FitsNumber)
    (fits : policy.maxDelay.FitsNumber)
    (jitter : policy.jitter = .nan ∨ policy.jitter.IsProper ∧ policy.jitter.IsShare)
    (attempt : Nat) :
    (∀ draw : Draw, draw.IsFaithful →
      ∃ delay, policy.delayDrawing? attempt draw = some delay ∧ policy.Allows delay) ∧
    ∀ entropy, policy.Allows (policy.delay attempt entropy).1 := by
  have drawing (draw : Draw) (faithful : draw.IsFaithful) :
      ∃ delay, policy.delayDrawing? attempt draw = some delay ∧ policy.Allows delay := by
    by_cases random : policy.strategy = .random
    · obtain ⟨delay, drawn, between⟩ :=
        exists_delay_between random baseFits fits faithful attempt
      refine ⟨delay, drawn, ?_⟩
      rwa [Allows, if_pos random]
    · obtain ⟨delay, drawn, le⟩ := exists_delay_le random fits faithful jitter attempt
      refine ⟨delay, drawn, ?_⟩
      rwa [Allows, if_neg random]
  refine ⟨drawing, fun entropy => ?_⟩
  obtain ⟨delay, drawn, allowed⟩ := drawing entropy.draw entropy.isFaithful_draw
  rw [delayDrawing?_draw] at drawn
  rwa [Option.some.inj drawn]

/-- An infinite multiplier with a source that always draws the lower bound, and random delays with a
stream of words. -/
theorem delay_bounded_extremes :
    let lowest : Draw := fun low _ => some low
    let endless : RetryPolicy :=
      { multiplier := .infinity false, strategy := .exponentialJitter }
    let spread : RetryPolicy := { strategy := .random }
    lowest.IsFaithful ∧
      (∃ delay, endless.delayDrawing? 0 lowest = some delay ∧ delay ≤ .ofSeconds 30) ∧
      .ofSeconds 1 ≤ (spread.delay 7 default).1 ∧ (spread.delay 7 default).1 ≤ .ofSeconds 30 := by
  intro lowest endless spread
  have faithful : lowest.IsFaithful := by
    intro low high _ _ le _
    have number : low.isNaN = false := by
      cases low with
      | nan => cases le
      | infinity _ | finite _ _ => rfl
    refine ⟨low, rfl, ?_⟩
    rw [Binary64.within, Bool.and_eq_true]
    exact ⟨Binary64.le_refl_of_number number, le⟩
  have second : Duration.FitsNumber (.ofSeconds 1) := ⟨1000, by decide, by decide⟩
  have longest : Duration.FitsNumber (.ofSeconds 30) := ⟨30000, by decide, by decide⟩
  have share : (0.1 : Binary64).IsShare := by decide +kernel
  have proper : (0.1 : Binary64).IsProper := Binary64.isProper_ofUnits _ _ _
  obtain ⟨delay, drawn, allowed⟩ :=
    (delay_bounded endless second longest (.inr ⟨proper, share⟩) 0).1 lowest faithful
  have between := (delay_bounded spread second longest (.inr ⟨proper, share⟩) 7).2 default
  rw [Allows, if_neg (by decide)] at allowed
  rw [Allows, if_pos rfl, if_pos (by decide)] at between
  exact ⟨faithful, ⟨delay, drawn, allowed⟩, between⟩

end RetryPolicy

end Resilience
