import Resilience.Counter.Basic

/-!
# Timed histories

What a counter is asked comes with the instant at which it is asked, exact to the nanosecond. In a
history the latest request comes first, and the clock never goes back. Timers are not that exact:
sweepers tick at whole milliseconds.

## Main definitions

* `Timed` — a request with its instant
* `latestInstant`, `Onward` — the end of a history, and histories in which the clock never goes back
* `Ledger.awaiting` — what becomes of a ledger between two requests
-/

namespace Resilience

/-- A request with its instant. -/
structure Timed (α : Type) where
  instant : Instant
  request : α
  deriving DecidableEq

variable {α : Type} {begun : Instant}

/-- The instant of the latest request of a history that begins at `begun`, the latest one first. -/
def latestInstant (begun : Instant) : List (Timed α) → Instant
  | [] => begun
  | last :: _ => last.instant

/-- A history in which the clock, started at `begun`, never goes back. -/
def Onward (begun : Instant) : List (Timed α) → Prop
  | [] => True
  | last :: earlier => latestInstant begun earlier ≤ last.instant ∧ Onward begun earlier

instance decidableOnward (begun : Instant) :
    (history : List (Timed α)) → Decidable (Onward begun history)
  | [] => .isTrue trivial
  | last :: earlier =>
    @instDecidableAnd (latestInstant begun earlier ≤ last.instant) _ inferInstance
      (decidableOnward begun earlier)

/-- The clock has reached the instant of every request. -/
theorem Onward.instant_le {since past : List (Timed α)} {timed : Timed α}
    (onward : Onward begun (since ++ timed :: past)) :
    timed.instant ≤ latestInstant begun (since ++ timed :: past) := by
  induction since with
  | nil => exact Nat.le_refl _
  | cons last since ih => exact Nat.le_trans (ih onward.2) onward.1

/-- The last whole millisecond up to an instant. -/
def Instant.wholeMillis (instant : Instant) : Instant :=
  .ofMillis (instant / Duration.nanosPerMilli)

namespace Instant

variable (instant : Instant)

theorem wholeMillis_le : instant.wholeMillis ≤ instant :=
  Nat.div_mul_le_self instant Duration.nanosPerMilli

theorem wholeMillis_mono {before after : Instant} (passed : before ≤ after) :
    wholeMillis before ≤ wholeMillis after :=
  Nat.mul_le_mul_right _ (Nat.div_le_div_right passed)

/-- A whole millisecond that has been reached is no later than the last one. -/
theorem ofMillis_le_wholeMillis {millis : Nat} (reached : ofMillis millis ≤ instant) :
    ofMillis millis ≤ instant.wholeMillis :=
  Nat.mul_le_mul_right _ ((Nat.le_div_iff_mul_le (by decide)).2 reached)

end Instant

/-- The ledger when a request is made: since the request before it, the sweepers have ticked at whole
milliseconds. -/
def Ledger.awaiting (before now : Instant) (ledger : Ledger) : Ledger :=
  ledger.elapse before.wholeMillis now.wholeMillis

end Resilience
