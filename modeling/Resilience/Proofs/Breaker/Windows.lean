import Resilience.Proofs.Breaker.History
import Mathlib.Data.List.Basic

/-!
# The windows of a stay

While the circuit is closed, results fall into windows. A window begins with the stay in the closed
state, and anew with the first result that comes later than the size of a window after its
beginning. The counters of a window are the number of its results and the number of failures at its
end, up to the wrapping of 32-bit words.

## Main definitions

* `windowStart` — the beginning of the window in which the latest of some results lies
* `Stay.records`, `Stay.failures` — the results of the current window, and the failures since its
  last success
* `Window.count` — what a result does to the counters while the circuit is closed
* `Window.Tallies` — the counters agree with the results of a stay

## Main statements

* `Window.Tallies.count` — counting a result keeps the counters in agreement
-/

namespace Resilience

/-- The beginning of the window in which the latest of some results lies, the latest first, when
the first window begins at `since`. -/
def windowStart (size : Duration) (since : Instant) : List Outcome → Instant
  | [] => since
  | last :: earlier =>
    let began := windowStart size since earlier
    if size.nanos < last.instant - began then last.instant else began

namespace Stay

/-- The results of the current window, the latest first. -/
def records (stay : Stay) (size : Duration) : List Outcome :=
  stay.outcomes.filter fun outcome => windowStart size stay.since stay.outcomes ≤ outcome.instant

/-- The failures of the current window since its last success. -/
def failures (stay : Stay) (size : Duration) : List Outcome :=
  (stay.records size).takeWhile (·.failed)

/-- The stay after one more result. -/
def add (stay : Stay) (outcome : Option Outcome) : Stay :=
  { stay with outcomes := outcome.toList ++ stay.outcomes }

/-- The results of a stay come one after the other, and none before the stay. -/
structure Ordered (stay : Stay) (latest : Instant) : Prop where
  sorted : stay.outcomes.Pairwise fun later earlier => earlier.instant ≤ later.instant
  since_le : ∀ outcome ∈ stay.outcomes, stay.since ≤ outcome.instant
  le_latest : ∀ outcome ∈ stay.outcomes, outcome.instant ≤ latest
  begun : stay.since ≤ latest

end Stay

/-! ## Windows -/

section Windows

variable {size : Duration} {since latest : Instant} {outcomes : List Outcome}

theorem windowStart_le (size : Duration) (started : since ≤ latest)
    (before : ∀ outcome ∈ outcomes, outcome.instant ≤ latest) :
    windowStart size since outcomes ≤ latest := by
  induction outcomes with
  | nil => exact started
  | cons last earlier ih =>
    simp only [windowStart]
    split
    · exact before last List.mem_cons_self
    · exact ih fun outcome member => before outcome (List.mem_cons_of_mem last member)

/-- The latest result lies in the window it is counted in. -/
theorem sub_windowStart_le (size : Duration) (since : Instant) (last : Outcome)
    (earlier : List Outcome) :
    last.instant - windowStart size since (last :: earlier) ≤ size.nanos := by
  simp only [windowStart]
  split
  · simp
  · exact Nat.le_of_not_lt ‹_›

/-- A result that begins a window comes later than all results before it. -/
theorem lt_of_rolls {last : Outcome}
    (sorted : (last :: outcomes).Pairwise fun later earlier => earlier.instant ≤ later.instant)
    (rolls : size.nanos < last.instant - windowStart size since outcomes) :
    ∀ outcome ∈ outcomes, outcome.instant < last.instant := by
  intro outcome member
  cases outcomes with
  | nil => cases member
  | cons previous earlier =>
    obtain ⟨upTo, sorted⟩ := List.pairwise_cons.1 sorted
    have fits := sub_windowStart_le size since previous earlier
    have reached : outcome.instant ≤ previous.instant := by
      rcases List.mem_cons.1 member with rfl | member
      · exact Nat.le_refl _
      · exact (List.pairwise_cons.1 sorted).1 outcome member
    refine Nat.lt_of_le_of_ne (Nat.le_trans reached (upTo previous List.mem_cons_self)) fun same => ?_
    -- a result at the instant of the last one would lie in a window that lasts until then
    have : last.instant ≤ previous.instant := by rw [← same]; exact reached
    exact absurd fits (Nat.not_le_of_lt (Nat.lt_of_lt_of_le rolls (Nat.sub_le_sub_right this _)))

end Windows

namespace Stay

variable {stay : Stay} {size : Duration} {latest now : Instant}

theorem Ordered.mono (ordered : stay.Ordered latest) (reached : latest ≤ now) :
    stay.Ordered now where
  sorted := ordered.sorted
  since_le := ordered.since_le
  le_latest outcome member := Nat.le_trans (ordered.le_latest outcome member) reached
  begun := Nat.le_trans ordered.begun reached

theorem Ordered.add (ordered : stay.Ordered now) (failed : Bool) :
    (stay.add (some ⟨now, failed⟩)).Ordered now where
  sorted := List.pairwise_cons.2 ⟨ordered.le_latest, ordered.sorted⟩
  since_le := by
    intro outcome member
    rcases List.mem_cons.1 member with rfl | member
    · exact ordered.begun
    · exact ordered.since_le outcome member
  le_latest := by
    intro outcome member
    rcases List.mem_cons.1 member with rfl | member
    · exact Nat.le_refl now
    · exact ordered.le_latest outcome member
  begun := ordered.begun

/-- A result that comes too late for the current window is the only one of the next. -/
theorem records_add_of_rolls (failed : Bool) (ordered : stay.Ordered now)
    (rolls : size.nanos < now - windowStart size stay.since stay.outcomes) :
    (stay.add (some ⟨now, failed⟩)).records size = [⟨now, failed⟩] := by
  have later := lt_of_rolls (ordered.add failed).sorted rolls
  have start : windowStart size stay.since (⟨now, failed⟩ :: stay.outcomes) = now := by
    simp only [windowStart, if_pos rolls]
  have none : stay.outcomes.filter (fun outcome => now ≤ outcome.instant) = [] := by
    refine List.filter_eq_nil_iff.2 fun outcome member => ?_
    have := later outcome member
    simpa using this
  simp only [records, Stay.add, Option.toList, List.singleton_append, start]
  rw [List.filter_cons_of_pos (by simp), none]

/-- Any other result joins the current window. -/
theorem records_add_of_fits (failed : Bool) (ordered : stay.Ordered now)
    (fits : ¬ size.nanos < now - windowStart size stay.since stay.outcomes) :
    (stay.add (some ⟨now, failed⟩)).records size = ⟨now, failed⟩ :: stay.records size := by
  have start : windowStart size stay.since (⟨now, failed⟩ :: stay.outcomes) =
      windowStart size stay.since stay.outcomes := by
    simp only [windowStart, if_neg fits]
  have began := windowStart_le size ordered.begun ordered.le_latest
  simp only [records, Stay.add, Option.toList, List.singleton_append, start]
  rw [List.filter_cons_of_pos (by simpa using began)]

end Stay

/-! ## Counting in a window -/

namespace Window

/-- Counts a result in the window in which it lies. -/
def count (window : Window) (outcome : Outcome) (size : Duration) : Window :=
  let window := window.roll outcome.instant size
  if outcome.failed then
    { window with
      calls := window.calls + 1
      failures := window.failures + 1
      lastFailureAt := some outcome.instant }
  else { window with calls := window.calls + 1, failures := 0 }

/-- The counters of a window agree with the results of a stay. -/
structure Tallies (window : Window) (stay : Stay) (size : Duration) : Prop where
  started : window.startedAt = windowStart size stay.since stay.outcomes
  calls : window.calls = UInt32.ofNat (stay.records size).length
  failures : window.failures = UInt32.ofNat (stay.failures size).length

variable {window : Window} {stay : Stay} {size : Duration} {now : Instant}

/-- A window that has just begun. -/
theorem tallies_nil (since : Instant) (calls : window.calls = 0) (failures : window.failures = 0)
    (started : window.startedAt = since) : window.Tallies ⟨since, []⟩ size :=
  ⟨started, calls, failures⟩

@[simp] theorem count_circuit (outcome : Outcome) :
    (window.count outcome size).circuit = window.circuit := by
  unfold count roll
  split <;> split <;> rfl

/-- Counting a result keeps the counters in agreement. -/
theorem Tallies.count (tallies : window.Tallies stay size) (ordered : stay.Ordered now)
    (failed : Bool) :
    (window.count ⟨now, failed⟩ size).Tallies (stay.add (some ⟨now, failed⟩)) size := by
  -- the result begins a new window, or is one more in the present one
  by_cases rolls : size.nanos < now - windowStart size stay.since stay.outcomes
  · have rolled : window.roll now size = { window with calls := 0, failures := 0, startedAt := now } := by
      rw [roll, if_pos (by rw [tallies.started]; exact rolls)]
    have records := Stay.records_add_of_rolls failed ordered rolls
    have start : windowStart size stay.since (⟨now, failed⟩ :: stay.outcomes) = now := by
      simp only [windowStart, if_pos rolls]
    cases failed <;>
      exact ⟨by simp [Window.count, rolled, Stay.add, start],
        by simp [Window.count, rolled, records], by simp [Window.count, rolled, Stay.failures, records]⟩
  · have kept : window.roll now size = window := by
      rw [roll, if_neg (by rw [tallies.started]; exact rolls)]
    have records := Stay.records_add_of_fits failed ordered rolls
    have start : windowStart size stay.since (⟨now, failed⟩ :: stay.outcomes) =
        windowStart size stay.since stay.outcomes := by
      simp only [windowStart, if_neg rolls]
    have failures := tallies.failures
    rw [Stay.failures] at failures
    cases failed <;>
      exact ⟨by simp [Window.count, kept, Stay.add, start, tallies.started],
        by simp [Window.count, kept, records, tallies.calls],
        by simp [Window.count, kept, Stay.failures, records, failures]⟩

/-- With fewer than `2 ^ 32` results in a window its counters do not wrap. -/
theorem Tallies.calls_toNat (tallies : window.Tallies stay size)
    (few : (stay.records size).length < 2 ^ 32) :
    window.calls.toNat = (stay.records size).length := by
  rw [tallies.calls, UInt32.toNat_ofNat', Nat.mod_eq_of_lt few]

theorem Tallies.failures_toNat (tallies : window.Tallies stay size)
    (few : (stay.records size).length < 2 ^ 32) :
    window.failures.toNat = (stay.failures size).length := by
  have fewer : (stay.failures size).length ≤ (stay.records size).length :=
    (List.takeWhile_sublist _).length_le
  rw [tallies.failures, UInt32.toNat_ofNat', Nat.mod_eq_of_lt (Nat.lt_of_le_of_lt fewer few)]

/-- Failures are calls, unless a counter has wrapped. -/
theorem Tallies.failures_le_calls (tallies : window.Tallies stay size)
    (few : (stay.records size).length < 2 ^ 32) : window.failures ≤ window.calls := by
  rw [UInt32.le_iff_toNat_le, tallies.failures_toNat few, tallies.calls_toNat few]
  exact (List.takeWhile_sublist _).length_le

/-- Whether the counters of a window open the circuit, read off its results. -/
theorem Tallies.trips_iff (config : BreakerConfig) (tallies : window.Tallies stay size)
    (few : (stay.records size).length < 2 ^ 32) (some : stay.records size ≠ []) :
    window.trips config = true ↔
      config.minimumCalls.toNat ≤ (stay.records size).length ∧
        (config.rateThreshold.le
            (Binary64.ofNat (stay.failures size).length /
              Binary64.ofNat (stay.records size).length) = true ∨
          config.countThreshold.toNat ≤ (stay.failures size).length) := by
  have calls := tallies.calls_toNat few
  have failures := tallies.failures_toNat few
  have counted : window.calls ≠ 0 := by
    intro zero
    rw [zero] at calls
    exact some (List.length_eq_zero_iff.1 calls.symm)
  rw [trips, failureRate, if_neg counted, calls, failures]
  simp [UInt32.le_iff_toNat_le, calls, failures]

end Window

end Resilience
