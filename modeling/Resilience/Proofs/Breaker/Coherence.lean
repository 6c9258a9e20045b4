import Resilience.Proofs.Breaker.Agreement

/-!
# Windows are coherent

A window has its counters and instants in every state of the circuit, although each of them means
something in some states only: calls and failures while it is closed, successful probes while it is
half-open, and the last failure while it is open. Whatever is asked of a breaker, and in whatever
order, the counters that mean nothing are zero, and an open circuit has its last failure at the
beginning of its window. In particular a half-open circuit closes with the last of the probes that
it takes, so that it never turns a call away for want of another probe.

## Main definitions

* `Window.Coherent` — the fields of a window fit the state of its circuit

## Main statements

* `Breaker.Coherent.perform`, `Breaker.coherent_replay` — every request keeps a window coherent
* `Breaker.probes_never_spent` — the counters and instants of each state, and who is turned away
-/

namespace Resilience

namespace Window

/-- The fields of a window fit the state of its circuit, which closes after the permitted number of
probes. -/
structure Coherent (window : Window) (permitted : UInt32) : Prop where
  /-- Calls and failures are counted while the circuit is closed. -/
  counts : window.circuit ≠ .closed → window.failures = 0 ∧ window.calls = 0
  /-- Probes are counted while it is half-open. -/
  probes : window.circuit ≠ .halfOpen → window.successes = 0
  unspent : window.circuit = .halfOpen → window.successes < permitted
  /-- The failure that opens a circuit begins a window. -/
  anchored : window.circuit = .opened → window.lastFailureAt = some window.startedAt

variable {window : Window} {permitted : UInt32} {circuit : Circuit} {now : Instant}

/-- A state is entered with all counters at zero, and the open one with a failure. -/
theorem coherent_enter (positive : 1 ≤ permitted)
    (failed : circuit = .opened → window.lastFailureAt = some now) :
    (window.enter circuit now).Coherent permitted where
  counts _ := ⟨rfl, rfl⟩
  probes _ := rfl
  unspent _ := UInt32.lt_of_lt_of_le UInt32.zero_lt_one positive
  anchored := failed

theorem coherent_started (now : Instant) : ({ startedAt := now } : Window).Coherent permitted where
  counts away := absurd rfl away
  probes _ := rfl
  unspent halfOpen := nomatch halfOpen
  anchored opened := nomatch opened

@[simp] theorem count_successes (outcome : Outcome) (size : Duration) :
    (window.count outcome size).successes = window.successes := by
  unfold count roll
  split <;> split <;> rfl

/-- A closed circuit counts no probes. -/
theorem Coherent.count (coherent : window.Coherent permitted) (closed : window.circuit = .closed)
    (outcome : Outcome) (size : Duration) : (window.count outcome size).Coherent permitted := by
  have still : (window.count outcome size).circuit = .closed :=
    (window.count_circuit outcome).trans closed
  refine ⟨fun away => absurd still away, fun _ => ?_, fun halfOpen => ?_, fun opened => ?_⟩
  · rw [count_successes]
    exact coherent.probes (by rw [closed]; decide)
  · cases still.symm.trans halfOpen
  · cases still.symm.trans opened

end Window

namespace Breaker

/-- The window of a breaker is coherent. -/
def Coherent (breaker : Breaker) : Prop := breaker.window.Coherent breaker.config.permittedProbes

variable {breaker : Breaker} {now : Instant} {circuit : Circuit}

/-! ## What every request keeps -/

theorem coherent_move (positive : 1 ≤ breaker.config.permittedProbes)
    (failed : circuit = .opened → breaker.window.lastFailureAt = some now) :
    (breaker.move circuit now).breaker.Coherent :=
  Window.coherent_enter positive failed

theorem coherent_force (positive : 1 ≤ breaker.config.permittedProbes) :
    (breaker.force circuit now).breaker.Coherent := by
  have entered : (if circuit = .opened then
      { breaker.window.enter circuit now with lastFailureAt := some now }
      else breaker.window.enter circuit now).Coherent breaker.config.permittedProbes := by
    split
    · -- the instant of the last failure may as well be noted before the state is entered
      let window := { breaker.window with lastFailureAt := some now }
      have noted : (window.enter circuit now).Coherent breaker.config.permittedProbes :=
        Window.coherent_enter positive fun _ => rfl
      exact noted
    · exact Window.coherent_enter positive fun opened => absurd opened ‹_›
  unfold force
  dsimp only
  split <;> exact entered

namespace Coherent

theorem acquire (coherent : breaker.Coherent) (positive : 1 ≤ breaker.config.permittedProbes) :
    (breaker.acquire now).2.breaker.Coherent := by
  rcases breaker.acquire_cases now with ⟨totals, same⟩ | ⟨-, enters⟩
  · rw [same]
    exact coherent
  · rw [enters]
    exact coherent_move positive nofun

theorem recordSuccess (coherent : breaker.Coherent)
    (positive : 1 ≤ breaker.config.permittedProbes) :
    (breaker.recordSuccess now).breaker.Coherent := by
  cases circuit : breaker.circuit with
  | closed =>
    rw [recordSuccess_of_closed circuit]
    exact Window.Coherent.count coherent circuit ⟨now, false⟩ breaker.config.windowSize
  | opened =>
    rw [recordSuccess_of_opened circuit]
    exact coherent
  | halfOpen =>
    rw [recordSuccess_of_halfOpen circuit]
    split
    · exact coherent_move positive nofun
    · -- one probe more, which is not yet the last
      rename_i more
      exact
        { counts := coherent.counts
          probes := fun away => absurd circuit away
          unspent := fun _ => UInt32.not_le.1 more
          anchored := coherent.anchored }

theorem countFailure (coherent : breaker.Coherent)
    (positive : 1 ≤ breaker.config.permittedProbes) :
    (breaker.countFailure now).breaker.Coherent := by
  cases circuit : breaker.circuit with
  | closed =>
    rw [countFailure_of_closed circuit]
    dsimp only
    split
    · exact coherent_move positive fun _ => rfl
    · exact Window.Coherent.count coherent circuit ⟨now, true⟩ breaker.config.windowSize
  | opened =>
    rw [countFailure_of_opened circuit]
    exact coherent
  | halfOpen =>
    rw [countFailure_of_halfOpen circuit]
    exact coherent_move positive fun _ => rfl

/-- Every request keeps a window coherent, whenever it is made. -/
theorem perform (coherent : breaker.Coherent) (positive : 1 ≤ breaker.config.permittedProbes)
    (now : Instant) (request : BreakerRequest) :
    (breaker.perform now request).breaker.Coherent := by
  cases request with
  | acquire => exact coherent.acquire positive
  | success => exact coherent.recordSuccess positive
  | fault reported =>
    simp only [Breaker.perform, recordFault]
    split
    · -- the totals are no part of the window
      have counted : { breaker with totals := breaker.totals.addFailure }.Coherent := coherent
      exact counted.countFailure positive
    · exact coherent
  | timeout =>
    have counted : { breaker with totals := breaker.totals.addTimeout }.Coherent := coherent
    exact counted.countFailure positive
  | inspect => exact coherent
  | reset => exact Window.coherent_started now
  | forceOpen => exact coherent_force positive
  | forceClosed => exact coherent_force positive
  | startProbing =>
    simp only [Breaker.perform, startProbing]
    split
    · exact coherent_move positive fun opened => by cases opened
    · exact coherent

end Coherent

/-- The window of a breaker is coherent after any history. -/
theorem coherent_replay (coherent : breaker.Coherent)
    (positive : 1 ≤ breaker.config.permittedProbes) (history : List TimedRequest) :
    (breaker.replay history).Coherent := by
  induction history with
  | nil => exact coherent
  | cons last earlier ih =>
    exact ih.perform (by rw [replay_config]; exact positive) last.instant last.request

/-! ## Who is turned away -/

/-- A half-open circuit admits every call, and this changes nothing. -/
theorem Coherent.acquire_of_halfOpen (coherent : breaker.Coherent)
    (halfOpen : breaker.circuit = .halfOpen) (now : Instant) :
    breaker.acquire now = (.ok (), { breaker }) := by
  simp only [Breaker.acquire, admission, halfOpen, if_pos (coherent.unspent halfOpen)]

/-- The other reasons to turn a call away are told in other words. -/
theorem eq_probesSpent_of_hint {denial : Denial} (told : denial.hint = "Probe budget exhausted") :
    denial = .probesSpent := by
  unfold Denial.hint at told
  cases denial with
  | probesSpent => rfl
  | manual => simp at told
  | waiting remaining =>
    have first := congrArg (fun text : String => text.toList.head?) told
    simp at first

theorem acquire_fst (breaker : Breaker) (now : Instant) :
    (breaker.acquire now).1 = (breaker.admission now).map fun _ => () := by
  rw [Breaker.acquire]
  cases breaker.admission now with
  | error denial => rfl
  | ok entered => cases entered <;> rfl

/-- Probes are spent while the circuit is half-open only. -/
theorem halfOpen_of_probesSpent (spent : breaker.admission now = .error .probesSpent) :
    breaker.circuit = .halfOpen := by
  cases circuit : breaker.circuit with
  | halfOpen => rfl
  | closed =>
    simp only [admission, circuit] at spent
    cases spent
  | opened =>
    simp only [admission, circuit] at spent
    split at spent
    · split at spent <;> cases spent
    · cases spent

/-- After any history of a breaker that takes a probe at least, every counter that means nothing in
the present state is zero. Failures are calls, as long as the counters of the window do not wrap.
While the circuit is half-open, fewer probes have succeeded than it takes, and every call is
admitted, so that nobody is told that the probes are spent. While it is open, the last failure is
there, and came when the window began. -/
theorem probes_never_spent (name : String) (config : BreakerConfig) (begun : Instant)
    (history : List TimedRequest) (positive : 1 ≤ config.permittedProbes) :
    let fresh := start name config begun
    let breaker := fresh.replay history
    let window := breaker.window
    (Chronological begun history →
        ((fresh.stay begun history).records config.windowSize).length < 2 ^ 32 →
        window.failures ≤ window.calls) ∧
      (breaker.circuit ≠ .closed → window.failures = 0 ∧ window.calls = 0) ∧
      (breaker.circuit ≠ .halfOpen → window.successes = 0) ∧
      (breaker.circuit = .halfOpen →
        window.successes < config.permittedProbes ∧
          ∀ now, breaker.acquire now = (.ok (), { breaker })) ∧
      (∀ now denial, (breaker.acquire now).1 = .error denial →
        denial.hint ≠ "Probe budget exhausted") ∧
      (breaker.circuit = .opened → window.lastFailureAt = some window.startedAt) := by
  intro fresh breaker window
  have same : breaker.config = config := fresh.replay_config history
  have started : fresh.Coherent := Window.coherent_started begun
  have coherent : breaker.Coherent := coherent_replay started positive history
  refine ⟨fun ordered few => ?_, coherent.counts, coherent.probes, fun halfOpen => ⟨?_, ?_⟩,
    fun now denial denied told => ?_, coherent.anchored⟩
  · -- only a closed circuit counts, and its counters are those of the records in the window
    by_cases closed : breaker.circuit = .closed
    · have tallies := (agrees_replay name config ordered).closed closed
      exact tallies.failures_le_calls (by rw [replay_config]; exact few)
    · obtain ⟨failures, calls⟩ := coherent.counts closed
      rw [failures, calls]
      exact UInt32.le_refl 0
  · rw [← same]
    exact coherent.unspent halfOpen
  · exact coherent.acquire_of_halfOpen halfOpen
  -- the hint tells this denial from the others, and the half-open circuit denies nobody
  · obtain rfl := eq_probesSpent_of_hint told
    have spent : breaker.admission now = .error .probesSpent := by
      rw [acquire_fst] at denied
      cases admission : breaker.admission now with
      | ok entered =>
        rw [admission] at denied
        cases denied
      | error denial =>
        rw [admission] at denied
        injection denied with same
        rw [same]
    have admitted := coherent.acquire_of_halfOpen (halfOpen_of_probesSpent spent) now
    rw [admitted] at denied
    cases denied

/-- A circuit that takes two probes still admits calls after the first of them has succeeded. -/
theorem probes_never_spent_after_one :
    let config : BreakerConfig :=
      { minimumCalls := 1, countThreshold := 1, openWait := ⟨20⟩, permittedProbes := 2 }
    let history : List TimedRequest := [⟨31, .success⟩, ⟨30, .acquire⟩, ⟨10, .timeout⟩]
    let fresh := start "payments" config 0
    let breaker := fresh.replay history
    1 ≤ config.permittedProbes ∧ Chronological 0 history ∧
      ((fresh.stay 0 history).records config.windowSize).length < 2 ^ 32 ∧
      breaker.window.failures ≤ breaker.window.calls ∧ breaker.circuit = .halfOpen ∧
      breaker.window.successes = 1 ∧ breaker.acquire 31 = (.ok (), { breaker }) := by
  intro config history fresh breaker
  have positive : 1 ≤ config.permittedProbes := by decide
  have ordered : Chronological 0 history := by decide
  have few : ((fresh.stay 0 history).records config.windowSize).length < 2 ^ 32 := by
    decide +kernel
  have halfOpen : breaker.circuit = .halfOpen := by decide +kernel
  obtain ⟨failures, -, -, probing, -⟩ := probes_never_spent "payments" config 0 history positive
  have first : breaker.window.successes = 1 := by decide +kernel
  have counted : breaker.window.failures ≤ breaker.window.calls := by
    simpa only [breaker, fresh] using failures ordered few
  exact ⟨positive, ordered, few, counted, halfOpen, first, (probing halfOpen).2 31⟩

end Breaker

end Resilience
