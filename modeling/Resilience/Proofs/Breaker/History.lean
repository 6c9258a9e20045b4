import Resilience.Breaker.Basic

/-!
# Histories of circuit breakers

A breaker does nothing by itself: it answers requests for admission, is told the results of calls
and obeys manual control. A history lists these requests with the instants at which they were made,
the latest one first, and determines the breaker that has seen them.

A breaker *enters* a state when its state changes, and also when manual control puts it into the
state it is in already, since that begins a new window. The stay of a breaker in its state is what
a history tells about the time since: the instant of the entry and the results reported after it.

## Main definitions

* `BreakerRequest`, `TimedRequest` — what is asked of a breaker, and when
* `Breaker.perform`, `Breaker.replay` — what requests do to a breaker
* `Breaker.transitions` — the transitions that a history reports
* `Outcome`, `BreakerRequest.outcome?` — the results that a breaker counts
* `Stay`, `Breaker.stay` — the entry into the present state and the results since then

## Main statements

* `Breaker.replay_config`, `Breaker.replay_name` — no request changes the configuration
-/

namespace Resilience

/-- What is asked of a breaker. A guarded call asks for admission when it begins, and reports its
result when it ends. -/
inductive BreakerRequest where
  | acquire
  | success
  | fault (fault : Fault)
  | timeout
  /-- Reads the state or the metrics. -/
  | inspect
  | reset
  | forceOpen
  | forceClosed
  | startProbing

/-- A request with the instant at which it is made. -/
structure TimedRequest where
  instant : Instant
  request : BreakerRequest

/-- A result that a breaker counts. -/
structure Outcome where
  instant : Instant
  failed : Bool
  deriving DecidableEq

/-- The entry of a breaker into its state, and the counted results since then, the latest first. -/
structure Stay where
  since : Instant
  outcomes : List Outcome := []

namespace BreakerRequest

/-- Whether a request is manual control. -/
def isControl : BreakerRequest → Bool
  | reset | forceOpen | forceClosed | startProbing => true
  | acquire | success | fault _ | timeout | inspect => false

/-- Whether a request makes a breaker enter a state even if it is the present one. -/
def restarts : BreakerRequest → Bool
  | reset | forceOpen | forceClosed => true
  | acquire | success | fault _ | timeout | inspect | startProbing => false

/-- The result that a request reports, unless the filter does not count it. -/
def outcome? (config : BreakerConfig) (now : Instant) : BreakerRequest → Option Outcome
  | success => some ⟨now, false⟩
  | fault reported => if config.filter.counts reported then some ⟨now, true⟩ else none
  | timeout => some ⟨now, true⟩
  | acquire | inspect | reset | forceOpen | forceClosed | startProbing => none

end BreakerRequest

namespace Breaker

/-- What a request does to a breaker. -/
def perform (breaker : Breaker) (now : Instant) : BreakerRequest → Change
  | .acquire => (breaker.acquire now).2
  | .success => breaker.recordSuccess now
  | .fault fault => breaker.recordFault fault now
  | .timeout => breaker.recordTimeout now
  | .inspect => { breaker }
  | .reset => breaker.reset now
  | .forceOpen => breaker.force .opened now
  | .forceClosed => breaker.force .closed now
  | .startProbing => breaker.startProbing now

/-- The breaker after a history. -/
def replay (breaker : Breaker) : List TimedRequest → Breaker
  | [] => breaker
  | ⟨now, request⟩ :: earlier => ((breaker.replay earlier).perform now request).breaker

/-- The transitions of a history, the latest first. -/
def transitions (breaker : Breaker) : List TimedRequest → List Transition
  | [] => []
  | ⟨now, request⟩ :: earlier =>
    ((breaker.replay earlier).perform now request).transition.toList ++
      breaker.transitions earlier

/-- The stay of a breaker in its state after a history that begins at `begun`. -/
def stay (breaker : Breaker) (begun : Instant) : List TimedRequest → Stay
  | [] => ⟨begun, []⟩
  | ⟨now, request⟩ :: earlier =>
    if request.restarts ∨
        ((breaker.replay earlier).perform now request).breaker.circuit ≠
          (breaker.replay earlier).circuit then
      ⟨now, []⟩
    else
      let stay := breaker.stay begun earlier
      ⟨stay.since, (request.outcome? breaker.config now).toList ++ stay.outcomes⟩

/-- A history in which the clock, started at `begun`, never goes back. -/
def Chronological (begun : Instant) : List TimedRequest → Prop
  | [] => True
  | [first] => begun ≤ first.instant
  | later :: earlier :: rest =>
    earlier.instant ≤ later.instant ∧ Chronological begun (earlier :: rest)

instance decidableChronological (begun : Instant) :
    (history : List TimedRequest) → Decidable (Chronological begun history)
  | [] => .isTrue trivial
  | [first] => inferInstanceAs (Decidable (begun ≤ first.instant))
  | later :: earlier :: rest =>
    @instDecidableAnd (earlier.instant ≤ later.instant) _ inferInstance
      (decidableChronological begun (earlier :: rest))

variable (breaker : Breaker) (begun now : Instant)

/-! ## What no request changes -/

@[simp] theorem move_circuit (circuit : Circuit) :
    (breaker.move circuit now).breaker.circuit = circuit := rfl

theorem acquire_fixed :
    (breaker.acquire now).2.breaker.config = breaker.config ∧
      (breaker.acquire now).2.breaker.name = breaker.name := by
  unfold acquire
  split <;> exact ⟨rfl, rfl⟩

theorem recordSuccess_fixed :
    (breaker.recordSuccess now).breaker.config = breaker.config ∧
      (breaker.recordSuccess now).breaker.name = breaker.name := by
  unfold recordSuccess
  dsimp only
  split
  · exact ⟨rfl, rfl⟩
  · split <;> exact ⟨rfl, rfl⟩
  · exact ⟨rfl, rfl⟩

theorem countFailure_fixed :
    (breaker.countFailure now).breaker.config = breaker.config ∧
      (breaker.countFailure now).breaker.name = breaker.name := by
  unfold countFailure
  dsimp only
  split
  · split <;> exact ⟨rfl, rfl⟩
  · exact ⟨rfl, rfl⟩
  · exact ⟨rfl, rfl⟩

theorem force_fixed (circuit : Circuit) :
    (breaker.force circuit now).breaker.config = breaker.config ∧
      (breaker.force circuit now).breaker.name = breaker.name := by
  unfold force
  dsimp only
  split <;> exact ⟨rfl, rfl⟩

theorem perform_fixed (request : BreakerRequest) :
    (breaker.perform now request).breaker.config = breaker.config ∧
      (breaker.perform now request).breaker.name = breaker.name := by
  cases request with
  | acquire => exact breaker.acquire_fixed now
  | success => exact breaker.recordSuccess_fixed now
  | fault fault =>
    simp only [perform, recordFault]
    split
    · exact countFailure_fixed _ now
    · exact ⟨rfl, rfl⟩
  | timeout => exact countFailure_fixed _ now
  | inspect => exact ⟨rfl, rfl⟩
  | reset => exact ⟨rfl, rfl⟩
  | forceOpen => exact breaker.force_fixed now .opened
  | forceClosed => exact breaker.force_fixed now .closed
  | startProbing =>
    simp only [perform, startProbing]
    split <;> exact ⟨rfl, rfl⟩

theorem replay_cons (request : BreakerRequest) (earlier : List TimedRequest) :
    breaker.replay (⟨now, request⟩ :: earlier) =
      ((breaker.replay earlier).perform now request).breaker := rfl

@[simp] theorem replay_config (history : List TimedRequest) :
    (breaker.replay history).config = breaker.config := by
  induction history with
  | nil => rfl
  | cons last earlier ih =>
    rw [replay_cons, (perform_fixed _ _ _).1, ih]

@[simp] theorem replay_name (history : List TimedRequest) :
    (breaker.replay history).name = breaker.name := by
  induction history with
  | nil => rfl
  | cons last earlier ih =>
    rw [replay_cons, (perform_fixed _ _ _).2, ih]

/-! ## Times -/

variable {begun}

theorem Chronological.tail {last : TimedRequest} {earlier : List TimedRequest}
    (ordered : Chronological begun (last :: earlier)) : Chronological begun earlier := by
  cases earlier with
  | nil => trivial
  | cons _ _ => exact ordered.2

end Breaker

end Resilience
