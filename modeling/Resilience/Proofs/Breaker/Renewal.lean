import Resilience.Breaker.Report
import Resilience.Proofs.Breaker.Agreement

/-!
# Closing makes a breaker as good as new

A circuit that closes does not forget everything. A reset replaces the window, but force and the
last successful probe only clear its counters, so that the instant of an old failure stays behind;
and the totals are never cleared. Nothing of this shows. The instant of the last failure is read
only while the circuit is open, and the circuit opens by a failure or by force, both of which
replace it.

From the outside a breaker that has just closed is therefore a new one, whatever it has been
through: it admits and denies the same calls with the same hints, makes the same transitions at the
same times and reports the same windows. Its totals are those of the new breaker on top of what it
had counted when it closed.

## Main definitions

* `Totals.plus`, `BreakerReport.continuing` — what was counted before and after some instant
* `Observation`, `Breaker.observations` — what the requests of a history show of a breaker
* `Breaker.Renews` — the requests that make a breaker begin to be closed
* `Breaker.Resembles` — two breakers that differ by their past only

## Main statements

* `Breaker.renews_iff` — nothing else makes a breaker enter the closed state
* `Breaker.Resembles.perform` — no request tells the two breakers apart
* `Breaker.as_good_as_new` — a breaker that has closed behaves as one that was made then
-/

namespace Resilience

namespace Totals

/-- Totals that were counted one after the other. -/
def plus (past recent : Totals) : Totals where
  calls := past.calls + recent.calls
  successes := past.successes + recent.successes
  failures := past.failures + recent.failures
  timeouts := past.timeouts + recent.timeouts
  rejections := past.rejections + recent.rejections
  opened := past.opened + recent.opened
  closed := past.closed + recent.closed

@[simp] theorem plus_addTransition (past recent : Totals) (circuit : Circuit) :
    past.plus (recent.addTransition circuit) = (past.plus recent).addTransition circuit := by
  cases circuit <;> rfl

end Totals

/-- The report of a breaker that had totals before. -/
def BreakerReport.continuing (report : BreakerReport) (past : Totals) : BreakerReport :=
  { report with totals := past.plus report.totals }

/-- What a request shows of a breaker. -/
structure Observation where
  /-- The answer to a request for admission. -/
  answer : Option (Except Failure Unit)
  transition : Option Transition
  /-- The state and the metrics after the request. -/
  report : BreakerReport

/-- An observation of a breaker that had totals before. -/
def Observation.continuing (observation : Observation) (past : Totals) : Observation :=
  { observation with report := observation.report.continuing past }

namespace Breaker

/-- The answer to a request for admission, with the hint of a denial. -/
def answer (breaker : Breaker) (now : Instant) : BreakerRequest → Option (Except Failure Unit)
  | .acquire => some ((breaker.acquire now).1.mapError breaker.denied)
  | .success | .fault _ | .timeout | .inspect | .reset | .forceOpen | .forceClosed
  | .startProbing => none

def observe (breaker : Breaker) (now : Instant) (request : BreakerRequest) : Observation where
  answer := breaker.answer now request
  transition := (breaker.perform now request).transition
  report := (breaker.perform now request).breaker.report

/-- What a history shows of a breaker, the latest observation first. -/
def observations (breaker : Breaker) : List TimedRequest → List Observation
  | [] => []
  | ⟨now, request⟩ :: earlier =>
    (breaker.replay earlier).observe now request :: breaker.observations earlier

/-- The requests that make a breaker enter the closed state, or begin it anew. -/
inductive Renews (breaker : Breaker) : BreakerRequest → Prop
  | reset : breaker.Renews .reset
  | forced : breaker.Renews .forceClosed
  /-- The last successful probe. -/
  | probed (halfOpen : breaker.circuit = .halfOpen)
    (enough : breaker.config.permittedProbes ≤ breaker.window.successes + 1) :
    breaker.Renews .success

/-- A breaker with totals from before, and with another last failure. -/
def aged (breaker : Breaker) (past : Totals) (stale : Option Instant) : Breaker :=
  { breaker with
    window := { breaker.window with lastFailureAt := stale }
    totals := past.plus breaker.totals }

/-- The first breaker is the second one with a longer past. They agree on the last failure while
the circuit is open. -/
def Resembles (past : Totals) (old new : Breaker) : Prop :=
  ∃ stale, old = new.aged past stale ∧
    (new.circuit = .opened → stale = new.window.lastFailureAt)

variable {past : Totals} {old new breaker : Breaker} {request : BreakerRequest} {now : Instant}
variable {stale : Option Instant}

/-! ## Entering the closed state -/

/-- Nothing else makes a breaker enter the closed state, or begin it anew. -/
theorem renews_iff (breaker : Breaker) (now : Instant) (request : BreakerRequest) :
    breaker.Renews request ↔
      (breaker.perform now request).breaker.circuit = .closed ∧
        (request.restarts = true ∨ breaker.circuit ≠ .closed) := by
  constructor
  · intro renews
    cases renews with
    | reset => exact ⟨rfl, .inl rfl⟩
    | forced => exact ⟨force_circuit _ _ _, .inl rfl⟩
    | probed halfOpen enough =>
      refine ⟨?_, .inr (by simp [halfOpen])⟩
      rw [perform, recordSuccess_of_halfOpen halfOpen, if_pos enough]
      rfl
  · rintro ⟨closed, entered⟩
    rcases breaker.stays_or_enters now request with stays | enters
    · -- the circuit was closed before, so the window is begun anew
      have restarts := entered.resolve_right fun away => away (stays.symm.trans closed)
      cases request with
      | reset => exact .reset
      | forceClosed => exact .forced
      | forceOpen => cases (breaker.force_circuit .opened now).symm.trans closed
      | acquire | success | fault | timeout | inspect | startProbing => cases restarts
    · rw [closed] at enters
      cases enters with
      | probed halfOpen enough => exact .probed halfOpen enough
      | reset => exact .reset
      | forcedClosed => exact .forced

/-! ## What the past does not change -/

@[simp] theorem aged_circuit : (breaker.aged past stale).circuit = breaker.circuit := rfl

theorem count_aged (window : Window) (outcome : Outcome) (size : Duration) :
    ({ window with lastFailureAt := stale } : Window).count outcome size =
      { window.count outcome size with
        lastFailureAt := if outcome.failed then some outcome.instant else stale } := by
  unfold Window.count Window.roll
  split <;> split <;> rfl

/-- The last failure decides on admission only while the circuit is open. -/
theorem admission_aged (agree : breaker.circuit = .opened → stale = breaker.window.lastFailureAt) :
    (breaker.aged past stale).admission now = breaker.admission now := by
  cases circuit : breaker.circuit with
  | closed => simp [admission, circuit]
  | opened =>
    rw [agree circuit]
    rfl
  | halfOpen => simp only [admission, aged_circuit, circuit]; rfl

/-! ## Requests to a breaker and to one with a longer past -/

/-- The changes of two breakers report the same transition and leave them alike. -/
def Change.Resembles (past : Totals) (old new : Change) : Prop :=
  old.transition = new.transition ∧ Breaker.Resembles past old.breaker new.breaker

/-- Entering a state. The open one is entered with a new last failure. -/
theorem resembles_move (circuit : Circuit) (older : old = new.aged past stale)
    (agree : circuit = .opened → stale = new.window.lastFailureAt) :
    Change.Resembles past (old.move circuit now) (new.move circuit now) := by
  subst older
  refine ⟨rfl, stale, ?_, agree⟩
  simp only [move, aged, Totals.plus_addTransition]
  rfl

/-- An admission enters no state but the half-open one. -/
theorem eq_halfOpen_of_admission {circuit : Circuit}
    (enters : breaker.admission now = .ok (some circuit)) : circuit = .halfOpen := by
  cases present : breaker.circuit with
  | closed =>
    simp only [admission, present] at enters
    cases enters
  | opened =>
    simp only [admission, present] at enters
    split at enters
    · split at enters <;> cases enters
      rfl
    · cases enters
  | halfOpen =>
    simp only [admission, present] at enters
    split at enters <;> cases enters

theorem resembles_acquire
    (agree : breaker.circuit = .opened → stale = breaker.window.lastFailureAt) :
    ((breaker.aged past stale).acquire now).1 = (breaker.acquire now).1 ∧
      Change.Resembles past ((breaker.aged past stale).acquire now).2 (breaker.acquire now).2 := by
  unfold acquire
  rw [admission_aged agree]
  cases admission : breaker.admission now with
  | error denial => exact ⟨rfl, rfl, stale, rfl, agree⟩
  | ok entered =>
    cases entered with
    | none => exact ⟨rfl, rfl, stale, rfl, agree⟩
    | some circuit =>
      obtain rfl := eq_halfOpen_of_admission admission
      exact ⟨rfl, resembles_move .halfOpen rfl nofun⟩

theorem resembles_recordSuccess
    (agree : breaker.circuit = .opened → stale = breaker.window.lastFailureAt) :
    Change.Resembles past ((breaker.aged past stale).recordSuccess now)
      (breaker.recordSuccess now) := by
  cases circuit : breaker.circuit with
  | closed =>
    rw [recordSuccess_of_closed circuit, recordSuccess_of_closed (by exact circuit)]
    refine ⟨rfl, stale, ?_, fun opened => ?_⟩
    · simp only [aged, count_aged]
      rfl
    · cases ((Window.count_circuit _).trans circuit).symm.trans opened
  | opened =>
    rw [recordSuccess_of_opened circuit, recordSuccess_of_opened (by exact circuit)]
    exact ⟨rfl, stale, rfl, agree⟩
  | halfOpen =>
    rw [recordSuccess_of_halfOpen circuit, recordSuccess_of_halfOpen (by exact circuit)]
    -- the same number of probes has succeeded
    by_cases enough : breaker.config.permittedProbes ≤ breaker.window.successes + 1
    · rw [if_pos enough, if_pos (by exact enough)]
      exact resembles_move .closed rfl nofun
    · rw [if_neg enough, if_neg (by exact enough)]
      exact ⟨rfl, stale, rfl, agree⟩

/-- A failure that opens the circuit is the last one of both. -/
theorem resembles_countFailure (older : old = breaker.aged past stale)
    (agree : breaker.circuit = .opened → stale = breaker.window.lastFailureAt) :
    Change.Resembles past (old.countFailure now) (breaker.countFailure now) := by
  subst older
  cases circuit : breaker.circuit with
  | closed =>
    -- the failure that is counted replaces the last one, before anything is decided
    have counted : (breaker.aged past stale).window.count ⟨now, true⟩ breaker.config.windowSize =
        breaker.window.count ⟨now, true⟩ breaker.config.windowSize := by
      rw [aged, count_aged]
      unfold Window.count
      rfl
    rw [countFailure_of_closed circuit, countFailure_of_closed (by exact circuit)]
    rw [show (breaker.aged past stale).config = breaker.config from rfl, counted]
    dsimp only
    by_cases trips : (breaker.window.count ⟨now, true⟩ breaker.config.windowSize).trips
        breaker.config = true
    · rw [if_pos trips, if_pos trips]
      exact resembles_move .opened rfl fun _ => rfl
    · rw [if_neg trips, if_neg trips]
      exact ⟨rfl, _, rfl, fun _ => rfl⟩
  | opened =>
    rw [countFailure_of_opened circuit, countFailure_of_opened (by exact circuit)]
    exact ⟨rfl, stale, rfl, agree⟩
  | halfOpen =>
    rw [countFailure_of_halfOpen circuit, countFailure_of_halfOpen (by exact circuit)]
    exact resembles_move .opened rfl fun _ => rfl

/-- The window after force, given the instant that stands for the last failure. -/
theorem force_eq (breaker : Breaker) (circuit : Circuit) (now : Instant) :
    breaker.force circuit now =
      let failure := if circuit = .opened then some now else breaker.window.lastFailureAt
      let window := { breaker.window.enter circuit now with lastFailureAt := failure }
      if breaker.circuit = circuit then { breaker := { breaker with window } }
      else
        { breaker := { breaker with window, totals := breaker.totals.addTransition circuit }
          transition := some ⟨breaker.name, breaker.circuit, circuit⟩ } := by
  unfold force
  by_cases opened : circuit = .opened
  · simp only [if_pos opened]
  · simp only [if_neg opened]
    rfl

theorem resembles_force (circuit : Circuit) :
    Change.Resembles past ((breaker.aged past stale).force circuit now)
      (breaker.force circuit now) := by
  rw [force_eq, force_eq]
  -- the open state is entered with a new last failure, and the others do not need theirs
  have agree : circuit = .opened →
      (if circuit = .opened then some now else stale) =
        if circuit = .opened then some now else breaker.window.lastFailureAt := by
    intro opened
    rw [if_pos opened, if_pos opened]
  by_cases same : breaker.circuit = circuit
  · rw [if_pos same, if_pos (by exact same)]
    exact ⟨rfl, _, rfl, agree⟩
  · rw [if_neg same, if_neg (by exact same)]
    refine ⟨rfl, _, ?_, agree⟩
    simp only [aged, Totals.plus_addTransition]
    rfl

/-- No request tells a breaker from one with a longer past. -/
theorem Resembles.perform (resembles : Resembles past old new) (now : Instant)
    (request : BreakerRequest) :
    Change.Resembles past (old.perform now request) (new.perform now request) := by
  obtain ⟨stale, rfl, agree⟩ := resembles
  cases request with
  | acquire => exact (resembles_acquire agree).2
  | success => exact resembles_recordSuccess agree
  | fault reported =>
    simp only [Breaker.perform, recordFault]
    by_cases counts : new.config.filter.counts reported = true
    · rw [if_pos counts, if_pos (by exact counts)]
      exact resembles_countFailure rfl agree
    · rw [if_neg counts, if_neg (by exact counts)]
      exact ⟨rfl, stale, rfl, agree⟩
  | timeout => exact resembles_countFailure rfl agree
  | inspect => exact ⟨rfl, stale, rfl, agree⟩
  | reset => exact ⟨rfl, none, rfl, Circuit.noConfusion⟩
  | forceOpen => exact resembles_force .opened
  | forceClosed => exact resembles_force .closed
  | startProbing =>
    simp only [Breaker.perform, startProbing]
    by_cases opened : new.circuit = .opened
    · rw [if_pos opened, if_pos (by exact opened)]
      exact resembles_move .halfOpen rfl Circuit.noConfusion
    · rw [if_neg opened, if_neg (by exact opened)]
      exact ⟨rfl, stale, rfl, agree⟩

theorem Resembles.replay (resembles : Resembles past old new) (history : List TimedRequest) :
    Resembles past (old.replay history) (new.replay history) := by
  induction history with
  | nil => exact resembles
  | cons last earlier ih => exact (ih.perform last.instant last.request).2

theorem Resembles.report (resembles : Resembles past old new) :
    old.report = new.report.continuing past := by
  obtain ⟨stale, rfl, -⟩ := resembles
  rfl

theorem Resembles.answer (resembles : Resembles past old new) (now : Instant)
    (request : BreakerRequest) : old.answer now request = new.answer now request := by
  obtain ⟨stale, rfl, agree⟩ := resembles
  cases request with
  | acquire =>
    simp only [Breaker.answer, (resembles_acquire agree).1]
    rfl
  | success | fault _ | timeout | inspect | reset | forceOpen | forceClosed | startProbing => rfl

theorem Resembles.observe (resembles : Resembles past old new) (now : Instant)
    (request : BreakerRequest) :
    old.observe now request = (new.observe now request).continuing past := by
  obtain ⟨reported, after⟩ := resembles.perform now request
  simp only [Breaker.observe, resembles.answer, reported, after.report]
  rfl

theorem Resembles.observations (resembles : Resembles past old new) (history : List TimedRequest) :
    old.observations history = (new.observations history).map (·.continuing past) := by
  induction history with
  | nil => rfl
  | cons last earlier ih =>
    simp only [Breaker.observations, List.map_cons, ih]
    rw [(resembles.replay earlier).observe]

/-- A breaker that has just entered the closed state is a new one with a past. -/
theorem Renews.resembles (renews : breaker.Renews request) (now : Instant) :
    Resembles (breaker.perform now request).breaker.totals
      (breaker.perform now request).breaker (start breaker.name breaker.config now) := by
  cases renews with
  | reset => exact ⟨none, rfl, nofun⟩
  | forced =>
    refine ⟨breaker.window.lastFailureAt, ?_, nofun⟩
    simp only [perform, force]
    split <;> rfl
  | probed halfOpen enough =>
    refine ⟨breaker.window.lastFailureAt, ?_, nofun⟩
    rw [perform, recordSuccess_of_halfOpen halfOpen, if_pos enough]
    rfl

/-- From the outside, a breaker that has closed is a new breaker: every later history shows the
same answers, transitions and windows of both, and reports the same totals on top of those that
the breaker had when it closed. -/
theorem as_good_as_new (before : Breaker) (now : Instant) (request : BreakerRequest)
    (renews : before.Renews request) (later : List TimedRequest) :
    let closed := (before.perform now request).breaker
    let new := start before.name before.config now
    closed.observations later = (new.observations later).map (·.continuing closed.totals) ∧
      (closed.replay later).report = (new.replay later).report.continuing closed.totals :=
  ⟨(renews.resembles now).observations later, ((renews.resembles now).replay later).report⟩

/-- A breaker that was forced open at instant 1 and closed by a probe at instant 3 still has the
failure of instant 1. It does not show when the next failure opens the circuit. -/
theorem as_good_as_new_probed :
    let before := (start "db" { minimumCalls := 1, permittedProbes := 1 } 0).replay
      [⟨2, .startProbing⟩, ⟨1, .forceOpen⟩]
    let closed := (before.perform 3 .success).breaker
    let new := start before.name before.config 3
    let later : List TimedRequest := [⟨20, .acquire⟩, ⟨10, .timeout⟩]
    before.Renews .success ∧ closed.window.lastFailureAt = some 1 ∧
      closed.observations later = (new.observations later).map (·.continuing closed.totals) ∧
      (closed.replay later).report = (new.replay later).report.continuing closed.totals :=
  ⟨.probed rfl (by decide), rfl,
    as_good_as_new _ 3 .success (.probed rfl (by decide)) [⟨20, .acquire⟩, ⟨10, .timeout⟩]⟩

end Breaker

end Resilience
