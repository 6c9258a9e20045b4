import Resilience.Proofs.Breaker.Windows

/-!
# Breakers agree with their histories

A breaker keeps a few counters and instants only. They always agree with the stay of the breaker in
its state: with the windows of a closed breaker, with the entry of an open one, and with the probes
of a half-open one. What a breaker does next is therefore a function of its history.

## Main definitions

* `Breaker.Agrees` — the window of a breaker agrees with a stay
* `Breaker.Enters` — the ways into another state
* `BreakerRequest.isTraceless` — reports that leave every breaker as it is

## Main statements

* `Breaker.stays_or_enters` — there is no other way into another state
* `Breaker.Agrees.perform` — every request keeps a breaker in agreement
* `Breaker.agrees_replay` — a breaker agrees with its history
* `Breaker.determined_by_history` — counters and transitions as functions of the history
-/

namespace Resilience

/-- Reports of faults that do not count. -/
def BreakerRequest.isTraceless (config : BreakerConfig) : BreakerRequest → Bool
  | .fault reported => !config.filter.counts reported
  | _ => false

namespace Breaker

/-- The window of a breaker agrees with a stay and with the requests up to an instant. -/
structure Agrees (breaker : Breaker) (stay : Stay) (latest : Instant) : Prop where
  ordered : stay.Ordered latest
  closed : breaker.circuit = .closed → breaker.window.Tallies stay breaker.config.windowSize
  opened : breaker.circuit = .opened →
    breaker.window =
      { circuit := .opened, startedAt := stay.since, lastFailureAt := some stay.since }
  probes : breaker.circuit = .halfOpen →
    breaker.window.successes.toNat = stay.outcomes.length ∧
      (stay.outcomes = [] ∨ stay.outcomes.length < breaker.config.permittedProbes.toNat) ∧
      ∀ outcome ∈ stay.outcomes, outcome.failed = false

/-- The instant of the latest request. -/
def latest (begun : Instant) : List TimedRequest → Instant
  | [] => begun
  | last :: _ => last.instant

variable {breaker : Breaker} {stay : Stay} {request : BreakerRequest} {now before : Instant}

/-! ## What requests do -/

/-- A report that does not count, and a look, leave a breaker as it is. -/
theorem perform_of_isTraceless (traceless : request.isTraceless breaker.config = true) :
    breaker.perform now request = { breaker } := by
  cases request with
  | fault reported =>
    have ignored : breaker.config.filter.counts reported = false := by
      simpa [BreakerRequest.isTraceless] using traceless
    simp [perform, recordFault, ignored]
  | _ => simp [BreakerRequest.isTraceless] at traceless

/-- A failure is counted in the totals and then in the window. -/
theorem perform_of_failed (failed : request.outcome? breaker.config now = some ⟨now, true⟩) :
    ∃ totals : Totals, totals.rejections = breaker.totals.rejections ∧
      breaker.perform now request = { breaker with totals }.countFailure now := by
  cases request with
  | fault reported =>
    have counted : breaker.config.filter.counts reported = true := by
      by_contra ignored
      simp [BreakerRequest.outcome?, ignored] at failed
    exact ⟨breaker.totals.addFailure, rfl, by simp [perform, recordFault, counted]⟩
  | timeout => exact ⟨breaker.totals.addTimeout, rfl, rfl⟩
  | success | acquire | inspect | reset | forceOpen | forceClosed | startProbing =>
    simp [BreakerRequest.outcome?] at failed

theorem perform_of_succeeded (succeeded : request.outcome? breaker.config now = some ⟨now, false⟩) :
    breaker.perform now request = breaker.recordSuccess now := by
  cases request with
  | success => rfl
  | fault reported =>
    simp only [BreakerRequest.outcome?] at succeeded
    split at succeeded <;> simp at succeeded
  | timeout | acquire | inspect | reset | forceOpen | forceClosed | startProbing =>
    simp [BreakerRequest.outcome?] at succeeded

theorem outcome?_eq {outcome : Outcome}
    (reported : request.outcome? breaker.config now = some outcome) :
    outcome = ⟨now, outcome.failed⟩ := by
  cases request with
  | fault fault =>
    simp only [BreakerRequest.outcome?] at reported
    split at reported
    · cases reported; rfl
    · cases reported
  | success | timeout => cases reported; rfl
  | acquire | inspect | reset | forceOpen | forceClosed | startProbing => cases reported

theorem countFailure_of_closed (closed : breaker.circuit = .closed) :
    breaker.countFailure now =
      let window := breaker.window.count ⟨now, true⟩ breaker.config.windowSize
      if window.trips breaker.config then { breaker with window }.move .opened now
      else { breaker := { breaker with window } } := by
  simp only [countFailure, closed]
  rfl

theorem recordSuccess_of_closed (closed : breaker.circuit = .closed) :
    breaker.recordSuccess now =
      { breaker :=
          { breaker with
            window := breaker.window.count ⟨now, false⟩ breaker.config.windowSize
            totals := breaker.totals.addSuccess } } := by
  have same : ({ breaker with totals := breaker.totals.addSuccess } : Breaker).circuit =
      .closed := closed
  simp only [recordSuccess, same]
  rfl

theorem countFailure_of_opened (opened : breaker.circuit = .opened) :
    breaker.countFailure now = { breaker } := by
  simp only [countFailure, opened]

theorem recordSuccess_of_opened (opened : breaker.circuit = .opened) :
    breaker.recordSuccess now =
      { breaker := { breaker with totals := breaker.totals.addSuccess } } := by
  have same : ({ breaker with totals := breaker.totals.addSuccess } : Breaker).circuit =
      .opened := opened
  simp only [recordSuccess, same]

theorem countFailure_of_halfOpen (halfOpen : breaker.circuit = .halfOpen) :
    breaker.countFailure now =
      { breaker with window := { breaker.window with lastFailureAt := some now } }.move
        .opened now := by
  simp only [countFailure, halfOpen]

theorem recordSuccess_of_halfOpen (halfOpen : breaker.circuit = .halfOpen) :
    breaker.recordSuccess now =
      if breaker.config.permittedProbes ≤ breaker.window.successes + 1 then
        { breaker with totals := breaker.totals.addSuccess }.move .closed now
      else
        { breaker :=
            { breaker with
              window := { breaker.window with successes := breaker.window.successes + 1 }
              totals := breaker.totals.addSuccess } } := by
  have same : ({ breaker with totals := breaker.totals.addSuccess } : Breaker).circuit =
      .halfOpen := halfOpen
  simp only [recordSuccess, same]

/-! ## Agreement -/

/-- The stay after a request. -/
def nextStay (breaker : Breaker) (stay : Stay) (now : Instant) (request : BreakerRequest) : Stay :=
  if request.restarts ∨ (breaker.perform now request).breaker.circuit ≠ breaker.circuit then
    ⟨now, []⟩
  else stay.add (request.outcome? breaker.config now)

theorem stay_cons (begun : Instant) (earlier : List TimedRequest) :
    breaker.stay begun (⟨now, request⟩ :: earlier) =
      (breaker.replay earlier).nextStay (breaker.stay begun earlier) now request := by
  simp only [Breaker.stay, nextStay, Stay.add, replay_config]

theorem ordered_nil : Stay.Ordered ⟨now, []⟩ now where
  sorted := List.Pairwise.nil
  since_le _ member := nomatch member
  le_latest _ member := nomatch member
  begun := Nat.le_refl now

/-- A breaker that has just entered a state agrees with the stay that begins. -/
theorem agrees_entered (window : breaker.window.failures = 0 ∧ breaker.window.successes = 0 ∧
      breaker.window.calls = 0 ∧ breaker.window.startedAt = now)
    (opened : breaker.circuit = .opened → breaker.window.lastFailureAt = some now) :
    breaker.Agrees ⟨now, []⟩ now where
  ordered := ordered_nil
  closed _ := Window.tallies_nil now window.2.2.1 window.1 window.2.2.2
  opened isOpen := by
    obtain ⟨failures, successes, calls, started⟩ := window
    have at_ := opened isOpen
    rcases same : breaker.window with ⟨circuit, _, _, _, _, _⟩
    simp only [same, Breaker.circuit] at *
    subst failures successes calls started at_ isOpen
    rfl
  probes _ := by
    refine ⟨?_, Or.inl rfl, fun _ member => nomatch member⟩
    rw [window.2.1]
    rfl

theorem Agrees.mono (agrees : breaker.Agrees stay before) (reached : before ≤ now) :
    breaker.Agrees stay now :=
  { agrees with ordered := agrees.ordered.mono reached }

/-- Totals do not matter to the agreement. -/
theorem Agrees.withTotals (agrees : breaker.Agrees stay now) (totals : Totals) :
    { breaker with totals }.Agrees stay now :=
  ⟨agrees.ordered, agrees.closed, agrees.opened, agrees.probes⟩

/-- Any stay in the open state agrees as far as its results are concerned. -/
theorem Agrees.add_of_opened (agrees : breaker.Agrees stay now) (opened : breaker.circuit = .opened)
    (failed : Bool) : breaker.Agrees (stay.add (some ⟨now, failed⟩)) now where
  ordered := agrees.ordered.add failed
  closed closed := by rw [opened] at closed; cases closed
  opened := agrees.opened
  probes probing := by rw [opened] at probing; cases probing

theorem nextStay_of_entered
    (entered : (breaker.perform now request).breaker.circuit ≠ breaker.circuit) :
    breaker.nextStay stay now request = ⟨now, []⟩ :=
  if_pos (Or.inr entered)

theorem nextStay_of_restarts (restarts : request.restarts = true) :
    breaker.nextStay stay now request = ⟨now, []⟩ :=
  if_pos (Or.inl restarts)

theorem nextStay_of_stays (stays : request.restarts = false) :
    breaker.nextStay stay now request =
      if (breaker.perform now request).breaker.circuit ≠ breaker.circuit then ⟨now, []⟩
      else stay.add (request.outcome? breaker.config now) := by
  simp [nextStay, stays]

/-- Entering a state by a transition begins a stay. -/
theorem agrees_move (circuit : Circuit)
    (opened : circuit = .opened → breaker.window.lastFailureAt = some now) :
    (breaker.move circuit now).breaker.Agrees ⟨now, []⟩ now :=
  agrees_entered ⟨rfl, rfl, rfl, rfl⟩ opened

/-- A result that changes only the window keeps a closed breaker in agreement. -/
theorem Agrees.count (agrees : breaker.Agrees stay now) (closed : breaker.circuit = .closed)
    (failed : Bool) (totals : Totals) :
    { breaker with
      window := breaker.window.count ⟨now, failed⟩ breaker.config.windowSize
      totals }.Agrees (stay.add (some ⟨now, failed⟩)) now := by
  have still : (breaker.window.count ⟨now, failed⟩ breaker.config.windowSize).circuit =
      .closed := (Window.count_circuit _).trans closed
  refine ⟨agrees.ordered.add failed, fun _ => (agrees.closed closed).count agrees.ordered failed,
    fun opened => ?_, fun probing => ?_⟩
  · exact absurd (still.symm.trans opened) (by decide)
  · exact absurd (still.symm.trans probing) (by decide)

theorem Agrees.countFailure (agrees : breaker.Agrees stay now) :
    (breaker.countFailure now).breaker.Agrees
      (if (breaker.countFailure now).breaker.circuit ≠ breaker.circuit then ⟨now, []⟩
        else stay.add (some ⟨now, true⟩)) now := by
  cases circuit : breaker.circuit with
  | closed =>
    rw [countFailure_of_closed circuit]
    dsimp only
    split
    · rw [if_pos (by simp)]
      exact agrees_move _ fun _ => by simp [Window.count]
    · rw [if_neg (by simpa [Breaker.circuit] using circuit)]
      exact agrees.count circuit true breaker.totals
  | opened =>
    rw [countFailure_of_opened circuit, if_neg (by simpa using circuit)]
    exact agrees.add_of_opened circuit true
  | halfOpen =>
    rw [countFailure_of_halfOpen circuit, if_pos (by simp)]
    exact agrees_move _ fun _ => rfl

/-- The counter of probes does not wrap. -/
theorem Agrees.successes_succ (agrees : breaker.Agrees stay now)
    (probing : breaker.circuit = .halfOpen) :
    (breaker.window.successes + 1).toNat = stay.outcomes.length + 1 := by
  obtain ⟨counted, few, -⟩ := agrees.probes probing
  have bound := UInt32.toNat_lt breaker.config.permittedProbes
  have small : stay.outcomes.length + 1 < 2 ^ 32 := by
    rcases few with none | few
    · simp [none]
    · omega
  rw [UInt32.toNat_add, counted, UInt32.toNat_one, Nat.mod_eq_of_lt small]

/-- One more probe has succeeded, but not enough of them. -/
theorem Agrees.addProbe (agrees : breaker.Agrees stay now) (probing : breaker.circuit = .halfOpen)
    (notYet : ¬ breaker.config.permittedProbes ≤ breaker.window.successes + 1) (totals : Totals) :
    { breaker with
      window := { breaker.window with successes := breaker.window.successes + 1 }
      totals }.Agrees (stay.add (some ⟨now, false⟩)) now := by
  have next := agrees.successes_succ probing
  have fewer : stay.outcomes.length + 1 < breaker.config.permittedProbes.toNat := by
    rw [UInt32.le_iff_toNat_le, next] at notYet
    omega
  refine ⟨agrees.ordered.add false, fun closed => ?_, fun opened => ?_, fun _ => ⟨next, ?_, ?_⟩⟩
  · exact absurd (probing.symm.trans closed) (by decide)
  · exact absurd (probing.symm.trans opened) (by decide)
  · exact Or.inr fewer
  · intro outcome member
    rcases List.mem_cons.1 member with rfl | member
    · rfl
    · exact (agrees.probes probing).2.2 outcome member

theorem Agrees.recordSuccess (agrees : breaker.Agrees stay now) :
    (breaker.recordSuccess now).breaker.Agrees
      (if (breaker.recordSuccess now).breaker.circuit ≠ breaker.circuit then ⟨now, []⟩
        else stay.add (some ⟨now, false⟩)) now := by
  cases circuit : breaker.circuit with
  | closed =>
    rw [recordSuccess_of_closed circuit, if_neg (by simpa [Breaker.circuit] using circuit)]
    exact agrees.count circuit false _
  | opened =>
    rw [recordSuccess_of_opened circuit, if_neg (by simpa [Breaker.circuit] using circuit)]
    exact (agrees.add_of_opened circuit false).withTotals _
  | halfOpen =>
    rw [recordSuccess_of_halfOpen circuit]
    split
    · rw [if_pos (by simp)]
      exact agrees_move _ nofun
    · rw [if_neg (by simpa [Breaker.circuit] using circuit)]
      exact agrees.addProbe circuit ‹_› _

theorem agrees_force (circuit : Circuit) :
    (breaker.force circuit now).breaker.Agrees ⟨now, []⟩ now := by
  unfold force
  dsimp only
  split <;> split <;>
    exact agrees_entered ⟨rfl, rfl, rfl, rfl⟩ (by simp_all [Breaker.circuit, Window.enter])

/-- What an admission request does to the state and the window. -/
theorem acquire_cases (breaker : Breaker) (now : Instant) :
    (∃ totals, (breaker.acquire now).2 = { breaker := { breaker with totals } }) ∨
      breaker.circuit = .opened ∧ breaker.acquire now = (.ok (), breaker.move .halfOpen now) := by
  cases admission : breaker.admission now with
  | error denial => exact Or.inl ⟨_, by simp only [acquire, admission]; rfl⟩
  | ok entered =>
    cases entered with
    | none => exact Or.inl ⟨breaker.totals, by simp only [acquire, admission]⟩
    | some circuit =>
      refine Or.inr ?_
      unfold Breaker.admission at admission
      split at admission
      · cases admission
      · rename_i opened
        refine ⟨opened, ?_⟩
        dsimp only at admission
        split at admission
        · split at admission
          · cases admission
            simp only [acquire, Breaker.admission, opened]
            simp_all
          · cases admission
        · cases admission
      · split at admission <;> cases admission

/-! ## What changes the state -/

theorem force_circuit (breaker : Breaker) (circuit : Circuit) (now : Instant) :
    (breaker.force circuit now).breaker.circuit = circuit := by
  unfold force
  dsimp only
  split <;> split <;> rfl

/-- A counted failure opens the circuit, or it stays as it is. -/
theorem countFailure_circuit :
    (breaker.countFailure now).breaker.circuit = breaker.circuit ∨
      breaker.circuit ≠ .opened ∧ (breaker.countFailure now).breaker.circuit = .opened := by
  cases circuit : breaker.circuit with
  | closed =>
    rw [countFailure_of_closed circuit]
    dsimp only
    split
    · exact Or.inr ⟨nofun, rfl⟩
    · exact Or.inl ((Window.count_circuit _).trans circuit)
  | opened =>
    rw [countFailure_of_opened circuit]
    exact Or.inl circuit
  | halfOpen =>
    rw [countFailure_of_halfOpen circuit]
    exact Or.inr ⟨nofun, rfl⟩

/-- A success closes the circuit if it is the last of the probes, or it stays as it is. -/
theorem recordSuccess_circuit :
    (breaker.recordSuccess now).breaker.circuit = breaker.circuit ∨
      breaker.circuit = .halfOpen ∧
        breaker.config.permittedProbes ≤ breaker.window.successes + 1 ∧
        (breaker.recordSuccess now).breaker.circuit = .closed := by
  cases circuit : breaker.circuit with
  | closed =>
    rw [recordSuccess_of_closed circuit]
    exact Or.inl ((Window.count_circuit _).trans circuit)
  | opened =>
    rw [recordSuccess_of_opened circuit]
    exact Or.inl circuit
  | halfOpen =>
    rw [recordSuccess_of_halfOpen circuit]
    split
    · exact Or.inr ⟨rfl, ‹_›, rfl⟩
    · exact Or.inl circuit

/-- The ways in which a request brings a circuit into another state, or into the state that manual
control asks for. -/
inductive Enters (breaker : Breaker) (now : Instant) : BreakerRequest → Circuit → Prop
  | failed {request : BreakerRequest} (shut : breaker.circuit ≠ .opened)
    (counted : request.outcome? breaker.config now = some ⟨now, true⟩) :
    breaker.Enters now request .opened
  | probed (halfOpen : breaker.circuit = .halfOpen)
    (enough : breaker.config.permittedProbes ≤ breaker.window.successes + 1) :
    breaker.Enters now .success .closed
  | admitted (opened : breaker.circuit = .opened)
    (moved : breaker.acquire now = (.ok (), breaker.move .halfOpen now)) :
    breaker.Enters now .acquire .halfOpen
  | reset : breaker.Enters now .reset .closed
  | forcedOpen : breaker.Enters now .forceOpen .opened
  | forcedClosed : breaker.Enters now .forceClosed .closed
  | started (opened : breaker.circuit = .opened) : breaker.Enters now .startProbing .halfOpen

/-- There is no other way out of a state. -/
theorem stays_or_enters (breaker : Breaker) (now : Instant) (request : BreakerRequest) :
    (breaker.perform now request).breaker.circuit = breaker.circuit ∨
      breaker.Enters now request (breaker.perform now request).breaker.circuit := by
  -- the totals count a failure before the window does, and say nothing about the state
  have failure (totals : Totals)
      (counted : request.outcome? breaker.config now = some ⟨now, true⟩) :
      ({ breaker with totals }.countFailure now).breaker.circuit = breaker.circuit ∨
        breaker.Enters now request ({ breaker with totals }.countFailure now).breaker.circuit := by
    rcases @countFailure_circuit { breaker with totals } now with stays | ⟨shut, opens⟩
    · exact Or.inl stays
    · rw [opens]
      exact Or.inr (.failed shut counted)
  cases request with
  | acquire =>
    rcases breaker.acquire_cases now with ⟨totals, same⟩ | ⟨opened, moved⟩
    · rw [perform, same]
      exact Or.inl rfl
    · rw [perform, moved]
      exact Or.inr (.admitted opened moved)
  | success =>
    rw [perform]
    rcases @recordSuccess_circuit breaker now with stays | ⟨halfOpen, enough, closes⟩
    · exact Or.inl stays
    · rw [closes]
      exact Or.inr (.probed halfOpen enough)
  | fault reported =>
    by_cases counts : breaker.config.filter.counts reported = true
    · have counted : BreakerRequest.outcome? breaker.config now (.fault reported) =
          some ⟨now, true⟩ := by simp [BreakerRequest.outcome?, counts]
      simpa only [perform, recordFault, if_pos counts] using failure _ counted
    · exact Or.inl (by simp only [perform, recordFault, if_neg counts])
  | timeout => exact failure _ rfl
  | inspect => exact Or.inl rfl
  | reset => exact Or.inr .reset
  | forceOpen =>
    rw [perform, force_circuit]
    exact Or.inr .forcedOpen
  | forceClosed =>
    rw [perform, force_circuit]
    exact Or.inr .forcedClosed
  | startProbing =>
    simp only [perform, startProbing]
    split
    · exact Or.inr (.started ‹_›)
    · exact Or.inl rfl

theorem Agrees.acquire (agrees : breaker.Agrees stay now) :
    (breaker.acquire now).2.breaker.Agrees
      (if (breaker.acquire now).2.breaker.circuit ≠ breaker.circuit then ⟨now, []⟩ else stay)
      now := by
  rcases breaker.acquire_cases now with ⟨totals, same⟩ | ⟨opened, enters⟩
  · rw [same, if_neg (by simp [Breaker.circuit])]
    exact agrees.withTotals totals
  · rw [enters, if_pos (by simp [opened])]
    exact agrees_move _ nofun

/-- Every request keeps a breaker in agreement with its stay. -/
theorem Agrees.perform (agrees : breaker.Agrees stay before) (reached : before ≤ now)
    (request : BreakerRequest) :
    (breaker.perform now request).breaker.Agrees (breaker.nextStay stay now request) now := by
  replace agrees := agrees.mono reached
  cases request with
  | acquire =>
    rw [nextStay_of_stays rfl]
    exact agrees.acquire
  | success =>
    rw [nextStay_of_stays rfl]
    exact agrees.recordSuccess
  | timeout =>
    rw [nextStay_of_stays rfl]
    exact (agrees.withTotals breaker.totals.addTimeout).countFailure
  | fault reported =>
    rw [nextStay_of_stays rfl]
    by_cases counted : breaker.config.filter.counts reported = true
    · simp only [Breaker.perform, recordFault, BreakerRequest.outcome?, if_pos counted]
      exact (agrees.withTotals breaker.totals.addFailure).countFailure
    · simp only [Breaker.perform, recordFault, BreakerRequest.outcome?, if_neg counted]
      rw [if_neg (by simp)]
      exact agrees
  | inspect =>
    rw [nextStay_of_stays rfl, if_neg (by simp [Breaker.perform])]
    exact agrees
  -- a reset and forcing begin a new stay, also in the state that the breaker is in
  | reset =>
    rw [nextStay_of_restarts rfl]
    exact agrees_entered ⟨rfl, rfl, rfl, rfl⟩ Circuit.noConfusion
  | forceOpen =>
    rw [nextStay_of_restarts rfl]
    exact agrees_force .opened
  | forceClosed =>
    rw [nextStay_of_restarts rfl]
    exact agrees_force .closed
  | startProbing =>
    rw [nextStay_of_stays rfl]
    by_cases opened : breaker.circuit = .opened
    · simp only [Breaker.perform, startProbing, if_pos opened]
      rw [if_pos (by simp [opened])]
      exact agrees_move _ Circuit.noConfusion
    · simp only [Breaker.perform, startProbing, if_neg opened]
      rw [if_neg (by simp)]
      exact agrees

/-- A breaker that has just started agrees with the stay that begins. -/
theorem agrees_start (name : String) (config : BreakerConfig) (begun : Instant) :
    (start name config begun).Agrees ⟨begun, []⟩ begun :=
  agrees_entered ⟨rfl, rfl, rfl, rfl⟩ nofun

theorem Chronological.latest_le {begun : Instant} {last : TimedRequest}
    {earlier : List TimedRequest} (ordered : Chronological begun (last :: earlier)) :
    latest begun earlier ≤ last.instant := by
  cases earlier with
  | nil => exact ordered
  | cons _ _ => exact ordered.1

/-- A breaker agrees with its history. -/
theorem agrees_replay (name : String) (config : BreakerConfig) {begun : Instant}
    {history : List TimedRequest} (ordered : Chronological begun history) :
    ((start name config begun).replay history).Agrees
      ((start name config begun).stay begun history) (latest begun history) := by
  induction history with
  | nil => exact agrees_start name config begun
  | cons last earlier ih =>
    rw [stay_cons]
    exact (ih ordered.tail).perform ordered.latest_le last.request

/-! ## What the history determines -/

/-- Reports that do not count can be left out of a history. -/
theorem replay_filter_traceless (history : List TimedRequest) :
    breaker.replay (history.filter fun timed => !timed.request.isTraceless breaker.config) =
      breaker.replay history := by
  induction history with
  | nil => rfl
  | cons last earlier ih =>
    by_cases traceless : last.request.isTraceless breaker.config = true
    · rw [List.filter_cons_of_neg (by simp [traceless]), ih]
      have config := breaker.replay_config earlier
      rw [replay, perform_of_isTraceless (by rw [config]; exact traceless)]
    · rw [List.filter_cons_of_pos (by simp [traceless]), replay, replay, ih]

theorem records_add_ne_nil (ordered : stay.Ordered now) (failed : Bool) (size : Duration) :
    (stay.add (some ⟨now, failed⟩)).records size ≠ [] := by
  by_cases rolls : size.nanos < now - windowStart size stay.since stay.outcomes
  · simp [Stay.records_add_of_rolls failed ordered rolls]
  · simp [Stay.records_add_of_fits failed ordered rolls]

/-- A request that reports no result and controls nothing leaves a closed or half-open circuit as
it is. -/
theorem perform_circuit_of_none (notOpen : breaker.circuit ≠ .opened)
    (free : request.isControl = false)
    (none : request.outcome? breaker.config now = none) :
    (breaker.perform now request).breaker.circuit = breaker.circuit := by
  rcases breaker.stays_or_enters now request with stays | enters
  · exact stays
  · generalize (breaker.perform now request).breaker.circuit = circuit at enters
    cases enters with
    | failed shut counted => rw [none] at counted; cases counted
    | probed => cases none
    | admitted opened => exact absurd opened notOpen
    | reset | forcedOpen | forcedClosed | started => cases free

/-- A counted failure opens a closed circuit exactly when the window, with the failure counted,
asks for it. -/
theorem Agrees.circuit_of_closed (agrees : breaker.Agrees stay now)
    (closed : breaker.circuit = .closed) (free : request.isControl = false)
    (few : ((stay.add (request.outcome? breaker.config now)).records
      breaker.config.windowSize).length < 2 ^ 32) :
    (breaker.perform now request).breaker.circuit =
      let counted := stay.add (request.outcome? breaker.config now)
      let calls := (counted.records breaker.config.windowSize).length
      let failures := (counted.failures breaker.config.windowSize).length
      if request.outcome? breaker.config now = some ⟨now, true⟩ ∧
          breaker.config.minimumCalls.toNat ≤ calls ∧
          (breaker.config.rateThreshold.le
              (Binary64.ofNat failures / Binary64.ofNat calls) = true ∨
            breaker.config.countThreshold.toNat ≤ failures) then .opened
      else .closed := by
  dsimp only
  cases reported : request.outcome? breaker.config now with
  | none =>
    rw [perform_circuit_of_none (by simp [closed]) free reported, closed]
    simp
  | some outcome =>
    obtain ⟨failed, rfl⟩ : ∃ failed, outcome = ⟨now, failed⟩ := ⟨_, outcome?_eq reported⟩
    rw [reported] at few
    cases failed with
    | false =>
      rw [perform_of_succeeded reported, recordSuccess_of_closed closed]
      simpa [Breaker.circuit] using closed
    | true =>
      obtain ⟨totals, -, failed⟩ := perform_of_failed reported
      have counted := ((agrees.withTotals totals).closed closed).count agrees.ordered true
      have trips := counted.trips_iff breaker.config few
        (records_add_ne_nil agrees.ordered true _)
      rw [failed, @countFailure_of_closed { breaker with totals } _ closed]
      dsimp only at trips ⊢
      simp only [true_and, ← trips]
      split
      · rfl
      · simpa [Breaker.circuit] using closed

/-- A half-open circuit closes with the last of the probes it takes, and opens with the first
counted failure. -/
theorem Agrees.circuit_of_halfOpen (agrees : breaker.Agrees stay now)
    (probing : breaker.circuit = .halfOpen) (free : request.isControl = false) :
    (breaker.perform now request).breaker.circuit =
      match request.outcome? breaker.config now with
      | none => .halfOpen
      | some ⟨_, true⟩ => .opened
      | some ⟨_, false⟩ =>
        if breaker.config.permittedProbes.toNat ≤ stay.outcomes.length + 1 then .closed
        else .halfOpen := by
  cases reported : request.outcome? breaker.config now with
  | none => rw [perform_circuit_of_none (by simp [probing]) free reported, probing]
  | some outcome =>
    obtain ⟨failed, rfl⟩ : ∃ failed, outcome = ⟨now, failed⟩ := ⟨_, outcome?_eq reported⟩
    cases failed with
    | true =>
      obtain ⟨totals, -, failed⟩ := perform_of_failed reported
      rw [failed, @countFailure_of_halfOpen { breaker with totals } _ probing]
      rfl
    | false =>
      have next := agrees.successes_succ probing
      rw [perform_of_succeeded reported, recordSuccess_of_halfOpen probing]
      simp only [UInt32.le_iff_toNat_le, next]
      split
      · rfl
      · exact probing

/-- While the circuit is open, results change the totals only. -/
theorem perform_of_opened (opened : breaker.circuit = .opened)
    (reported : (request.outcome? breaker.config now).isSome = true) :
    ∃ totals : Totals, totals.rejections = breaker.totals.rejections ∧
      breaker.perform now request = { breaker := { breaker with totals } } := by
  obtain ⟨outcome, reported⟩ := Option.isSome_iff_exists.1 reported
  obtain ⟨failed, rfl⟩ : ∃ failed, outcome = ⟨now, failed⟩ := ⟨_, outcome?_eq reported⟩
  cases failed with
  | true =>
    obtain ⟨totals, same, failed⟩ := perform_of_failed reported
    exact ⟨totals, same, failed.trans (@countFailure_of_opened { breaker with totals } _ opened)⟩
  | false =>
    exact ⟨breaker.totals.addSuccess, rfl,
      (perform_of_succeeded reported).trans (recordSuccess_of_opened opened)⟩

/-- The counters and the transitions of a breaker are functions of the results in its history.
Reports of faults that do not count can be left out of it. A closed breaker counts the results of
its window and the failures since the last success, and a counted failure opens it exactly when the
counters then reach the minimum number of calls and one of the two thresholds. A half-open breaker
closes exactly with the permitted number of successes, and opens with the first counted failure. -/
theorem determined_by_history (name : String) (config : BreakerConfig) (begun : Instant)
    (history : List TimedRequest) (ordered : Chronological begun history) :
    let fresh := start name config begun
    let breaker := fresh.replay history
    let stay := fresh.stay begun history
    let size := config.windowSize
    fresh.replay (history.filter fun timed => !timed.request.isTraceless config) = breaker ∧
      (breaker.circuit = .closed → (stay.records size).length < 2 ^ 32 →
        breaker.window.calls.toNat = (stay.records size).length ∧
          breaker.window.failures.toNat = (stay.failures size).length) ∧
      (breaker.circuit = .halfOpen → ∀ outcome ∈ stay.outcomes, outcome.failed = false) ∧
      ∀ now request, latest begun history ≤ now → request.isControl = false →
        let reported := request.outcome? config now
        let next := (breaker.perform now request).breaker.circuit
        let calls := ((stay.add reported).records size).length
        let failures := ((stay.add reported).failures size).length
        (breaker.circuit = .closed → calls < 2 ^ 32 →
          next =
            if reported = some ⟨now, true⟩ ∧ config.minimumCalls.toNat ≤ calls ∧
                (config.rateThreshold.le (Binary64.ofNat failures / Binary64.ofNat calls) = true ∨
                  config.countThreshold.toNat ≤ failures) then .opened
            else .closed) ∧
        (breaker.circuit = .halfOpen →
          next =
            match reported with
            | none => .halfOpen
            | some ⟨_, true⟩ => .opened
            | some ⟨_, false⟩ =>
              if config.permittedProbes.toNat ≤ stay.outcomes.length + 1 then .closed
              else .halfOpen) ∧
        (breaker.circuit = .opened → reported.isSome = true → next = .opened) := by
  intro fresh breaker stay size
  have agrees : breaker.Agrees stay (latest begun history) := agrees_replay name config ordered
  have same : breaker.config = config := fresh.replay_config history
  refine ⟨fresh.replay_filter_traceless history, fun closed few => ?_,
    fun probing => (agrees.probes probing).2.2, fun now request reached free => ⟨?_, ?_, ?_⟩⟩
  · have tallies := agrees.closed closed
    rw [same] at tallies
    exact ⟨tallies.calls_toNat few, tallies.failures_toNat few⟩
  · intro closed few
    have step := (agrees.mono reached).circuit_of_closed closed free (by rw [same]; exact few)
    rw [same] at step
    exact step
  · intro probing
    have step := (agrees.mono reached).circuit_of_halfOpen probing free
    rw [same] at step
    exact step
  · intro opened reported
    obtain ⟨totals, -, step⟩ := @perform_of_opened _ request now opened
      (by rw [same]; exact reported)
    rw [step]
    exact opened

/-- With the default thresholds the circuit opens at the fifth result, the third failure in a row. -/
theorem determined_by_history_fifth_result :
    let history : List TimedRequest :=
      [⟨4, .timeout⟩, ⟨3, .timeout⟩, ⟨2, .success⟩, ⟨1, .timeout⟩]
    let breaker := (start "payments" {} 0).replay history
    Chronological 0 history ∧ breaker.circuit = .closed ∧ breaker.window.calls.toNat = 4 ∧
      breaker.window.failures.toNat = 2 ∧
      (breaker.perform 5 .timeout).breaker.circuit = .opened := by
  intro history breaker
  have ordered : Chronological 0 history := by decide
  have closed : breaker.circuit = .closed := by decide +kernel
  obtain ⟨-, counters, -, steps⟩ := determined_by_history "payments" {} 0 history ordered
  have counted := counters closed (by decide +kernel)
  have next := (steps 5 .timeout (by decide) rfl).1 closed (by decide +kernel)
  rw [if_pos (by decide +kernel)] at next
  exact ⟨ordered, closed, counted.1.trans (by decide +kernel),
    counted.2.trans (by decide +kernel), next⟩

end Breaker

end Resilience
