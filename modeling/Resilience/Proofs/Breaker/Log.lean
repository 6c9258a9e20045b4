import Resilience.Proofs.Breaker.Agreement

/-!
# The log of a circuit breaker

A breaker reports every change of its state, with the state it leaves and the state it enters. The
log keeps each reported transition with the request that made it, the latest first. Read from its
end, the log is a walk through the states that begins in the closed one and ends in the present
one, and it skips no change: manual control that finds the breaker in the wanted state already
begins a new window, but walks nowhere.

The totals of a breaker count the same things. A transition into the open or the closed state is
counted when it is reported, with one exception: a reset reports the transition it makes and counts
nothing. Calls are counted when their results are reported, whatever state the circuit is in.

## Main definitions

* `LogEntry`, `Breaker.log` — reported transitions with the requests that made them
* `IsPath` — transitions that lead from one state to another
* `Transition.isRegular` — the transitions that need no manual control
* `CallRecord`, `BreakerRequest.record?` — the results that the totals count
* `Totals.Reckons` — totals agree with a history and its log

## Main statements

* `Breaker.shifts_perform` — a request reports a transition exactly if it changes the state
* `Breaker.perform_totals` — what a request adds to the totals
* `Breaker.log_of_history` — the log is a path, and the totals count it and the results
-/

namespace Resilience

/-- A reported transition with the request that made it. -/
structure LogEntry where
  cause : BreakerRequest
  transition : Transition

/-- How a counted call ended. -/
inductive CallRecord where
  | succeeded
  | failed
  | timedOut
  deriving DecidableEq

/-- Transitions, the latest first, that lead from a state to the present one. Each enters another
state than the one it leaves. -/
def IsPath (origin : Circuit) : List Transition → Circuit → Prop
  | [], present => present = origin
  | last :: earlier, present =>
    present = last.after ∧ last.before ≠ last.after ∧ IsPath origin earlier last.before

/-- The transitions that a breaker makes without being forced. -/
def Transition.isRegular (transition : Transition) : Bool :=
  match transition.before, transition.after with
  | .closed, .opened | .opened, .halfOpen | .halfOpen, .opened | .halfOpen, .closed => true
  | _, _ => false

/-- A regular transition changes the state. -/
theorem Transition.ne_of_isRegular {transition : Transition}
    (regular : transition.isRegular = true) : transition.before ≠ transition.after := by
  intro same
  rw [isRegular, same] at regular
  cases after : transition.after <;> rw [after] at regular <;> cases regular

namespace BreakerRequest

def isReset : BreakerRequest → Bool
  | reset => true
  | _ => false

/-- The result that the totals count, if the request reports one. -/
def record? (config : BreakerConfig) : BreakerRequest → Option CallRecord
  | success => some .succeeded
  | fault reported => if config.filter.counts reported then some .failed else none
  | timeout => some .timedOut
  | acquire | inspect | reset | forceOpen | forceClosed | startProbing => none

end BreakerRequest

namespace Totals

/-- Counts the result of a call, if there is one. -/
def addRecord (totals : Totals) : Option CallRecord → Totals
  | none => totals
  | some .succeeded => totals.addSuccess
  | some .failed => totals.addFailure
  | some .timedOut => totals.addTimeout

/-- Counts a transition, if there is one. -/
def note (totals : Totals) : Option Transition → Totals
  | none => totals
  | some transition => totals.addTransition transition.after

/-- Totals agree with the requests of a history and with the transitions in its log. -/
structure Reckons (totals : Totals) (config : BreakerConfig) (history : List TimedRequest)
    (log : List LogEntry) : Prop where
  opened : totals.opened = log.countP fun entry => entry.transition.after = .opened
  closed : totals.closed =
    log.countP fun entry => entry.transition.after = .closed && !entry.cause.isReset
  successes : totals.successes =
    history.countP fun timed => timed.request.record? config = some .succeeded
  failures : totals.failures =
    history.countP fun timed => timed.request.record? config = some .failed
  timeouts : totals.timeouts =
    history.countP fun timed => timed.request.record? config = some .timedOut
  calls : totals.calls = totals.successes + totals.failures + totals.timeouts

variable {totals : Totals} {config : BreakerConfig} {history : List TimedRequest}
variable {log : List LogEntry}

theorem note_opened (totals : Totals) (transition : Option Transition) :
    (totals.note transition).opened =
      totals.opened + transition.toList.countP (·.after = .opened) := by
  cases transition with
  | none => rfl
  | some transition =>
    cases after : transition.after <;> simp [note, addTransition, after]

theorem note_closed (totals : Totals) (transition : Option Transition) :
    (totals.note transition).closed =
      totals.closed + transition.toList.countP (·.after = .closed) := by
  cases transition with
  | none => rfl
  | some transition =>
    cases after : transition.after <;> simp [note, addTransition, after]

/-- Transitions are no calls. -/
theorem note_calls (totals : Totals) (transition : Option Transition) :
    (totals.note transition).calls = totals.calls ∧
      (totals.note transition).successes = totals.successes ∧
      (totals.note transition).failures = totals.failures ∧
      (totals.note transition).timeouts = totals.timeouts := by
  cases transition with
  | none => exact ⟨rfl, rfl, rfl, rfl⟩
  | some transition => cases after : transition.after <;> simp [note, addTransition, after]

theorem note_rejections (totals : Totals) (transition : Option Transition) :
    (totals.note transition).rejections = totals.rejections := by
  cases transition with
  | none => rfl
  | some transition => cases after : transition.after <;> simp [note, addTransition, after]

/-- Results are no transitions. -/
theorem addRecord_transitions (totals : Totals) (record : Option CallRecord) :
    (totals.addRecord record).opened = totals.opened ∧
      (totals.addRecord record).closed = totals.closed := by
  rcases record with _ | record
  · exact ⟨rfl, rfl⟩
  · cases record <;> exact ⟨rfl, rfl⟩

/-- A result is a call, and counts as what it is. -/
theorem addRecord_calls (totals : Totals) (record : Option CallRecord) :
    (totals.addRecord record).calls = totals.calls + (if record.isSome then 1 else 0) ∧
      (totals.addRecord record).successes =
        totals.successes + (if record = some .succeeded then 1 else 0) ∧
      (totals.addRecord record).failures =
        totals.failures + (if record = some .failed then 1 else 0) ∧
      (totals.addRecord record).timeouts =
        totals.timeouts + (if record = some .timedOut then 1 else 0) := by
  rcases record with _ | record
  · exact ⟨rfl, rfl, rfl, rfl⟩
  · cases record <;> exact ⟨rfl, rfl, rfl, rfl⟩

/-- Totals keep agreeing with one more request and its transition. -/
theorem Reckons.cons {after : Totals} {transition : Option Transition} {rejections : Nat}
    (reckons : totals.Reckons config history log) (last : TimedRequest)
    (closes : last.request.isReset = true → ∀ made ∈ transition, made.after = .closed)
    (booked : after = { totals.addRecord (last.request.record? config) with rejections }.note
      (if last.request.isReset then none else transition)) :
    after.Reckons config (last :: history)
      (transition.toList.map (LogEntry.mk last.request) ++ log) := by
  obtain ⟨calls, successes, failures, timeouts⟩ := note_calls
    { totals.addRecord (last.request.record? config) with rejections }
    (if last.request.isReset then none else transition)
  have recorded := totals.addRecord_calls (last.request.record? config)
  have kept := totals.addRecord_transitions (last.request.record? config)
  rw [← booked] at calls successes failures timeouts
  refine ⟨?_, ?_, ?_, ?_, ?_, ?_⟩
  · rw [booked, note_opened, kept.1, reckons.opened, List.countP_append, Nat.add_comm,
      List.countP_map]
    congr 1
    by_cases reset : last.request.isReset = true
    · -- a reset counts nothing, and its transition does not end in the open state
      rw [if_pos reset]
      refine (List.countP_eq_zero.2 fun made reported => ?_).symm
      simp [closes reset made (Option.mem_toList.1 reported)]
    · rw [if_neg reset]
      rfl
  · rw [booked, note_closed, kept.2, reckons.closed, List.countP_append, Nat.add_comm,
      List.countP_map]
    congr 1
    by_cases reset : last.request.isReset = true
    · simp [reset, Function.comp_def]
    · simp [reset, Function.comp_def]
  · rw [successes, recorded.2.1, reckons.successes, List.countP_cons]
    simp
  · rw [failures, recorded.2.2.1, reckons.failures, List.countP_cons]
    simp
  · rw [timeouts, recorded.2.2.2, reckons.timeouts, List.countP_cons]
    simp
  · rw [calls, successes, failures, timeouts, recorded.1, recorded.2.1, recorded.2.2.1,
      recorded.2.2.2, reckons.calls]
    rcases last.request.record? config with _ | record
    · rfl
    · cases record <;> simp <;> omega

end Totals

namespace Breaker

/-- The transitions of a history with the requests that made them, the latest first. -/
def log (breaker : Breaker) : List TimedRequest → List LogEntry
  | [] => []
  | ⟨now, request⟩ :: earlier =>
    ((breaker.replay earlier).perform now request).transition.toList.map (LogEntry.mk request) ++
      breaker.log earlier

/-- What a request does to the state in which it finds a breaker, and what it reports of that. -/
inductive Shifts (name : String) (before : Circuit) (request : BreakerRequest) : Change → Prop
  | stays {after : Breaker} (same : after.circuit = before) :
    Shifts name before request ⟨after, none⟩
  | moves {after : Breaker} {circuit : Circuit} (entered : after.circuit = circuit)
    (other : before ≠ circuit)
    (allowed : Transition.isRegular ⟨name, before, circuit⟩ = true ∨ request.restarts = true) :
    Shifts name before request ⟨after, some ⟨name, before, circuit⟩⟩

variable {breaker : Breaker} {name : String} {before : Circuit} {request : BreakerRequest}
variable {now : Instant}

/-! ## One request and the state -/

/-- Entering a state by a regular transition. -/
theorem shifts_move {circuit : Circuit} (named : breaker.name = name)
    (found : breaker.circuit = before)
    (regular : Transition.isRegular ⟨name, before, circuit⟩ = true) :
    Shifts name before request (breaker.move circuit now) := by
  subst named found
  exact .moves rfl (Transition.ne_of_isRegular regular) (.inl regular)

theorem shifts_acquire :
    Shifts breaker.name breaker.circuit request (breaker.acquire now).2 := by
  rcases breaker.acquire_cases now with ⟨totals, same⟩ | ⟨opened, moved⟩
  · rw [same]
    exact .stays rfl
  · rw [moved, opened]
    exact shifts_move rfl opened rfl

theorem shifts_recordSuccess :
    Shifts breaker.name breaker.circuit request (breaker.recordSuccess now) := by
  cases circuit : breaker.circuit with
  | closed =>
    rw [recordSuccess_of_closed circuit]
    exact .stays ((Window.count_circuit _).trans circuit)
  | opened =>
    rw [recordSuccess_of_opened circuit]
    exact .stays circuit
  | halfOpen =>
    rw [recordSuccess_of_halfOpen circuit]
    split
    · exact shifts_move rfl circuit rfl
    · exact .stays circuit

theorem shifts_countFailure (named : breaker.name = name) (found : breaker.circuit = before) :
    Shifts name before request (breaker.countFailure now) := by
  subst named found
  cases circuit : breaker.circuit with
  | closed =>
    rw [countFailure_of_closed circuit]
    have counted : (breaker.window.count ⟨now, true⟩ breaker.config.windowSize).circuit = .closed :=
      (Window.count_circuit _).trans circuit
    dsimp only
    split
    · exact shifts_move rfl counted rfl
    · exact .stays counted
  | opened =>
    rw [countFailure_of_opened circuit]
    exact .stays circuit
  | halfOpen =>
    rw [countFailure_of_halfOpen circuit]
    exact shifts_move rfl circuit rfl

/-- Forcing a state is reported unless the breaker is in it. -/
theorem shifts_force (circuit : Circuit) (restarts : request.restarts = true) :
    Shifts breaker.name breaker.circuit request (breaker.force circuit now) := by
  have entered := breaker.force_circuit circuit now
  unfold force at entered ⊢
  dsimp only at entered ⊢
  by_cases same : breaker.circuit = circuit
  · rw [if_pos same] at entered ⊢
    exact .stays (entered.trans same.symm)
  · rw [if_neg same] at entered ⊢
    exact .moves entered same (.inr restarts)

/-- A request reports a transition exactly if it changes the state. -/
theorem shifts_perform (breaker : Breaker) (now : Instant) (request : BreakerRequest) :
    Shifts breaker.name breaker.circuit request (breaker.perform now request) := by
  cases request with
  | acquire => exact shifts_acquire
  | success => exact shifts_recordSuccess
  | fault reported =>
    simp only [perform, recordFault]
    split
    · exact shifts_countFailure rfl rfl
    · exact .stays rfl
  | timeout => exact shifts_countFailure rfl rfl
  | inspect => exact .stays rfl
  | reset =>
    simp only [perform, reset]
    split
    · rename_i closed
      exact .stays closed.symm
    · rename_i away
      exact .moves rfl away (.inr rfl)
  | forceOpen => exact shifts_force .opened rfl
  | forceClosed => exact shifts_force .closed rfl
  | startProbing =>
    simp only [perform, startProbing]
    split
    · rename_i opened
      rw [opened]
      exact shifts_move rfl opened rfl
    · exact .stays rfl

/-- What a reset reports ends in the closed state. -/
theorem reset_closes (breaker : Breaker) (now : Instant) (reset : request.isReset = true) :
    ∀ made ∈ (breaker.perform now request).transition, made.after = .closed := by
  cases request with
  | reset =>
    intro made reported
    simp only [perform, Breaker.reset] at reported
    split at reported
    · cases reported
    · obtain rfl := Option.mem_some_iff.1 reported
      rfl
  | acquire | success | fault _ | timeout | inspect | forceOpen | forceClosed | startProbing =>
    cases reset

/-! ## One request and the totals -/

theorem recordSuccess_totals :
    (breaker.recordSuccess now).breaker.totals =
      breaker.totals.addSuccess.note (breaker.recordSuccess now).transition := by
  cases circuit : breaker.circuit with
  | closed => rw [recordSuccess_of_closed circuit]; rfl
  | opened => rw [recordSuccess_of_opened circuit]; rfl
  | halfOpen =>
    rw [recordSuccess_of_halfOpen circuit]
    split <;> rfl

theorem countFailure_totals :
    (breaker.countFailure now).breaker.totals =
      breaker.totals.note (breaker.countFailure now).transition := by
  cases circuit : breaker.circuit with
  | closed =>
    rw [countFailure_of_closed circuit]
    dsimp only
    split <;> rfl
  | opened => rw [countFailure_of_opened circuit]; rfl
  | halfOpen => rw [countFailure_of_halfOpen circuit]; rfl

theorem force_totals (circuit : Circuit) :
    (breaker.force circuit now).breaker.totals =
      breaker.totals.note (breaker.force circuit now).transition := by
  unfold force
  dsimp only
  split <;> rfl

/-- Whether a breaker turns a request for admission down. -/
def turnsDown (breaker : Breaker) (now : Instant) : BreakerRequest → Bool
  | .acquire => !(breaker.acquire now).1.isOk
  | .success | .fault _ | .timeout | .inspect | .reset | .forceOpen | .forceClosed
  | .startProbing => false

/-- A denied request is counted among the rejections only. -/
theorem acquire_totals :
    (breaker.acquire now).2.breaker.totals =
      { breaker.totals with
          rejections := breaker.totals.rejections + (breaker.turnsDown now .acquire).toNat }.note
        (breaker.acquire now).2.transition := by
  rw [turnsDown, acquire]
  rcases breaker.admission now with denial | (_ | circuit) <;> rfl

/-- A request counts the result it reports, or that it is turned down, and then its transition,
unless it is a reset. -/
theorem perform_totals (breaker : Breaker) (now : Instant) (request : BreakerRequest) :
    (breaker.perform now request).breaker.totals =
      { breaker.totals.addRecord (request.record? breaker.config) with
          rejections := breaker.totals.rejections + (breaker.turnsDown now request).toNat }.note
        (if request.isReset then none else (breaker.perform now request).transition) := by
  cases request with
  | acquire => exact acquire_totals
  | success => exact recordSuccess_totals
  | fault reported =>
    simp only [perform, recordFault, BreakerRequest.record?]
    split
    · exact countFailure_totals
    · rfl
  | timeout => exact countFailure_totals
  | inspect => rfl
  | reset => rfl
  | forceOpen => exact force_totals .opened
  | forceClosed => exact force_totals .closed
  | startProbing =>
    simp only [perform, startProbing]
    split <;> rfl

/-- A request is one more call if it reports a result that counts, and one more rejection if it is
turned down. -/
theorem totals_perform (breaker : Breaker) (now : Instant) (request : BreakerRequest) :
    (breaker.perform now request).breaker.totals.calls =
        breaker.totals.calls + (request.record? breaker.config).isSome.toNat ∧
      (breaker.perform now request).breaker.totals.rejections =
        breaker.totals.rejections + (breaker.turnsDown now request).toNat := by
  rw [perform_totals, (Totals.note_calls _ _).1, Totals.note_rejections]
  refine ⟨?_, rfl⟩
  rw [(Totals.addRecord_calls _ _).1]
  cases request.record? breaker.config <;> rfl

/-! ## Histories -/

variable {history : List TimedRequest}

theorem log_cons (breaker : Breaker) (now : Instant) (request : BreakerRequest)
    (earlier : List TimedRequest) :
    breaker.log (⟨now, request⟩ :: earlier) =
      ((breaker.replay earlier).perform now request).transition.toList.map (LogEntry.mk request) ++
        breaker.log earlier := rfl

/-- The log has an entry for every reported transition. -/
theorem map_transition_log (breaker : Breaker) (history : List TimedRequest) :
    (breaker.log history).map (·.transition) = breaker.transitions history := by
  induction history with
  | nil => rfl
  | cons last earlier ih =>
    rw [log_cons, transitions, List.map_append, ih, List.map_map]
    exact congrArg (· ++ _) (List.map_id _)

/-- The reported transitions lead to the present state. -/
theorem isPath_transitions (breaker : Breaker) (history : List TimedRequest) :
    IsPath breaker.circuit (breaker.transitions history) (breaker.replay history).circuit := by
  induction history with
  | nil => rfl
  | cons last earlier ih =>
    have step := (breaker.replay earlier).shifts_perform last.instant last.request
    simp only [transitions, replay]
    generalize (breaker.replay earlier).perform last.instant last.request = change at step ⊢
    cases step with
    | stays same => exact same ▸ ih
    | moves entered other _ => exact ⟨entered, other, ih⟩

/-- Every entry of the log names the breaker, and is a regular transition or was forced. -/
theorem mem_log (breaker : Breaker) (history : List TimedRequest) :
    ∀ entry ∈ breaker.log history,
      entry.transition.breaker = breaker.name ∧
        (entry.transition.isRegular = true ∨ entry.cause.restarts = true) := by
  induction history with
  | nil => exact fun _ member => nomatch member
  | cons last earlier ih =>
    have step := (breaker.replay earlier).shifts_perform last.instant last.request
    simp only [log]
    generalize (breaker.replay earlier).perform last.instant last.request = change at step ⊢
    cases step with
    | stays _ => exact ih
    | moves _ _ allowed =>
      intro entry member
      rcases List.mem_cons.1 member with rfl | member
      · exact ⟨breaker.replay_name earlier, allowed⟩
      · exact ih entry member

/-- The totals of a breaker that began with none count its log and the results in its history. -/
theorem reckons_replay (name : String) (config : BreakerConfig) (begun : Instant)
    (history : List TimedRequest) :
    ((start name config begun).replay history).totals.Reckons config history
      ((start name config begun).log history) := by
  induction history with
  | nil => exact ⟨rfl, rfl, rfl, rfl, rfl, rfl⟩
  | cons last earlier ih =>
    have totals := ((start name config begun).replay earlier).perform_totals last.instant last.request
    rw [replay_config] at totals
    exact ih.cons last (fun reset => reset_closes _ _ reset) totals

/-- The log of a breaker is a path from the closed state to the present one. Its steps are regular
or forced, and the totals count them, except for what resets do, along with the results that were
reported. A reset leaves all totals as they are. -/
theorem log_of_history (name : String) (config : BreakerConfig) (begun : Instant)
    (history : List TimedRequest) :
    let breaker := (start name config begun).replay history
    let log := (start name config begun).log history
    log.map (·.transition) = (start name config begun).transitions history ∧
      IsPath .closed (log.map (·.transition)) breaker.circuit ∧
      (∀ entry ∈ log, entry.transition.breaker = name ∧
        (entry.transition.isRegular = true ∨ entry.cause.restarts = true)) ∧
      breaker.totals.Reckons config history log ∧
      ∀ now, (breaker.perform now .reset).breaker.totals = breaker.totals := by
  refine ⟨map_transition_log _ history, ?_, mem_log _ history,
    reckons_replay name config begun history, fun _ => rfl⟩
  rw [map_transition_log]
  exact (start name config begun).isPath_transitions history

/-- A circuit that was forced open and then reset has closed, but the totals do not say so. -/
example :
    let history : List TimedRequest := [⟨2, .reset⟩, ⟨1, .forceOpen⟩]
    (start "db" {} 0).transitions history = [⟨"db", .opened, .closed⟩, ⟨"db", .closed, .opened⟩] ∧
      ((start "db" {} 0).replay history).totals = { opened := 1 } :=
  ⟨rfl, rfl⟩

end Breaker

end Resilience
