import Resilience.Proofs.Counter.Home
import Resilience.Proofs.Executor.Budget

/-!
# The entry of a lifecycle

A lifecycle that is the only user of its key owns the entry of the key in its counter. Every failed
invocation raises the entry by one, and the ways out of the lifecycle differ in what they leave. A
lifecycle that is completed, given up or abandoned leaves no entry, and a compensation already runs
without one. A lifecycle that a breaker, a shutdown or a closed scheduler stops leaves the entry as
it stands, so that the attempts are remembered when the unit comes again.

## Main definitions

* `Executor.SoleUser` — nobody else touches the places of a key
* `Executor.KeepsEntry`, `Executor.LeavesNoEntry` — the entry after some failed invocations, or none
* `Phase.Enters` — the entry in every phase of a lifecycle

## Main statements

* `Story.enters` — the entry follows the story of a lifecycle
* `Executor.leavesNoEntry_compensating` — a compensation runs without an entry
* `Scene.entry_of_lifecycle` — the entry at every moment of a scene
-/

namespace Resilience

/-- The number of failed attempts that are reported in an account. -/
def Account.failures (account : Account) : Nat :=
  account.events.countP (·.failedAttempt?.isSome)

theorem Account.failures_plus (first second : Account) :
    (first.plus second).failures = first.failures + second.failures :=
  List.countP_append

theorem Account.plus_empty (account : Account) : account.plus {} = account := by
  simp [plus]

/-- What is kept for a key after some failed attempts, if something or nothing is kept before. -/
def entryAfter (start : Option Int) (failures : Nat) : Option Int :=
  if failures = 0 then start else some (start.getD 0 + failures)

theorem getD_entryAfter (start : Option Int) (failures : Nat) :
    (entryAfter start failures).getD 0 = start.getD 0 + failures := by
  rw [entryAfter]
  split
  · simp [*]
  · rfl

namespace Executor

/-- A lifecycle that is the only user of its key: whoever works on other units, and whatever is
changed from outside, the places of the key stay as they are. -/
structure SoleUser (surroundings : Surroundings) (executor : Executor) (unit : WorkUnit) :
    Prop where
  own : surroundings.mine unit = true
  apart (player : Executor) (other : WorkUnit) : surroundings.plays player other →
    ∀ place ∈ executor.counter.places unit.retryKey, place ∉ player.counter.places other.retryKey
  spared (change : World → World) : surroundings.alters change → ∀ world : World,
    ∀ place ∈ executor.counter.places unit.retryKey,
      place.find? (change world).ledger = place.find? world.ledger ∧
        (place.isOpen world.ledger.isAvailable = true →
          place.isOpen (change world).ledger.isAvailable = true)

/-- The entry of a unit in an available counter after some failed attempts. -/
structure KeepsEntry (executor : Executor) (unit : WorkUnit) (start : Option Int) (failures : Nat)
    (ledger : Ledger) : Prop where
  available : executor.counter.IsAvailable unit.retryKey ledger
  kept : (executor.counter.home unit.retryKey).1.find? ledger =
    (entryAfter start failures).map (·, none)

/-- An available counter without an entry of a unit. -/
structure LeavesNoEntry (executor : Executor) (unit : WorkUnit) (ledger : Ledger) : Prop where
  available : executor.counter.IsAvailable unit.retryKey ledger
  empty : executor.counter.IsEmpty unit.retryKey ledger

variable {executor : Executor} {unit : WorkUnit} {surroundings : Surroundings}
  {start : Option Int} {failures prior now : Nat} {ledger later : Ledger}

theorem leavesNoEntry_reset (available : executor.counter.IsAvailable unit.retryKey ledger)
    (now : Instant) :
    executor.LeavesNoEntry unit (executor.counter.reset unit.retryKey now ledger).ledger where
  available := available.of_same (executor.counter.reset_effect unit.retryKey now ledger).1
  empty := Counter.isEmpty_reset available now

theorem LeavesNoEntry.contains (leaves : executor.LeavesNoEntry unit ledger) (now : Instant) :
    (executor.counter.contains unit.retryKey now ledger).answer = .ok false :=
  (Counter.contains_of_isEmpty leaves.available leaves.empty now).1

namespace KeepsEntry

theorem count (keeps : executor.KeepsEntry unit start failures ledger) (now : Instant) :
    (executor.counter.count unit.retryKey now ledger).answer =
      .ok (start.getD 0 + failures).toNat := by
  rw [Counter.count_of_isAvailable keeps.available keeps.kept, getD_entryAfter]

theorem available_increment (keeps : executor.KeepsEntry unit start failures ledger)
    (now : Instant) :
    executor.counter.IsAvailable unit.retryKey
      (executor.counter.increment unit.retryKey now ledger).ledger :=
  keeps.available.of_same (executor.counter.increment_elsewhere unit.retryKey now ledger).1

/-- A failed attempt that is followed by another one raises the entry by one. No policy allows so
many attempts that the entry could reach the greatest value that can be kept. -/
theorem increment (keeps : executor.KeepsEntry unit start failures ledger)
    (permanent : (executor.counter.home unit.retryKey).2 = none) {fault : Fault}
    (retried : executor.isRetried fault (executor.number unit prior now ledger) = true) :
    executor.KeepsEntry unit start (failures + 1)
      (executor.counter.increment unit.retryKey (Instant.ofMillis now) ledger).ledger := by
  obtain ⟨answer, kept⟩ := Counter.increment_of_isAvailable keeps.available permanent keeps.kept
    (Instant.ofMillis now)
  refine ⟨keeps.available_increment _, ?_⟩
  -- the counter's answer is the number of the attempt, and the policy still allows one more
  have few : (min (start.getD 0 + failures + 1)
      (executor.counter.home unit.retryKey).1.greatest).toNat < 2 ^ 32 := by
    simp only [isRetried, Bool.and_eq_true, RetryPolicy.hasAttemptsLeft, decide_eq_true_eq, number,
      answer, getD_entryAfter] at retried
    have greatest : executor.handler.policy.maxAttempts.toNat < 2 ^ 32 :=
      executor.handler.policy.maxAttempts.toNat_lt
    rw [greatestAttempt] at retried
    omega
  have roomy : (2 : Int) ^ 32 ≤ (executor.counter.home unit.retryKey).1.greatest := by
    cases (executor.counter.home unit.retryKey).1 <;> simp only [Place.greatest] <;> decide
  rw [kept, getD_entryAfter, entryAfter, if_neg (Nat.succ_ne_zero failures)]
  simp only [Option.map_some, Option.some.injEq, Prod.mk.injEq, and_true, Nat.cast_add,
    Nat.cast_one]
  omega

end KeepsEntry

/-! ## What happens aside -/

/-- What happens aside leaves the counter available and the places of the key as they are, as long
as nothing that expires is kept there. -/
theorem SoleUser.perform (sole : executor.SoleUser surroundings unit) {deed : Deed}
    (aside : deed.Aside surroundings) (world : World) :
    (executor.counter.IsAvailable unit.retryKey world.ledger →
      executor.counter.IsAvailable unit.retryKey (world.perform deed).ledger) ∧
    ∀ place ∈ executor.counter.places unit.retryKey,
      (∀ kept ∈ place.find? world.ledger, kept.2 = none) →
        place.find? (world.perform deed).ledger = place.find? world.ledger := by
  cases deed with
  | publish | setScheduler => exact ⟨id, fun _ _ _ => rfl⟩
  | elapse before after => exact ⟨id, fun place _ permanent => place.find?_elapse permanent _ _⟩
  | alter change =>
    have spared := sole.spared change aside world
    exact ⟨fun available place used => (spared place used).2 (available place used),
      fun place used _ => (spared place used).1⟩
  -- attempts on other units change the places of the keys of these units only
  | begin player other prior now =>
    obtain ⟨_, opening, -⟩ := player.opening_beginAttempt other prior now world
    obtain ⟨available, others⟩ := opening.elsewhere
    exact ⟨fun before => before.of_same available,
      fun place used _ => others place (sole.apart player other aside.2 place used)⟩
  | conclude player other prior outcome now =>
    obtain ⟨_, closing, -⟩ := player.closing_endAttempt other prior now world outcome
    obtain ⟨available, others⟩ := closing.elsewhere
    exact ⟨fun before => before.of_same available,
      fun place used _ => others place (sole.apart player other aside.2 place used)⟩

theorem KeepsEntry.perform {world : World} {deed : Deed}
    (keeps : executor.KeepsEntry unit start failures world.ledger)
    (sole : executor.SoleUser surroundings unit) (aside : deed.Aside surroundings) :
    executor.KeepsEntry unit start failures (world.perform deed).ledger := by
  obtain ⟨available, same⟩ := sole.perform aside world
  refine ⟨available keeps.available, ?_⟩
  -- the entry never expires, so no sweeper takes it away
  rw [same _ (Counter.home_mem_places _ _) fun kept found => ?_, keeps.kept]
  rw [keeps.kept] at found
  obtain ⟨value, -, rfl⟩ := Option.map_eq_some_iff.1 found
  rfl

theorem LeavesNoEntry.perform {world : World} {deed : Deed}
    (leaves : executor.LeavesNoEntry unit world.ledger)
    (sole : executor.SoleUser surroundings unit) (aside : deed.Aside surroundings) :
    executor.LeavesNoEntry unit (world.perform deed).ledger := by
  obtain ⟨available, same⟩ := sole.perform aside world
  refine ⟨available leaves.available, fun place used => ?_⟩
  rw [same place used fun kept found => ?_, leaves.empty place used]
  rw [leaves.empty place used] at found
  cases found

/-! ## Compensations -/

/-- The world in which the compensation of a unit starts to run. -/
def compensating (executor : Executor) (unit : WorkUnit) (setback : Setback)
    (compensation : Compensation) (now : Nat) (world : World) : World :=
  (executor.resetCount unit now world).audit now (.gaveUp setback (some compensation.name))

/-- What becomes of a unit whose compensation has run. -/
def compensated (unit : WorkUnit) (setback : Setback) (attempts : Nat)
    (compensation : Compensation) (now : Nat) (ran : Except Failure Verdict × World) :
    Except Failure Completion × World :=
  let failed : Except Failure Completion :=
    .error (.exhausted unit.action attempts setback.fault)
  match ran.1 with
  | .ok .recovered => (.ok (.recovered attempts), ran.2)
  | .ok .propagate => (failed, ran.2)
  | .error failure =>
    (failed, ran.2.audit now (.compensationFailed setback compensation.name failure))

theorem giveUp_eq_compensated (setback : Setback) (attempts : Nat) (compensation : Compensation)
    (now : Nat) (world : World) :
    executor.giveUp unit setback attempts (some compensation) now world =
      compensated unit setback attempts compensation now
        ((executor.compensating unit setback compensation now world).compensate now compensation
          setback) := rfl

/-- A compensation runs without an entry of its unit. -/
theorem leavesNoEntry_compensating {world : World}
    (available : executor.counter.IsAvailable unit.retryKey world.ledger) (setback : Setback)
    (compensation : Compensation) (now : Nat) :
    executor.LeavesNoEntry unit
      (executor.compensating unit setback compensation now world).ledger := by
  have reset : (executor.compensating unit setback compensation now world).holdings =
      executor.cleared unit now world.holdings := executor.holdings_resetCount unit now world
  rw [← World.ledger_holdings, reset]
  exact leavesNoEntry_reset available _

end Executor

/-! ## Phases -/

/-- Whether a result is final: the unit was processed, given up or abandoned. Any other result
leaves the unit to another lifecycle. -/
def isFinal : Except Failure Completion → Bool
  | .ok _ | .error (.exhausted ..) => true
  | .error _ => false

theorem isFinal_of_isDenied {failure : Failure} (refused : failure.isDenied = true) :
    isFinal (.error failure) = false := by
  cases failure <;> first | rfl | cases refused

/-- The entry in every phase of a lifecycle, with the failed ones among its invocations: all of them
have failed, except for one that is under way or was cut off. -/
def Phase.Enters (executor : Executor) (unit : WorkUnit) (start : Option Int) (ledger : Ledger)
    (told : Account) : Phase → Prop
  | absent | waiting .. =>
    executor.KeepsEntry unit start told.failures ledger ∧ told.invocations = told.failures
  | running .. | calling _ =>
    executor.KeepsEntry unit start told.failures ledger ∧ told.invocations = told.failures + 1
  | ended result =>
    if isFinal result then executor.LeavesNoEntry unit ledger
    else executor.KeepsEntry unit start told.failures ledger ∧ told.invocations = told.failures
  | cutOff invoked =>
    executor.KeepsEntry unit start told.failures ledger ∧
      told.invocations = told.failures + if invoked then 1 else 0

variable {executor : Executor} {unit : WorkUnit} {surroundings : Surroundings}
  {start : Option Int} {prior now : Nat}

namespace Phase.Enters

variable {told : Account} {occurrences : List Occurrence} {after : World.Holdings}

theorem aside {phase : Phase} {world : World} {deed : Deed}
    (enters : phase.Enters executor unit start world.ledger told)
    (sole : executor.SoleUser surroundings unit) (aside : deed.Aside surroundings) :
    phase.Enters executor unit start (world.perform deed).ledger told := by
  cases phase with
  | absent | waiting | running | calling | cutOff =>
    exact ⟨enters.1.perform sole aside, enters.2⟩
  | ended result =>
    rw [Enters] at enters ⊢
    split at enters
    · rename_i final
      rw [if_pos final]
      exact enters.perform sole aside
    · rename_i unfinished
      rw [if_neg unfinished]
      exact ⟨enters.1.perform sole aside, enters.2⟩

theorem begun {due : Nat} {world : World} {begun : Begun}
    (enters : (waiting prior due).Enters executor unit start world.ledger told)
    (opening : executor.Opening unit prior now world begun occurrences after) :
    (ofBegun prior now begun).Enters executor unit start after.ledger
      (told.plus (account occurrences)) := by
  obtain ⟨keeps, resolved⟩ := enters
  cases opening with
  | denied refused =>
    rw [Executor.account_check, Account.plus_empty, ofBegun, Enters, isFinal_of_isDenied refused]
    exact ⟨keeps, resolved⟩
  | invoked pending call =>
    have same : (told.plus (account (executor.check unit prior ++
        [.invoked executor.operation unit]))).failures = told.failures := by
      rw [account_append, Executor.account_check, Account.failures_plus]
      rfl
    refine ⟨same ▸ keeps, ?_⟩
    rw [same, account_append, Executor.account_check, ← resolved]
    rfl
  | gone retried attached notPending => exact Executor.leavesNoEntry_reset keeps.available _

theorem concluded {outcome concluded : Except Fault Unit} {due : Nat} {before : World.Holdings}
    {sequel : Sequel} (permanent : (executor.counter.home unit.retryKey).2 = none)
    (enters : (running prior outcome due).Enters executor unit start before.ledger told)
    (closing : executor.Closing unit prior now concluded before sequel occurrences after) :
    (ofSequel now sequel).Enters executor unit start after.ledger
      (told.plus (account occurrences)) := by
  obtain ⟨keeps, resolved⟩ := enters
  cases closing with
  | completed | vanished => exact Executor.leavesNoEntry_reset keeps.available _
  | retried entropy failed present numbered worthwhile =>
    subst numbered
    refine ⟨?_, ?_⟩
    · rw [Account.failures_plus]
      exact keeps.increment permanent worthwhile
    · rw [Account.failures_plus]
      exact resolved
  | gaveUp sources failed present numbered spent =>
    rename_i fault attempt
    -- whether a compensation recovers or not, the unit is done with
    have final : isFinal (Executor.givenUp unit (executor.setback unit now fault attempt) attempt
        sources executor.handler.compensation).1 = true := by
      rw [Executor.result_givenUp]
      split <;> rfl
    rw [ofSequel, Enters, if_pos final]
    exact Executor.leavesNoEntry_reset (keeps.available_increment _) _

theorem entered {begun : Begun} {ledger : Ledger}
    (enters : (ofBegun 0 now begun).Enters executor unit start ledger told) :
    (ofEntered begun).Enters executor unit start ledger told := by
  cases begun <;> exact enters

/-- Whatever the phase, the counter is available. -/
theorem available {phase : Phase} {ledger : Ledger}
    (enters : phase.Enters executor unit start ledger told) :
    executor.counter.IsAvailable unit.retryKey ledger := by
  cases phase with
  | absent | waiting | running | calling | cutOff => exact enters.1.available
  | ended result =>
    rw [Enters] at enters
    split at enters
    · exact enters.available
    · exact enters.1.available

/-- Unless the lifecycle has ended for good, the entry is kept. -/
theorem keeps {phase : Phase} {ledger : Ledger}
    (enters : phase.Enters executor unit start ledger told)
    (unfinished : ∀ result, phase = .ended result → isFinal result = false) :
    executor.KeepsEntry unit start told.failures ledger := by
  cases phase with
  | absent | waiting | running | calling | cutOff => exact enters.1
  | ended result =>
    rw [Enters, unfinished result rfl] at enters
    exact enters.1

end Phase.Enters

/-- The sole user of a key keeps its entry, phase by phase. -/
theorem Executor.SoleUser.lawful (sole : executor.SoleUser surroundings unit)
    (permanent : (executor.counter.home unit.retryKey).2 = none) :
    Phase.Lawful surroundings executor unit fun ledger told phase =>
      phase.Enters executor unit start ledger told where
  aside aside enters := enters.aside sole aside
  submitted _ enters := enters
  begun enters opening := enters.begun opening
  concluded enters closing := enters.concluded permanent closing
  entered enters := enters.entered
  left {now outcome _ told before _ _ _} enters closing :=
    have running : (Phase.running 0 outcome now).Enters executor unit start before.ledger told :=
      enters
    running.concluded permanent closing
  refused _ _ enters := enters
  cutWaiting _ _ enters := enters
  cutRunning _ _ _ enters := enters

/-- The entry follows the story of a lifecycle. -/
theorem Story.enters (sole : executor.SoleUser surroundings unit)
    (permanent : (executor.counter.home unit.retryKey).2 = none) {before after : Phase × World}
    (story : Story surroundings executor unit before after)
    (enters : before.1.Enters executor unit start before.2.ledger
      (before.2.account surroundings.mine)) :
    after.1.Enters executor unit start after.2.ledger (after.2.account surroundings.mine) :=
  story.keeps (sole.lawful permanent) sole.own enters

/-! ## The entry in a scene -/

namespace Scene

/-- The entry of a lifecycle that is the only user of its key, in an available counter without
expiry, at every moment of a scene. Until the lifecycle ends for good the count is that at the
beginning and one more for each failed invocation, and so it stays when a breaker, a shutdown or a
closed scheduler ends the lifecycle. Once the unit was processed, given up or abandoned there is no
entry, and a compensation already runs without one. -/
theorem entry_of_lifecycle (surroundings : Surroundings) (executor : Executor) (unit : WorkUnit)
    (start : Option Int) (world : World) (now : Nat) (moves : List Move)
    (sole : executor.SoleUser surroundings unit)
    (available : executor.counter.IsAvailable unit.retryKey world.ledger)
    (permanent : (executor.counter.home unit.retryKey).2 = none)
    (kept : (executor.counter.home unit.retryKey).1.find? world.ledger = start.map (·, none))
    (alone : starts surroundings.mine moves = [(executor, unit)])
    (allowed : ∀ move ∈ moves, move.Allowed surroundings) :
    let scene := (opening world now).play moves
    let ledger := scene.run.state.ledger
    let told := scene.run.state.account surroundings.mine
    ∃ phase : Phase, phase.Shows executor unit (scene.signsOf surroundings.mine) ∧
      phase.Enters executor unit start ledger told ∧
      (∀ result, scene.Gives unit result →
        phase = .ended result ∨
          (∃ invoked, phase = .cutOff invoked) ∧ result = .error .schedulerShutDown) ∧
      (∀ time result, phase = .ended result → isFinal result = true →
        (executor.counter.contains unit.retryKey time ledger).answer = .ok false) ∧
      (∀ time, (∀ result, phase = .ended result → isFinal result = false) →
        (executor.counter.count unit.retryKey time ledger).answer =
          .ok (start.getD 0 + told.failures).toNat) ∧
      ∀ (setback : Setback) (attempts : Nat) (compensation : Compensation) (time : Nat)
        (later : World), later.ledger.isAvailable = ledger.isAvailable →
          let compensating := executor.compensating unit setback compensation time later
          executor.giveUp unit setback attempts (some compensation) time later =
              Executor.compensated unit setback attempts compensation time
                (compensating.compensate time compensation setback) ∧
            executor.counter.IsEmpty unit.retryKey compensating.ledger := by
  intro scene ledger told
  obtain ⟨phase, shows, story, -⟩ := story_of_play world now moves allowed alone
  -- at the opening nothing has been told, so no attempt has failed
  have enters : phase.Enters executor unit start ledger told := story.enters sole permanent
    (⟨⟨available, kept⟩, rfl⟩ : Phase.absent.Enters executor unit start world.ledger {})
  refine ⟨phase, shows, enters, fun result => phase_of_gives shows sole.own,
    fun time result ended final => ?_, fun time unfinished => (enters.keeps unfinished).count time,
    fun setback attempts compensation time later same => ?_⟩
  · subst ended
    rw [Phase.Enters, if_pos final] at enters
    exact enters.contains time
  · exact ⟨Executor.giveUp_eq_compensated setback attempts compensation time later,
      (Executor.leavesNoEntry_compensating (enters.available.of_same same) setback compensation
        time).empty⟩

/-- A unit with a count of one fails once more, and a shutdown cuts its lifecycle off before the
next attempt: the count is two, and it stays. -/
theorem entry_of_lifecycle_cut_off :
    let executor : Executor :=
      { counter := .inProcess "counts" { defaultTtl := none }
        handler :=
          ⟨{ maxAttempts := 3, strategy := .fixed, baseDelay := .ofMillis 20 }, none⟩ }
    let unit : WorkUnit := ⟨"a", "deliver", none, .empty⟩
    let surroundings : Surroundings :=
      ⟨fun other => other.id = unit.id, fun _ _ => False, fun _ => True, fun _ => False⟩
    let operation : Operation :=
      { name := "down", respond := fun _ _ => ⟨.zero, .error (.of .timeout "late")⟩ }
    let counts : LocalCounter := { counts := Table.insert {} unit.retryKey ⟨1, none⟩ }
    let world : World :=
      { operations := Table.insert {} 0 operation
        ledger := { locals := Table.insert {} "counts" counts } }
    let moves : List Move :=
      [.submit executor unit, .loop .turn, .loop .turn, .shutDown 0, .loop .turn]
    let scene := (opening world 0).play moves
    (executor.SoleUser surroundings unit ∧
      executor.counter.IsAvailable unit.retryKey world.ledger ∧
      (executor.counter.home unit.retryKey).2 = none ∧
      (executor.counter.home unit.retryKey).1.find? world.ledger = (some 1).map (·, none) ∧
      starts surroundings.mine moves = [(executor, unit)] ∧
      ∀ move ∈ moves, move.Allowed surroundings) ∧
    scene.Gives unit (.error .schedulerShutDown) ∧
    ∀ time, (executor.counter.count unit.retryKey time scene.run.state.ledger).answer = .ok 2 := by
  intro executor unit surroundings operation counts world moves scene
  have own : surroundings.mine unit = true := by decide
  have sole : executor.SoleUser surroundings unit :=
    ⟨own, fun _ _ nobody => nobody.elim, fun _ nothing => nothing.elim⟩
  have available : executor.counter.IsAvailable unit.retryKey world.ledger := by decide +kernel
  have kept : (executor.counter.home unit.retryKey).1.find? world.ledger =
      (some 1).map (·, none) := by decide +kernel
  have alone : starts surroundings.mine moves = [(executor, unit)] := rfl
  have allowed : ∀ move ∈ moves, move.Allowed surroundings := by
    have submitted : (Move.submit executor unit).Allowed surroundings :=
      fun other => absurd (own.symm.trans other) Bool.noConfusion
    exact List.forall_mem_cons.2 ⟨submitted, List.forall_mem_cons.2 ⟨trivial,
      List.forall_mem_cons.2 ⟨trivial, List.forall_mem_cons.2 ⟨trivial,
        List.forall_mem_singleton.2 trivial⟩⟩⟩⟩
  have computed : World.isSettled 0 scene.run = true ∧
      ((scene.run.state.statuses.find? 0).bind (·.result?)).isNone = true ∧
      (scene.run.state.account surroundings.mine).failures = 1 := by
    decide +kernel
  have gives : scene.Gives unit (.error .schedulerShutDown) := by
    have handles : scene.handles = [⟨executor, unit, 0⟩] := rfl
    refine .inr ⟨⟨executor, unit, 0⟩, handles ▸ List.mem_singleton_self _, rfl, computed.1, ?_⟩
    rw [World.resultOf, Option.isNone_iff_eq_none.1 computed.2.1]
    rfl
  obtain ⟨phase, -, -, ending, -, count, -⟩ := entry_of_lifecycle surroundings executor unit (some 1)
    world 0 moves sole available rfl kept alone allowed
  refine ⟨⟨sole, available, rfl, kept, alone, allowed⟩, gives, fun time => ?_⟩
  have unfinished (result : Except Failure Completion) (ended : phase = .ended result) :
      isFinal result = false := by
    rcases ending _ gives with stopped | ⟨⟨invoked, cut⟩, -⟩
    · cases stopped.symm.trans ended
      rfl
    · cases cut.symm.trans ended
  rw [count time unfinished, computed.2.2]
  rfl

end Scene

end Resilience
