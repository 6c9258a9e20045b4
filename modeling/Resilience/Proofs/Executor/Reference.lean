import Resilience.Proofs.Executor.Numbers
import Mathlib.Data.Nat.Find

/-!
# Lifecycles and their reference

What a lifecycle in the background comes to can be told beforehand, if all its invocations are known:
when each of them is made, which one is the last, and what the result is. The lifecycle keeps to
this reference whatever else happens, as long as its counter, whenever an invocation ends, serves the
key at one and the same place without expiry or fails, nobody changes the operation or the count and
no scheduler is shut down. Between these times the counter may well be out of service.

The executor has neither a breaker nor a source, and its delays draw no random numbers.

## Main definitions

* `Reference` — a lifecycle with the responses to all its invocations
* `Reference.start`, `Reference.last`, `Reference.result` — the times of the invocations, the last
  one, and the result
* `Reference.Accords` — a world in which a lifecycle has kept to its reference so far

## Main statements

* `Reference.last_lt` — there is a last invocation
* `Story.accords` — a lifecycle keeps to its reference, step by step
-/

namespace Resilience

/-- A lifecycle in the background, with the responses to all the invocations it may come to. -/
structure Reference where
  executor : Executor
  unit : WorkUnit
  /-- The response to the invocation that follows a number of earlier ones. -/
  script : Nat → Response
  /-- The time at which the unit is submitted. -/
  begins : Nat

namespace Reference

variable (reference : Reference)

/-- The delay after an attempt that failed. -/
def delay (attempt : Nat) : Duration :=
  (reference.executor.handler.policy.delay attempt default).1

/-- The time of the invocation that follows a number of earlier ones. -/
def start : Nat → Nat
  | 0 => reference.begins
  | earlier + 1 =>
    start earlier + (reference.script earlier).latency.waitMillis +
      (reference.delay (earlier + 1)).waitMillis

/-- The time at which that invocation ends. -/
def finish (earlier : Nat) : Nat :=
  reference.start earlier + (reference.script earlier).latency.waitMillis

/-- Whether that invocation is the last one: it succeeds, does not find the unit again, leaves no
attempt, or fails in a way that is not worth another one. -/
def isLast (earlier : Nat) : Bool :=
  match (reference.script earlier).outcome with
  | .ok _ => true
  | .error fault =>
    (0 < earlier && fault.isKind .notFound) ||
      reference.executor.handler.policy.maxAttempts.toNat ≤ earlier + 1 ||
      !reference.executor.handler.policy.accepts fault

/-- After a failure of a unit that is there, the invocation is the last one unless it is retried. -/
theorem isLast_of_failed {earlier : Nat} {fault : Fault}
    (failed : (reference.script earlier).outcome = .error fault)
    (present : ¬ (0 < earlier ∧ fault.isKind .notFound = true)) :
    reference.isLast earlier = !reference.executor.isRetried fault (earlier + 1) := by
  have found : (decide (0 < earlier) && fault.isKind .notFound) = false :=
    Bool.eq_false_iff.2 fun both => present (by
      rw [Bool.and_eq_true, decide_eq_true_eq] at both
      exact both)
  have left : decide (reference.executor.handler.policy.maxAttempts.toNat ≤ earlier + 1) =
      !reference.executor.handler.policy.hasAttemptsLeft (max (earlier + 1) 1) := by
    rw [RetryPolicy.hasAttemptsLeft, Nat.max_eq_left (Nat.succ_pos earlier),
      decide_eq_decide.2 Nat.not_lt.symm, decide_not]
  rw [isLast, failed]
  dsimp only
  rw [found, Bool.false_or, left, Executor.isRetried, Bool.not_and]

theorem isLast_of_spent {earlier : Nat} (spent : reference.executor.mostInvocations ≤ earlier + 1) :
    reference.isLast earlier = true := by
  have most : reference.executor.handler.policy.maxAttempts.toNat ≤ earlier + 1 :=
    (Nat.le_max_right ..).trans spent
  rw [isLast]
  split
  · rfl
  · simp [most]

theorem exists_isLast : ∃ earlier, reference.isLast earlier = true :=
  ⟨reference.executor.mostInvocations, reference.isLast_of_spent (Nat.le_succ _)⟩

/-- The number of invocations before the last one. -/
def last : Nat := Nat.find reference.exists_isLast

theorem isLast_last : reference.isLast reference.last = true := Nat.find_spec reference.exists_isLast

theorem last_lt : reference.last < reference.executor.mostInvocations := by
  have least : reference.last ≤ reference.executor.mostInvocations - 1 := by
    refine Nat.find_min' _ (reference.isLast_of_spent ?_)
    omega
  have positive := reference.executor.mostInvocations_pos
  omega

theorem eq_last {earlier : Nat} (upTo : earlier ≤ reference.last)
    (isLast : reference.isLast earlier = true) : earlier = reference.last :=
  Nat.le_antisymm upTo (Nat.find_min' _ isLast)

theorem lt_last {earlier : Nat} (upTo : earlier ≤ reference.last)
    (another : reference.isLast earlier = false) : earlier < reference.last := by
  refine Nat.lt_of_le_of_ne upTo ?_
  rintro rfl
  exact Bool.noConfusion (another.symm.trans reference.isLast_last)

/-- What is known about the last attempt, if it failed. -/
def setback (fault : Fault) : Setback :=
  reference.executor.setback reference.unit (reference.finish reference.last) fault
    (reference.last + 1)

/-- The result of the lifecycle. -/
def result : Except Failure Completion :=
  match (reference.script reference.last).outcome with
  | .ok _ => .ok (.completed (reference.last + 1))
  | .error fault =>
    if 0 < reference.last ∧ fault.isKind .notFound then .ok (.abandoned (reference.last + 1))
    else if reference.executor.recovers (reference.setback fault) then
      .ok (.recovered (reference.last + 1))
    else .error (.exhausted reference.unit.action (reference.last + 1) fault)

/-- The actions of the compensation that run in the end. -/
def actions : List Compensation :=
  match (reference.script reference.last).outcome with
  | .ok _ => []
  | .error fault =>
    if 0 < reference.last ∧ fault.isKind .notFound then []
    else (reference.executor.handler.compensation.map (·.leaves)).getD []

theorem start_le_finish {earlier : Nat} (upTo : earlier ≤ reference.last) :
    reference.start earlier ≤ reference.finish reference.last := by
  have increasing : Monotone reference.start := by
    refine monotone_nat_of_le_succ fun earlier => ?_
    rw [start]
    omega
  exact (increasing upTo).trans (Nat.le_add_right _ _)

theorem finish_le_finish {earlier : Nat} (upTo : earlier ≤ reference.last) :
    reference.finish earlier ≤ reference.finish reference.last := by
  rcases Nat.lt_or_eq_of_le upTo with before | rfl
  · have next := reference.start_le_finish before
    rw [start] at next
    rw [finish]
    omega
  · exact Nat.le_refl _

/-! ## Worlds in accord with a reference -/

/-- Whether a call was made for the key of the unit. -/
def isOwn (call : Call) : Bool := call.unit.retryKey = reference.unit.retryKey

/-- The times at which the operation was invoked for the key of the unit. -/
def callTimes (world : World) : List Nat :=
  ((world.operation reference.executor.operation).calls.filter reference.isOwn).map (·.time)

/-- A world in which a number of invocations have been made as the reference tells. -/
structure Accords (made : Nat) (world : World) : Prop where
  responds (calls : List Call) :
    (world.operation reference.executor.operation).respond calls reference.unit =
      reference.script (calls.countP reference.isOwn)
  accepted :
    (world.operation reference.executor.operation).rejections.find? reference.unit.id = none
  times : reference.callTimes world = (List.range made).map reference.start
  isOpen : (world.scheduler reference.executor.scheduler).isShutDown = false

namespace Accords

variable {reference} {made : Nat} {world later : World}

theorem of_same (accords : reference.Accords made world)
    (operation : later.operation reference.executor.operation =
      world.operation reference.executor.operation)
    (scheduler : later.scheduler reference.executor.scheduler =
      world.scheduler reference.executor.scheduler) : reference.Accords made later := by
  refine ⟨fun calls => ?_, ?_, ?_, ?_⟩
  · rw [operation]
    exact accords.responds calls
  · rw [operation]
    exact accords.accepted
  · rw [callTimes, operation]
    exact accords.times
  · rw [scheduler]
    exact accords.isOpen

theorem of_fixed (accords : reference.Accords made world)
    (operations : later.operations = world.operations)
    (schedulers : later.schedulers = world.schedulers) : reference.Accords made later :=
  accords.of_same (by rw [World.operation, operations, World.operation])
    (World.scheduler_congr schedulers _)

/-- An operation that is not the same, or that is invoked on another unit. -/
theorem invoked_apart (accords : reference.Accords made world) {id now : Nat} {unit : WorkUnit}
    (apart : unit.retryKey ≠ reference.unit.retryKey)
    (operations : later.operations = world.operations.insert id
      ((world.operation id).invoke unit now).2)
    (schedulers : later.schedulers = world.schedulers) : reference.Accords made later := by
  have scheduler : later.scheduler reference.executor.scheduler =
      world.scheduler reference.executor.scheduler := World.scheduler_congr schedulers _
  -- an operation that is shared answers the calls of each unit apart from the others
  by_cases same : reference.executor.operation = id
  · subst same
    have operation : later.operation reference.executor.operation =
        ((world.operation reference.executor.operation).invoke unit now).2 := by
      rw [World.operation, operations, Table.find?_insert_self]
      rfl
    have other : reference.isOwn ⟨unit, now⟩ = false := decide_eq_false apart
    refine ⟨fun calls => ?_, ?_, ?_, ?_⟩
    · rw [operation]
      exact accords.responds calls
    · rw [operation]
      exact accords.accepted
    · rw [callTimes, operation, Operation.invoke, List.filter_append, List.filter_singleton, other,
        cond_false, List.append_nil]
      exact accords.times
    · rw [scheduler]
      exact accords.isOpen
  · refine accords.of_same ?_ scheduler
    rw [World.operation, operations, Table.find?_insert_ne _ _ same, World.operation]

/-- The next invocation of the lifecycle, made at its time. -/
theorem invoked (accords : reference.Accords made world)
    (operations : later.operations = world.operations.insert reference.executor.operation
      ((world.operation reference.executor.operation).invoke reference.unit
        (reference.start made)).2)
    (schedulers : later.schedulers = world.schedulers) : reference.Accords (made + 1) later := by
  have operation : later.operation reference.executor.operation =
      ((world.operation reference.executor.operation).invoke reference.unit
        (reference.start made)).2 := by
    rw [World.operation, operations, Table.find?_insert_self]
    rfl
  have own : reference.isOwn ⟨reference.unit, reference.start made⟩ = true := decide_eq_true rfl
  refine ⟨fun calls => ?_, ?_, ?_, ?_⟩
  · rw [operation]
    exact accords.responds calls
  · rw [operation]
    exact accords.accepted
  · have before := accords.times
    rw [callTimes] at before
    rw [callTimes, operation, Operation.invoke, List.filter_append, List.filter_singleton, own,
      cond_true, List.map_append, before, List.range_succ, List.map_append]
    rfl
  · rw [World.scheduler, schedulers]
    exact accords.isOpen

/-- The response to the next invocation. -/
theorem respond (accords : reference.Accords made world) :
    (world.operation reference.executor.operation).respond
      (world.operation reference.executor.operation).calls reference.unit =
        reference.script made := by
  have count := congrArg List.length accords.times
  rw [callTimes, List.length_map, List.length_map, List.length_range, ← List.countP_eq_length_filter]
    at count
  rw [accords.responds, count]

/-- The operation is not told to reject the unit. -/
theorem conclude (accords : reference.Accords made world) (outcome : Except Fault Unit) :
    (world.operation reference.executor.operation).conclude reference.unit outcome = outcome := by
  rw [Operation.conclude, accords.accepted]

end Accords

/-- An executor without a breaker and a source, whose delays draw no random numbers, and that
shares a budget. -/
structure Fits (budget : Budget) : Prop where
  shares : budget.Shares reference.executor reference.unit
  source : reference.executor.source = none
  breaker : reference.executor.breaker = none
  steady : reference.executor.handler.policy.strategy.usesEntropy = false

/-- Everybody else: other units are counted at other places, no scheduler is shut down, and nobody
changes the operation or the count. Stores may become unavailable and available again. -/
def others (budget : Budget) : Surroundings :=
  { budget.others fun _ => False with
    alters := fun change => budget.LeavesCount (.alter change) ∧
      ∀ made world, reference.Accords made world → reference.Accords made (change world) }

/-- The others, while nothing is changed from outside. -/
def company (budget : Budget) : Surroundings :=
  { reference.others budget with alters := fun _ => False }

end Reference

theorem Executor.beginAttempt_of_bare {executor : Executor} (source : executor.source = none)
    (breaker : executor.breaker = none) (unit : WorkUnit) (prior now : Nat) (world : World) :
    (executor.beginAttempt unit prior now world).1 =
      .running ((world.operation executor.operation).respond
        (world.operation executor.operation).calls unit) := by
  simp only [beginAttempt, isStillPending, source, invoke, World.acquire, breaker, Operation.invoke]
  split <;> rfl

/-- The first half of an attempt leaves the operations as they are, or invokes one. -/
theorem Executor.Opening.operations {executor : Executor} {unit : WorkUnit} {prior now : Nat}
    {world : World} {begun : Begun} {occurrences : List Occurrence} {after : World.Holdings}
    (opening : executor.Opening unit prior now world begun occurrences after) :
    after.operations = world.operations ∨
      after.operations = world.operations.insert executor.operation
        ((world.operation executor.operation).invoke unit now).2 := by
  cases opening with
  | denied | gone => exact .inl rfl
  | invoked pending call =>
    refine .inr ?_
    rw [call]

/-- A fixed delay is the same whatever the random numbers. -/
theorem RetryPolicy.delay_of_steady {policy : RetryPolicy}
    (steady : policy.strategy.usesEntropy = false) (attempt : Nat) (entropy : Entropy) :
    (policy.delay attempt entropy).1 = (policy.delay attempt default).1 := by
  rw [delay, delay, rawMillis, rawMillis]
  cases kind : policy.strategy with
  | fixed | linear | exponential => rfl
  | exponentialJitter | random =>
    rw [kind] at steady
    cases steady

/-! ## Stories in accord with a reference -/

section Story

variable {reference : Reference} {budget : Budget}

theorem Reference.Accords.aside {made : Nat} {world : World} {deed : Deed}
    (accords : reference.Accords made world) (fits : reference.Fits budget)
    (aside : deed.Aside (reference.others budget)) :
    reference.Accords made (world.perform deed) := by
  cases deed with
  | begin player other prior now =>
    obtain ⟨_, opening, -⟩ := player.opening_beginAttempt other prior now world
    rcases opening.operations with same | called
    · exact accords.of_fixed same opening.fixed.2
    · have apart : other.retryKey ≠ budget.key := of_decide_eq_false aside.1
      exact accords.invoked_apart (fits.shares.key ▸ apart) called opening.fixed.2
  | conclude player other prior outcome now =>
    obtain ⟨_, closing, -⟩ := player.closing_endAttempt other prior now world outcome
    obtain ⟨operations, -, schedulers⟩ := closing.fixed
    exact accords.of_fixed operations schedulers
  | publish | elapse => exact accords.of_fixed rfl rfl
  | setScheduler => exact aside.elim
  | alter change => exact (aside.2 made world accords).of_fixed rfl rfl

/-- What happens aside leaves the count as it is. -/
theorem Reference.leavesCount_of_aside {deed : Deed} (aside : deed.Aside (reference.others budget)) :
    budget.LeavesCount deed := by
  cases deed with
  | begin | conclude => exact aside.2
  | alter => exact aside.1
  | publish | elapse | setScheduler => trivial

/-- In company only known executors work, and nothing is changed. -/
theorem Reference.aside_of_company {deed : Deed} (aside : deed.Aside (reference.company budget)) :
    deed.Aside (reference.others budget) ∧ ∀ change, deed ≠ .alter change := by
  cases deed with
  | begin | conclude | setScheduler => exact ⟨aside, nofun⟩
  | publish | elapse => exact ⟨trivial, nofun⟩
  | alter => exact aside.elim

/-- A lifecycle that has kept to its reference so far: it waits for the next invocation of the
reference, the operation is running, or the lifecycle has ended with the result. -/
inductive Phase.Accords (reference : Reference) (budget : Budget) (actions : List Compensation)
    (world : World) : Phase → Prop
  | waiting {prior : Nat} (upTo : prior ≤ reference.last) (isAt : budget.IsAt prior world.ledger)
      (accords : reference.Accords prior world) (quiet : actions = []) :
    Accords reference budget actions world (.waiting prior (reference.start prior))
  | running {prior : Nat} (upTo : prior ≤ reference.last) (isAt : budget.IsAt prior world.ledger)
      (accords : reference.Accords (prior + 1) world) (quiet : actions = []) :
    Accords reference budget actions world
      (.running prior (reference.script prior).outcome (reference.finish prior))
  | ended (accords : reference.Accords (reference.last + 1) world)
      (acted : actions = reference.actions) :
    Accords reference budget actions world (.ended reference.result)
  | cutOff (invoked : Bool) : Accords reference budget actions world (.cutOff invoked)

/-- An attempt whose operation is invoked changes nothing but the calls of the operation. -/
theorem Executor.Opening.of_running {executor : Executor} {unit : WorkUnit} {prior now : Nat}
    {world : World} {response : Response} {occurrences : List Occurrence} {after : World.Holdings}
    (opening : executor.Opening unit prior now world (.running response) occurrences after) :
    after.ledger = world.ledger ∧
      after.operations = world.operations.insert executor.operation
        ((world.operation executor.operation).invoke unit now).2 ∧
      (account occurrences).actions = [] := by
  cases opening with
  | invoked pending call =>
    refine ⟨rfl, by rw [call], ?_⟩
    rw [account_append, Executor.account_check]
    rfl

/-- What the second half of an attempt comes to, in accord with a reference. -/
theorem Reference.Fits.closing (fits : reference.Fits budget) {prior : Nat}
    {before after : World.Holdings} {sequel : Sequel} {occurrences : List Occurrence}
    (upTo : prior ≤ reference.last) (keeps : budget.Keeps prior before.ledger)
    (closing : reference.executor.Closing reference.unit prior (reference.finish prior)
      (reference.script prior).outcome before sequel occurrences after) :
    (∃ result, sequel = .done result ∧ prior = reference.last ∧ result = reference.result ∧
        (account occurrences).actions = reference.actions) ∨
      ∃ delay, sequel = .retry (prior + 1) delay ∧ prior < reference.last ∧
        delay = reference.delay (prior + 1) ∧ budget.Keeps (prior + 1) after.ledger ∧
        (account occurrences).actions = [] := by
  have small : prior < Executor.greatestAttempt :=
    Nat.lt_of_le_of_lt upTo (reference.last_lt.trans_le reference.executor.mostInvocations_le)
  have next : Executor.nextAttempt prior = prior + 1 := Nat.min_eq_left small
  -- the number by which the executor decides is that of the reference
  have number := keeps.number fits.shares small (reference.finish prior) fun _ => rfl
  cases closing with
  | completed succeeded =>
    have last := reference.eq_last upTo (by rw [isLast, succeeded])
    subst last
    refine .inl ⟨_, rfl, rfl, ?_, ?_⟩
    · rw [result, succeeded, next]
    · rw [Executor.account_thanks, actions, succeeded]
  | vanished failed retried notFound =>
    have last := reference.eq_last upTo (by rw [isLast, failed]; simp [retried, notFound])
    subst last
    refine .inl ⟨_, rfl, rfl, ?_, ?_⟩
    · rw [result, failed, next]
      exact (if_pos ⟨retried, notFound⟩).symm
    · rw [actions, failed]
      exact (if_pos ⟨retried, notFound⟩).symm
  | retried entropy failed present numbered worthwhile =>
    rename_i fault attempt
    rw [number] at numbered
    subst numbered
    have another : reference.isLast prior = false := by
      rw [reference.isLast_of_failed failed present, worthwhile]
      rfl
    refine .inr ⟨_, rfl, reference.lt_last upTo another, ?_, keeps.increment fits.shares small _, rfl⟩
    rw [Nat.max_eq_left (Nat.succ_pos prior)]
    exact RetryPolicy.delay_of_steady fits.steady _ _
  | gaveUp sources failed present numbered spent =>
    rename_i fault attempt
    rw [number] at numbered
    subst numbered
    have last := reference.eq_last upTo (by
      rw [reference.isLast_of_failed failed present, spent]
      rfl)
    subst last
    obtain ⟨failures, given⟩ := account_givenUp reference.unit
      (reference.executor.setback reference.unit (reference.finish reference.last) fault
        (reference.last + 1)) (reference.last + 1) sources
      reference.executor.handler.compensation
    refine .inl ⟨_, rfl, rfl, ?_, ?_⟩
    · rw [Executor.result_givenUp, result, failed]
      exact (if_neg present).symm
    · rw [← List.singleton_append, account_append, given, actions, failed]
      exact (if_neg present).symm

namespace Phase.Accords

variable {world : World} {prior now : Nat}

/-- What happens aside leaves a lifecycle where it is. -/
theorem aside {phase : Phase} {deed : Deed} (fits : reference.Fits budget)
    (accords : phase.Accords reference budget
      (world.account (reference.others budget).mine).actions world)
    (aside : deed.Aside (reference.others budget)) :
    phase.Accords reference budget
      ((world.perform deed).account (reference.others budget).mine).actions
      (world.perform deed) := by
  have leaves := Reference.leavesCount_of_aside aside
  rw [aside.account]
  cases accords with
  | waiting upTo isAt accords quiet =>
    exact .waiting upTo (isAt.perform leaves) (accords.aside fits aside) quiet
  | running upTo isAt accords quiet =>
    exact .running upTo (isAt.perform leaves) (accords.aside fits aside) quiet
  | ended accords acted => exact .ended (accords.aside fits aside) acted
  | cutOff invoked => exact .cutOff invoked

/-- The first half of an attempt invokes the operation at the time of the reference. -/
theorem begun (fits : reference.Fits budget)
    (accords : (Phase.waiting prior now).Accords reference budget
      (world.account (reference.others budget).mine).actions world) :
    let half := reference.executor.beginAttempt reference.unit prior now world
    half.1 = .running (reference.script prior) ∧
      (ofBegun prior now half.1).Accords reference budget
        (half.2.account (reference.others budget).mine).actions half.2 := by
  have own : (reference.others budget).mine reference.unit = true := fits.shares.own fun _ => False
  obtain ⟨occurrences, opening, tale⟩ :=
    @Executor.tale_beginAttempt_of_mine reference.executor reference.unit prior now world _ own
  have running := Executor.beginAttempt_of_bare fits.source fits.breaker reference.unit prior
    now world
  cases accords with
  | waiting upTo isAt accords quiet =>
    rw [accords.respond] at running
    refine ⟨running, ?_⟩
    have schedulers := opening.fixed.2
    rw [running] at opening
    obtain ⟨ledger, operations, actions⟩ := opening.of_running
    rw [running, World.account_of_tale tale, Account.plus, actions, List.append_nil]
    refine .running upTo ?_ (accords.invoked operations schedulers) quiet
    rw [World.ledger_holdings] at ledger
    rw [ledger]
    exact isAt

/-- If the counter serves the key when an invocation ends, the lifecycle goes on as the reference
tells. -/
theorem concluded {outcome : Except Fault Unit} (fits : reference.Fits budget)
    (served : budget.Served world.ledger)
    (accords : (Phase.running prior outcome now).Accords reference budget
      (world.account (reference.others budget).mine).actions world) :
    let half := reference.executor.endAttempt reference.unit prior outcome now world
    (ofSequel now half.1).Accords reference budget
      (half.2.account (reference.others budget).mine).actions half.2 := by
  have own : (reference.others budget).mine reference.unit = true := fits.shares.own fun _ => False
  obtain ⟨occurrences, closing, tale⟩ := @Executor.tale_endAttempt_of_mine reference.executor
    reference.unit prior now world _ own outcome
  -- the time and the outcome of the call are those that the reference has for it
  cases accords with
  | running upTo isAt accords quiet =>
    rw [accords.conclude] at closing
    obtain ⟨operations, -, schedulers⟩ := closing.fixed
    have still := accords.of_fixed operations schedulers
    have told := World.account_of_tale tale
    dsimp only
    rcases fits.closing upTo ⟨served, isAt⟩ closing with
      ⟨result, done, rfl, rfl, acted⟩ | ⟨delay, again, before, rfl, kept, acted⟩
    · rw [done, told, Account.plus, quiet, acted, List.nil_append]
      exact .ended still rfl
    · rw [again, told, Account.plus, quiet, acted]
      exact .waiting before kept.holds still rfl

end Phase.Accords

/-- While nothing is changed from outside and the counter serves the key, a lifecycle keeps to its
reference, step by step. -/
theorem Story.accords (fits : reference.Fits budget) {before after : Phase × World}
    (story : Story (reference.company budget) reference.executor reference.unit before after)
    (served : budget.Served before.2.ledger)
    (accords : before.1.Accords reference budget
      (before.2.account (reference.others budget).mine).actions before.2) :
    after.1.Accords reference budget (after.2.account (reference.others budget).mine).actions
      after.2 := by
  -- the counter goes on serving the key, since nobody makes a store unavailable
  suffices both : budget.Served after.2.ledger ∧ after.1.Accords reference budget
      (after.2.account (reference.others budget).mine).actions after.2 from both.2
  induction story with
  | refl => exact ⟨served, accords⟩
  | tail _ step ih =>
    obtain ⟨served, accords⟩ := ih
    cases step with
    | aside deed aside =>
      obtain ⟨aside, unaltered⟩ := Reference.aside_of_company aside
      exact ⟨served.of_same (Deed.isAvailable_perform unaltered), accords.aside fits aside⟩
    | @begun world prior now =>
      obtain ⟨_, opening, -⟩ :=
        reference.executor.opening_beginAttempt reference.unit prior now world
      exact ⟨served.of_same opening.elsewhere.1, (accords.begun fits).2⟩
    | @concluded world prior now outcome =>
      obtain ⟨_, closing, -⟩ :=
        reference.executor.closing_endAttempt reference.unit prior now world outcome
      exact ⟨served.of_same closing.elsewhere.1, accords.concluded fits served⟩
    | refused prior due shut =>
      -- the scheduler of a reference is never shut down
      cases accords with
      | waiting upTo isAt accords => exact Bool.noConfusion (accords.isOpen.symm.trans shut)
    | cutWaiting | cutRunning => exact ⟨served, .cutOff _⟩
    | submitted | entered | left => cases accords

end Story

end Resilience
