import Resilience.Proofs.Counter.Home
import Resilience.Proofs.Executor.Foreground
import Resilience.Retry.Inline

/-!
# Retries in the background and in place

An operation can be retried by a loop that waits in place, or by an executor that schedules one
attempt after the other and takes their numbers from a counter. With the same policy, and as long as
nothing else decides about an attempt, both make the same invocations at the same times and come to
the same end.

What else could decide are a breaker, a source, a compensation, counts that expire or are there from
before, and a unit that is not found when it is tried again.

## Main definitions

* `Counter.IsPermanent` — counters that let no count expire
* `FindsUnit` — an attempt that is not a retry of a unit that is not found
* `Reference.inPlace` — a lifecycle whose invocations come to the same as those of a loop in place

## Main statements

* `Reference.retryFrom_eq` — a loop in place keeps to the reference
* `Reference.Fits.awaits`, `Reference.Fits.finished` — so does a lifecycle alone on its loop
* `Executor.execute_eq_retryInPlace` — both come to the same
-/

namespace Resilience

/-! ## Counts that do not expire -/

namespace Counter

/-- Whether a counter lets no count expire that is incremented with its default time to live. -/
def IsPermanent : Counter → Prop
  | inProcess _ config => config.defaultTtl = none
  | shared _ _ ttl => ttl = none
  | hybrid near far _ _ => near.IsPermanent ∧ far.IsPermanent
  | plain _ => True

variable {counter : Counter} {available : String → Bool} {key : String} {place : Place}
  {ttl : Option Duration}

/-- An increment without a time to live gets none. -/
theorem ttl_of_locateFor (found : counter.locateFor available key none = .ok (place, ttl)) :
    ttl = none := by
  induction counter with
  | inProcess id config =>
    cases found
    rfl
  | shared name start defaultTtl =>
    simp only [locateFor, checkTtl, Except.bind] at found
    split at found <;> cases found
    rfl
  | hybrid near far route fallsBack near_found far_found =>
    rw [locateFor] at found
    exact (of_routed found).elim far_found near_found
  | plain inner inner_found => exact inner_found found

theorem ttl_of_locate (permanent : counter.IsPermanent)
    (found : counter.locate available key = .ok (place, ttl)) : ttl = none := by
  induction counter with
  | inProcess id config =>
    have never : config.defaultTtl = none := permanent
    have located : (inProcess id config).locateFor available key config.defaultTtl =
      .ok (place, ttl) := found
    rw [never] at located
    exact ttl_of_locateFor located
  | shared name start defaultTtl =>
    have never : defaultTtl = none := permanent
    subst never
    exact ttl_of_locateFor found
  | hybrid near far route fallsBack near_found far_found =>
    rw [locate] at found
    exact (of_routed found).elim (far_found permanent.2) (near_found permanent.1)
  | plain inner => exact ttl_of_locateFor found

/-- What the attempts of a unit are counted by. -/
def budget (counter : Counter) (key : RetryKey) (maxAttempts : UInt32)
    (available : String → Bool) : Budget :=
  ⟨counter, key, maxAttempts, (counter.locate available key).toOption.map (·.1)⟩

/-- Nothing has been counted by a counter that is empty. -/
theorem keeps_of_isEmpty {ledger : Ledger} (permanent : counter.IsPermanent) (key : RetryKey)
    (empty : counter.IsEmpty key ledger) (maxAttempts : UInt32) :
    (counter.budget key maxAttempts ledger.isAvailable).Keeps 0 ledger := by
  cases located : counter.locate ledger.isAvailable key with
  | error failure =>
    have nowhere : (counter.budget key maxAttempts ledger.isAvailable).place? = none := by
      rw [budget, located]
      rfl
    refine ⟨?_, fun place kept => ?_⟩
    · rw [Budget.Served, nowhere]
      exact ⟨failure, located⟩
    · rw [nowhere] at kept
      cases kept
  | ok found =>
    obtain ⟨place, ttl⟩ := found
    obtain rfl := ttl_of_locate permanent located
    refine .of_unused (by rw [budget, located]; rfl) located ?_
    exact empty place (mem_places_of_locate located).1

end Counter

/-! ## The loop in place -/

section

variable {α : Type}

/-- An attempt that is not a retry of a unit that is not found. -/
def FindsUnit (operation : Nat → Invocation α) (attempt : Nat) : Prop :=
  1 < attempt → ∀ fault, (operation attempt).outcome = .error fault →
    fault.isKind .notFound = false

/-- A loop makes the attempt it starts with. -/
theorem mem_tries_retryFrom (policy : RetryPolicy) (operation : Nat → Invocation α)
    (attempt now : Nat) (entropy : Entropy) :
    (attempt, now) ∈ (retryFrom policy operation attempt now entropy).tries := by
  rw [retryFrom]
  split
  · exact List.mem_cons_self
  · split
    · split <;> exact List.mem_cons_self
    · exact List.mem_cons_self

end

namespace Reference

/-- A lifecycle whose invocations come to the same as those of a loop in place. -/
def inPlace {α : Type} (executor : Executor) (unit : WorkUnit) (operation : Nat → Invocation α)
    (begins : Nat) : Reference where
  executor
  unit
  script earlier :=
    ⟨(operation (earlier + 1)).latency, (operation (earlier + 1)).outcome.map fun _ => ()⟩
  begins

section

variable {α : Type} {executor : Executor} {unit : WorkUnit} {operation : Nat → Invocation α}
  {begins : Nat}

theorem isLast_inPlace_of_ok {earlier : Nat} {value : α}
    (succeeded : (operation (earlier + 1)).outcome = .ok value) :
    (inPlace executor unit operation begins).isLast earlier = true := by
  have outcome : ((inPlace executor unit operation begins).script earlier).outcome = .ok () := by
    simp only [inPlace, succeeded, Except.map]
  rw [isLast, outcome]

/-- A failed invocation is the last one exactly if the policy gives up. -/
theorem isLast_inPlace_of_error {earlier : Nat} {fault : Fault}
    (failed : (operation (earlier + 1)).outcome = .error fault)
    (found : FindsUnit operation (earlier + 1)) :
    (inPlace executor unit operation begins).isLast earlier =
      !(decide (earlier + 1 < executor.handler.policy.maxAttempts.toNat) &&
        executor.handler.policy.accepts fault) := by
  have outcome : ((inPlace executor unit operation begins).script earlier).outcome =
      .error fault := by
    simp only [inPlace, failed, Except.map]
  have present : ¬ (0 < earlier ∧ fault.isKind .notFound = true) := fun gone =>
    Bool.noConfusion ((found (Nat.succ_lt_succ gone.1) fault failed).symm.trans gone.2)
  rw [isLast_of_failed _ outcome present, Executor.isRetried, RetryPolicy.hasAttemptsLeft,
    Nat.max_eq_left (Nat.succ_pos earlier)]
  rfl

/-- The loop ends with its last invocation. -/
theorem retryFrom_of_isLast {earlier : Nat} (found : FindsUnit operation (earlier + 1))
    (last : (inPlace executor unit operation begins).isLast earlier = true) (now : Nat)
    (entropy : Entropy) :
    retryFrom executor.handler.policy operation (earlier + 1) now entropy =
      ⟨[(earlier + 1, now)], now + (operation (earlier + 1)).latency.waitMillis,
        (operation (earlier + 1)).outcome⟩ := by
  rw [retryFrom]
  cases outcome : (operation (earlier + 1)).outcome with
  | ok value => rfl
  | error fault =>
    rw [isLast_inPlace_of_error outcome found, Bool.not_eq_true', Bool.and_eq_false_iff, decide_eq_false_iff_not] at last
    dsimp only
    rcases last with spent | refused
    · rw [dif_neg spent]
    · split
      · rw [refused]
        rfl
      · rfl

/-- After any other invocation the loop goes on, when the delay is over. -/
theorem retryFrom_of_not_isLast (steady : executor.handler.policy.strategy.usesEntropy = false)
    {earlier : Nat} (found : FindsUnit operation (earlier + 1))
    (another : (inPlace executor unit operation begins).isLast earlier = false) (now : Nat)
    (entropy : Entropy) :
    ∃ entropy', retryFrom executor.handler.policy operation (earlier + 1) now entropy =
      let rest := retryFrom executor.handler.policy operation (earlier + 2)
        (now + (operation (earlier + 1)).latency.waitMillis +
          ((inPlace executor unit operation begins).delay (earlier + 1)).waitMillis) entropy'
      { rest with tries := (earlier + 1, now) :: rest.tries } := by
  cases outcome : (operation (earlier + 1)).outcome with
  | ok value =>
    rw [isLast_inPlace_of_ok outcome] at another
    cases another
  | error fault =>
    rw [isLast_inPlace_of_error outcome found, Bool.not_eq_false', Bool.and_eq_true, decide_eq_true_iff] at another
    refine ⟨(executor.handler.policy.delay (earlier + 1) entropy).2, ?_⟩
    have delay : (inPlace executor unit operation begins).delay (earlier + 1) =
        (executor.handler.policy.delay (earlier + 1) entropy).1 :=
      (RetryPolicy.delay_of_steady steady _ _).symm
    rw [retryFrom, outcome, delay]
    dsimp only
    rw [dif_pos another.1, if_pos another.2]

/-- A loop in place keeps to the reference, and ends with the outcome of its last invocation. -/
theorem retryFrom_eq (steady : executor.handler.policy.strategy.usesEntropy = false)
    {earlier now : Nat} (upTo : earlier ≤ (inPlace executor unit operation begins).last)
    (due : begins + now = (inPlace executor unit operation begins).start earlier)
    (entropy : Entropy)
    (found : ∀ made ∈
      (retryFrom executor.handler.policy operation (earlier + 1) now entropy).tries,
        FindsUnit operation made.1) :
    let reference := inPlace executor unit operation begins
    let loop := retryFrom executor.handler.policy operation (earlier + 1) now entropy
    loop.result = (operation (reference.last + 1)).outcome ∧
      loop.tries.map (fun made => (made.1, begins + made.2)) =
        (List.range' earlier (reference.last + 1 - earlier)).map fun made =>
          (made + 1, reference.start made) := by
  intro reference
  change earlier ≤ reference.last at upTo
  change begins + now = reference.start earlier at due
  -- induction on the invocations that are left; the entropy changes, and does not matter
  induction left : reference.last - earlier generalizing earlier now entropy with
  | zero =>
    obtain rfl : earlier = reference.last := by omega
    have here := found _ (mem_tries_retryFrom ..)
    rw [retryFrom_of_isLast here reference.isLast_last, Nat.add_sub_cancel_left]
    exact ⟨rfl, congrArg (fun time => [(reference.last + 1, time)]) due⟩
  | succ left ih =>
    have before : earlier < reference.last := by omega
    have another : reference.isLast earlier = false :=
      Bool.eq_false_iff.2 (Nat.find_min reference.exists_isLast before)
    have here := found _ (mem_tries_retryFrom ..)
    obtain ⟨entropy', again⟩ := retryFrom_of_not_isLast steady here another now entropy
    have next : begins + (now + (operation (earlier + 1)).latency.waitMillis +
        (reference.delay (earlier + 1)).waitMillis) = reference.start (earlier + 1) := by
      rw [start, ← due]
      simp only [reference, inPlace]
      omega
    rw [again] at found ⊢
    have later := fun made among => found made (List.mem_cons_of_mem _ among)
    obtain ⟨result, tries⟩ := ih entropy' later before next (by omega)
    have rest : reference.last + 1 - earlier = reference.last + 1 - (earlier + 1) + 1 := by omega
    dsimp only
    rw [List.map_cons, tries, due, rest, List.range'_succ, List.map_cons]
    exact ⟨result, rfl⟩

end

/-! ## The lifecycle alone on its loop -/

section

variable {reference : Reference} {budget : Budget} {world : World} {made : Nat}

theorem Accords.elapse (accords : reference.Accords made world) (before after : Nat) :
    reference.Accords made (world.elapse before after) :=
  accords.of_fixed rfl rfl

theorem keeps_elapse (keeps : budget.Keeps made world.ledger) (before after : Nat) :
    budget.Keeps made (world.elapse before after).ledger :=
  ⟨keeps.serves, fun place kept => (keeps.holds place kept).elapse _ _⟩

/-- The first half of an attempt invokes the operation. -/
theorem Fits.first (fits : reference.Fits budget) (keeps : budget.Keeps made world.ledger)
    (accords : reference.Accords made world) :
    ∃ world', reference.executor.goOn reference.unit
        (.awaits (.first made) (reference.start made) world) =
        .awaits (.second made (reference.script made).outcome) (reference.finish made) world' ∧
      budget.Keeps made world'.ledger ∧ reference.Accords (made + 1) world' := by
  have running := Executor.beginAttempt_of_bare fits.source fits.breaker reference.unit made
    (reference.start made) world
  rw [accords.respond] at running
  obtain ⟨_, opening, -⟩ := reference.executor.opening_beginAttempt reference.unit made
    (reference.start made) world
  rw [Executor.goOn]
  generalize reference.executor.beginAttempt reference.unit made (reference.start made) world =
    begun at running opening ⊢
  obtain ⟨begun, invoked⟩ := begun
  obtain rfl : begun = .running (reference.script made) := running
  obtain ⟨ledger, operations, -⟩ := opening.of_running
  have kept : invoked.ledger = world.ledger := ledger
  exact ⟨_, rfl, keeps_elapse (kept ▸ keeps) _ _,
    (accords.invoked operations opening.fixed.2).elapse _ _⟩

/-- The second half ends the lifecycle with the last invocation, and before that it leads to the
next attempt. -/
theorem Fits.second (fits : reference.Fits budget) (upTo : made ≤ reference.last)
    (keeps : budget.Keeps made world.ledger) (accords : reference.Accords (made + 1) world) :
    ∃ world', reference.Accords (made + 1) world' ∧
      (reference.executor.goOn reference.unit
          (.awaits (.second made (reference.script made).outcome) (reference.finish made) world) =
          .finished (reference.finish made) reference.result world' ∧ made = reference.last ∨
        reference.executor.goOn reference.unit
          (.awaits (.second made (reference.script made).outcome) (reference.finish made) world) =
          .awaits (.first (made + 1)) (reference.start (made + 1)) world' ∧
          made < reference.last ∧ budget.Keeps (made + 1) world'.ledger) := by
  obtain ⟨_, closing, -⟩ := reference.executor.closing_endAttempt reference.unit made
    (reference.finish made) world (reference.script made).outcome
  rw [accords.conclude] at closing
  rw [Executor.goOn]
  generalize reference.executor.endAttempt reference.unit made (reference.script made).outcome
    (reference.finish made) world = ended at closing ⊢
  obtain ⟨sequel, after⟩ := ended
  obtain ⟨operations, -, schedulers⟩ := closing.fixed
  have still : reference.Accords (made + 1) after := accords.of_fixed operations schedulers
  rcases fits.closing upTo keeps closing with
    ⟨result, rfl, last, rfl, -⟩ | ⟨delay, rfl, before, rfl, kept, -⟩
  · exact ⟨after, still, .inl ⟨rfl, last⟩⟩
  · exact ⟨_, still.elapse _ _, .inr ⟨rfl, before, keeps_elapse kept _ _⟩⟩

/-- A lifecycle alone on its loop makes its attempts at the times of the reference. -/
theorem Fits.awaits (fits : reference.Fits budget) (keeps : budget.Keeps 0 world.ledger)
    (accords : reference.Accords 0 world) (upTo : made ≤ reference.last) :
    ∃ world', (reference.executor.goOn reference.unit)^[2 * made]
        (.awaits (.first 0) reference.begins world) =
        .awaits (.first made) (reference.start made) world' ∧
      budget.Keeps made world'.ledger ∧ reference.Accords made world' := by
  induction made with
  | zero => exact ⟨world, rfl, keeps, accords⟩
  | succ made ih =>
    obtain ⟨before, due, keeps, accords⟩ := ih (Nat.le_of_succ_le upTo)
    obtain ⟨between, invoked, keeps, accords⟩ := fits.first keeps accords
    obtain ⟨after, accords, ⟨-, last⟩ | ⟨again, -, keeps⟩⟩ :=
      fits.second (Nat.le_of_succ_le upTo) keeps accords
    · omega
    · refine ⟨after, ?_, keeps, accords⟩
      rw [Nat.mul_succ, Nat.add_comm, Function.iterate_add_apply, due, Function.iterate_succ_apply,
        Function.iterate_one, invoked, again]

/-- It ends with the result of the reference. -/
theorem Fits.finished (fits : reference.Fits budget) (keeps : budget.Keeps 0 world.ledger)
    (accords : reference.Accords 0 world) :
    ∃ world', (reference.executor.goOn reference.unit)^[2 * (reference.last + 1)]
        (.awaits (.first 0) reference.begins world) =
        .finished (reference.finish reference.last) reference.result world' ∧
      reference.Accords (reference.last + 1) world' := by
  obtain ⟨before, due, keeps, accords⟩ := fits.awaits keeps accords (Nat.le_refl reference.last)
  obtain ⟨between, invoked, keeps, accords⟩ := fits.first keeps accords
  obtain ⟨after, accords, ⟨finished, -⟩ | ⟨-, beyond, -⟩⟩ :=
    fits.second (Nat.le_refl reference.last) keeps accords
  · refine ⟨after, ?_, accords⟩
    rw [Nat.mul_succ, Nat.add_comm, Function.iterate_add_apply, due, Function.iterate_succ_apply,
      Function.iterate_one, invoked, finished]
  · omega

end

/-- The result of a lifecycle of a bare executor is that of the loop in place. -/
theorem result_inPlace {α : Type} {executor : Executor} {unit : WorkUnit}
    {operation : Nat → Invocation α} {begins : Nat}
    (compensation : executor.handler.compensation = none)
    (found : FindsUnit operation ((inPlace executor unit operation begins).last + 1)) :
    let reference := inPlace executor unit operation begins
    reference.result = match (operation (reference.last + 1)).outcome with
      | .ok _ => .ok (.completed (reference.last + 1))
      | .error fault => .error (.exhausted unit.action (reference.last + 1) fault) := by
  intro reference
  cases outcome : (operation (reference.last + 1)).outcome with
  | ok value =>
    have succeeded : (reference.script reference.last).outcome = .ok () := by
      simp only [reference, inPlace] at outcome ⊢
      rw [outcome]
      rfl
    rw [result, succeeded]
  | error fault =>
    have failed : (reference.script reference.last).outcome = .error fault := by
      simp only [reference, inPlace] at outcome ⊢
      rw [outcome]
      rfl
    -- a last invocation that is not the first one has found its unit
    have present : ¬ (0 < reference.last ∧ fault.isKind .notFound = true) := fun gone =>
      Bool.noConfusion ((found (Nat.succ_lt_succ gone.1) fault outcome).symm.trans gone.2)
    have nobody (setback : Setback) : reference.executor.recovers setback = false := by
      rw [Executor.recovers, show reference.executor.handler.compensation = none from compensation]
      rfl
    rw [result, failed]
    dsimp only
    rw [if_neg present, nobody, if_neg Bool.false_ne_true]
    rfl

end Reference

/-- Executing a unit alone comes to the same as retrying its operation in place, if the executor has
nothing but its policy and an empty counter without expiry to go by, and if the unit is not missing
when it is tried again. The loop in place numbers its invocations from one, and never makes more of
them than a number of attempts can tell; the executor makes as many, at the same times. If the loop
returns a value, the unit is completed after that many attempts, and if it returns a fault, the unit
has failed with it after that many. -/
theorem Executor.execute_eq_retryInPlace {α : Type} (executor : Executor) (unit : WorkUnit)
    (run : Universe) (operation : Nat → Invocation α) (entropy : Entropy)
    (source : executor.source = none) (breaker : executor.breaker = none)
    (compensation : executor.handler.compensation = none)
    (steady : executor.handler.policy.strategy.usesEntropy = false)
    (permanent : executor.counter.IsPermanent)
    (empty : executor.counter.IsEmpty unit.retryKey run.state.ledger)
    (idle : run.loop.tasks = [])
    (accords : (Reference.inPlace executor unit operation run.loop.now).Accords 0 run.state)
    (found : ∀ made ∈ (retryInPlace executor.handler.policy operation entropy).tries,
      FindsUnit operation made.1) :
    let loop := retryInPlace executor.handler.policy operation entropy
    let count := loop.tries.length
    loop.tries.map (·.1) = List.range' 1 count ∧
      0 < count ∧ count ≤ max 1 executor.handler.policy.maxAttempts.toNat ∧
      count ≤ greatestAttempt ∧
      ∀ turns, 6 * count ≤ turns + 1 →
        let executed := executor.execute turns unit run
        (Reference.inPlace executor unit operation run.loop.now).callTimes executed.2.state =
            loop.tries.map (fun made => run.loop.now + made.2) ∧
          executed.1 = match loop.result with
            | .ok _ => .ok (.completed count)
            | .error fault => .error (.exhausted unit.action count fault) := by
  intro loop count
  let reference := Reference.inPlace executor unit operation run.loop.now
  let budget := executor.counter.budget unit.retryKey executor.handler.policy.maxAttempts
    run.state.ledger.isAvailable
  have fits : reference.Fits budget := ⟨⟨rfl, rfl, rfl⟩, source, breaker, steady⟩
  have keeps : budget.Keeps 0 run.state.ledger :=
    Counter.keeps_of_isEmpty permanent unit.retryKey empty _
  obtain ⟨world, finished, ended⟩ : ∃ world, (executor.goOn unit)^[2 * (reference.last + 1)]
      (.awaits (.first 0) run.loop.now run.state) =
        .finished (reference.finish reference.last) reference.result world ∧
      reference.Accords (reference.last + 1) world := fits.finished keeps accords
  obtain ⟨result, tries⟩ : loop.result = (operation (reference.last + 1)).outcome ∧
      loop.tries.map (fun made => (made.1, run.loop.now + made.2)) =
        (List.range' 0 (reference.last + 1)).map fun made => (made + 1, reference.start made) :=
    Reference.retryFrom_eq steady (Nat.zero_le _) (Nat.add_zero run.loop.now) entropy found
  have length : count = reference.last + 1 := by
    have same := congrArg List.length tries
    rwa [List.length_map, List.length_map, List.length_range'] at same
  -- the loop makes the last invocation of the reference, too, so that this one finds the unit
  have foundLast : FindsUnit operation (reference.last + 1) := by
    have among : (reference.last + 1, reference.start reference.last) ∈
        loop.tries.map fun made => (made.1, run.loop.now + made.2) := by
      rw [tries]
      exact List.mem_map_of_mem (List.mem_range'_1.2 ⟨Nat.zero_le _, by omega⟩)
    obtain ⟨made, among, same⟩ := List.mem_map.1 among
    have number : made.1 = reference.last + 1 := congrArg Prod.fst same
    exact number ▸ found made among
  have numbers := congrArg (List.map Prod.fst) tries
  have times := congrArg (List.map Prod.snd) tries
  rw [List.map_map, List.map_map] at numbers times
  have small : reference.last < max 1 executor.handler.policy.maxAttempts.toNat :=
    reference.last_lt
  have attempts := executor.handler.policy.maxAttempts.toNat_lt
  refine ⟨?_, by omega, by omega, by rw [greatestAttempt]; omega, fun turns enough => ?_⟩
  · rw [length]
    refine numbers.trans ((List.map_congr_left fun made _ => Nat.add_comm made 1).trans ?_)
    exact List.map_add_range' 0 (reference.last + 1) 1
  · have reaches : executor.Reaches unit run (2 * (reference.last + 1))
        (executor.execute turns unit run) :=
      reaches_execute executor unit idle accords.isOpen (by omega)
    obtain ⟨reached, told, further⟩ := reaches
    -- with that many turns the work has come to its end, wherever the loop has stopped
    have final : (executor.goOn unit)^[reached] (.awaits (.first 0) run.loop.now run.state) =
        .finished (reference.finish reference.last) reference.result world :=
      (iterate_goOn_eq (by rw [finished]; rfl) further).trans finished
    obtain ⟨returned, -, alike⟩ := told.ended final
    have called : reference.callTimes (executor.execute turns unit run).2.state =
        reference.callTimes world := by
      rw [Reference.callTimes, World.operation, alike.operations, ← World.operation,
        ← Reference.callTimes]
    refine ⟨called.trans (ended.times.trans ?_), ?_⟩
    · rw [List.range_eq_range']
      exact times.symm
    · rw [returned, Reference.result_inPlace compensation foundLast, result, length]

/-- A first attempt that fails late, and a second one that succeeds, in either way. -/
theorem Executor.execute_eq_retryInPlace_second :
    let executor : Executor :=
      { counter := .inProcess "counts" { defaultTtl := none }
        handler :=
          ⟨{ maxAttempts := 3, strategy := .fixed, baseDelay := .ofMillis 20 }, none⟩ }
    let unit : WorkUnit := ⟨"a", "deliver", none, .empty⟩
    let operation (attempt : Nat) : Invocation Unit :=
      if attempt = 1 then ⟨.ofMillis 5, .error (.of .timeout "late")⟩ else ⟨.zero, .ok ()⟩
    let reference := Reference.inPlace executor unit operation 0
    let flaky : Operation :=
      { name := "flaky", respond := fun calls _ => reference.script (calls.countP reference.isOwn) }
    let run : Universe := ⟨{}, { operations := Table.insert {} 0 flaky }⟩
    let loop := retryInPlace executor.handler.policy operation default
    let executed := executor.execute 11 unit run
    (executor.counter.IsEmpty unit.retryKey run.state.ledger ∧ reference.Accords 0 run.state ∧
      ∀ made ∈ loop.tries, FindsUnit operation made.1) ∧
      loop.tries = [(1, 0), (2, 25)] ∧ loop.result = .ok () ∧
      reference.callTimes executed.2.state = [0, 25] ∧ executed.1 = .ok (.completed 2) := by
  intro executor unit operation reference flaky run loop executed
  have empty : executor.counter.IsEmpty unit.retryKey run.state.ledger := fun place kept => by
    obtain rfl := List.mem_singleton.1 kept
    rfl
  have accords : reference.Accords 0 run.state := ⟨fun _ => rfl, rfl, rfl, rfl⟩
  have found (made : Nat × Nat) (_ : made ∈ loop.tries) : FindsUnit operation made.1 := by
    intro retried fault failed
    simp only [operation, if_neg (Nat.ne_of_gt retried)] at failed
    cases failed
  have tries : loop.tries = [(1, 0), (2, 25)] := by decide +kernel
  have result : loop.result = .ok () := by
    have value : loop.result.toOption = some () := by decide +kernel
    generalize loop.result = result at value ⊢
    cases result with
    | ok => rfl
    | error => cases value
  obtain ⟨-, -, -, -, ends⟩ := execute_eq_retryInPlace executor unit run operation default rfl rfl
    rfl rfl rfl empty rfl accords found
  obtain ⟨times, returned⟩ := ends 11 (by decide +kernel)
  refine ⟨⟨empty, accords, found⟩, tries, result, ?_, ?_⟩
  · exact times.trans (congrArg (List.map fun made => 0 + made.2) tries)
  · rw [returned, show (retryInPlace _ operation default).result = _ from result]
    exact congrArg (fun tries => Except.ok (Completion.completed tries.length)) tries

end Resilience
