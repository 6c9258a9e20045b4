import Resilience.Proofs.Executor.Budget

/-!
# Numbers of attempts

A counter that counts the failed attempts of a lifecycle without a gap gives every attempt the number
it has in the lifecycle: so does a counter that keeps the count at one place without expiry, and so
does one that fails every time, since then the number is the one after the number handed over. The
policy is then asked with the true number, and the operation is invoked no more often than it allows.

A counter that answers now and then, or forgets, gives no such bound.

## Main definitions

* `Executor.Counts` — a counter counts the attempts of a lifecycle without a gap

## Main statements

* `Budget.counts` — a counter that serves a key without expiry, or fails every time, does
* `Story.numbered` — every attempt has the number of the invocations before it
* `Scene.invocations_within_budget` — the budget of a lifecycle under a permanent counter
* `Scene.invocations_beyond_budget` — a counter whose entries expire does not keep to the budget
-/

namespace Resilience

/-- A counter counts the failed attempts of a lifecycle without a gap, whatever happens aside. -/
structure Executor.Counts (surroundings : Surroundings) (executor : Executor) (unit : WorkUnit)
    (holds : Nat → Ledger → Prop) : Prop where
  number {prior : Nat} {ledger : Ledger} (now : Nat) : holds prior ledger →
    prior < Executor.greatestAttempt → executor.number unit prior now ledger = prior + 1
  counted {prior : Nat} {ledger : Ledger} (now : Instant) : holds prior ledger →
    prior < Executor.greatestAttempt →
      holds (prior + 1) (executor.counter.increment unit.retryKey now ledger).ledger
  aside {prior : Nat} {world : World} {deed : Deed} : deed.Aside surroundings →
    holds prior world.ledger → holds prior (world.perform deed).ledger

namespace Executor

variable {executor : Executor} {unit : WorkUnit} {surroundings : Surroundings}

/-- The greatest number of invocations that a policy allows. -/
def mostInvocations (executor : Executor) : Nat := max 1 executor.handler.policy.maxAttempts.toNat

theorem mostInvocations_pos (executor : Executor) : 0 < executor.mostInvocations :=
  Nat.lt_of_lt_of_le Nat.one_pos (Nat.le_max_left _ _)

theorem mostInvocations_le (executor : Executor) : executor.mostInvocations ≤ greatestAttempt := by
  have greatest : executor.handler.policy.maxAttempts.toNat < 2 ^ 32 :=
    executor.handler.policy.maxAttempts.toNat_lt
  rw [mostInvocations, greatestAttempt]
  omega

/-- A failed attempt that is followed by another one was not the last one allowed. -/
theorem lt_of_isRetried {fault : Fault} {attempt : Nat}
    (retried : executor.isRetried fault attempt = true) : attempt < executor.mostInvocations := by
  simp only [isRetried, Bool.and_eq_true, RetryPolicy.hasAttemptsLeft, decide_eq_true_eq] at retried
  rw [mostInvocations]
  omega

end Executor

/-! ## Counters that count without a gap -/

/-- Everybody else, for the one lifecycle that takes from a budget: other units are counted at other
places. -/
def Budget.others (budget : Budget) (shuts : Nat → Prop) : Surroundings where
  mine unit := unit.retryKey = budget.key
  plays executor unit := ∀ place ∈ budget.place?, place ∉ executor.counter.places unit.retryKey
  shuts := shuts
  alters := budget.Spares

variable {executor : Executor} {unit : WorkUnit} {surroundings : Surroundings}
  {holds : Nat → Ledger → Prop}

theorem Budget.Shares.own {budget : Budget} (shares : budget.Shares executor unit)
    (shuts : Nat → Prop) : (budget.others shuts).mine unit = true :=
  decide_eq_true shares.key

theorem Budget.leftBy_of_aside {budget : Budget} {shuts : Nat → Prop} {deed : Deed}
    (aside : deed.Aside (budget.others shuts)) : budget.LeftBy deed := by
  cases deed with
  | begin executor unit | conclude executor unit =>
    exact ⟨of_decide_eq_false aside.1, aside.2⟩
  | alter change => exact aside
  | publish | elapse | setScheduler => trivial

/-- A counter that serves the key without expiry counts without a gap, and so does one that fails
every time. -/
theorem Budget.counts {budget : Budget} (shares : budget.Shares executor unit)
    (shuts : Nat → Prop) : executor.Counts (budget.others shuts) unit budget.Keeps where
  number now keeps small := keeps.number shares small now fun _ => rfl
  counted now keeps small := keeps.increment shares small now
  aside aside keeps := keeps.perform (leftBy_of_aside aside)

/-! ## The numbers of a lifecycle -/

/-- Every attempt has the number of the invocations before it, as far as the policy allows. -/
def Phase.Numbered (executor : Executor) (holds : Nat → Ledger → Prop) (ledger : Ledger)
    (invocations : Nat) : Phase → Prop
  | absent => invocations = 0 ∧ holds 0 ledger
  | waiting prior _ =>
    invocations = prior ∧ holds prior ledger ∧ prior < executor.mostInvocations
  | running prior _ _ =>
    invocations = prior + 1 ∧ holds prior ledger ∧ prior < executor.mostInvocations
  | calling _ => invocations = 1 ∧ holds 0 ledger
  | ended _ | cutOff _ => invocations ≤ executor.mostInvocations

namespace Phase.Numbered

variable {prior due now invocations : Nat} {world : World}

theorem begun {begun : Begun} {occurrences : List Occurrence} {after : World.Holdings}
    (numbered : (waiting prior due).Numbered executor holds world.ledger invocations)
    (opening : executor.Opening unit prior now world begun occurrences after) :
    (ofBegun prior now begun).Numbered executor holds after.ledger
      (invocations + (account occurrences).invocations) := by
  obtain ⟨rfl, held, within⟩ := numbered
  cases opening with
  | denied refused =>
    rw [Executor.account_check]
    exact Nat.le_of_lt within
  | invoked pending call =>
    rw [account_append, Executor.account_check]
    exact ⟨rfl, held, within⟩
  | gone retried attached notPending => exact Nat.le_of_lt within

theorem concluded {outcome concluded : Except Fault Unit} {due : Nat}
    {before after : World.Holdings} {sequel : Sequel} {occurrences : List Occurrence}
    (counts : executor.Counts surroundings unit holds)
    (numbered : (running prior outcome due).Numbered executor holds before.ledger invocations)
    (closing : executor.Closing unit prior now concluded before sequel occurrences after) :
    (ofSequel now sequel).Numbered executor holds after.ledger
      (invocations + (account occurrences).invocations) := by
  obtain ⟨rfl, held, within⟩ := numbered
  have small := Nat.lt_of_lt_of_le within executor.mostInvocations_le
  cases closing with
  | completed succeeded =>
    rw [Executor.account_thanks]
    exact within
  | vanished failed retried notFound => exact within
  | retried entropy failed present numbered worthwhile =>
    rw [counts.number now held small] at numbered
    subst numbered
    exact ⟨rfl, counts.counted _ held small, Executor.lt_of_isRetried worthwhile⟩
  | gaveUp sources failed present numbered spent =>
    rename_i fault attempt
    obtain ⟨failures, given⟩ := account_givenUp unit (executor.setback unit now fault attempt)
      attempt sources executor.handler.compensation
    rw [← List.singleton_append, account_append, given]
    exact within

theorem entered {begun : Begun} {ledger : Ledger}
    (numbered : (ofBegun 0 now begun).Numbered executor holds ledger invocations) :
    (ofEntered begun).Numbered executor holds ledger invocations := by
  cases begun with
  | ended result => exact numbered
  | running response => exact ⟨numbered.1, numbered.2.1⟩

end Phase.Numbered

/-- A counter that counts without a gap numbers the attempts of a lifecycle. -/
theorem Executor.Counts.lawful (counts : executor.Counts surroundings unit holds) :
    Phase.Lawful surroundings executor unit fun ledger told phase =>
      phase.Numbered executor holds ledger told.invocations where
  aside {phase _ _ _} aside numbered := by
    cases phase with
    | absent => exact ⟨numbered.1, counts.aside aside numbered.2⟩
    | waiting | running =>
      exact ⟨numbered.1, counts.aside aside numbered.2.1, numbered.2.2⟩
    | calling => exact ⟨numbered.1, counts.aside aside numbered.2⟩
    | ended | cutOff => exact numbered
  submitted _ numbered := ⟨numbered.1, numbered.2, executor.mostInvocations_pos⟩
  begun numbered opening := numbered.begun opening
  concluded numbered closing := numbered.concluded counts closing
  entered numbered := numbered.entered
  left {now outcome _ told before _ _ _} numbered closing :=
    have running : (Phase.running 0 outcome now).Numbered executor holds before.ledger
        told.invocations :=
      ⟨numbered.1, numbered.2, executor.mostInvocations_pos⟩
    running.concluded counts closing
  refused _ _ numbered := numbered.1.trans_le (Nat.le_of_lt numbered.2.2)
  cutWaiting _ _ numbered := numbered.1.trans_le (Nat.le_of_lt numbered.2.2)
  cutRunning _ _ _ numbered := numbered.1.trans_le numbered.2.2

/-- Every attempt of a lifecycle has the number of the invocations before it. -/
theorem Story.numbered (counts : executor.Counts surroundings unit holds)
    (own : surroundings.mine unit = true) {before after : Phase × World}
    (story : Story surroundings executor unit before after)
    (numbered : before.1.Numbered executor holds before.2.ledger
      (before.2.account surroundings.mine).invocations) :
    after.1.Numbered executor holds after.2.ledger
      (after.2.account surroundings.mine).invocations :=
  story.keeps counts.lawful own numbered

/-- Whatever the phase, the operation has been invoked as often as the policy allows at most. -/
theorem Phase.Numbered.invocations_le {phase : Phase} {ledger : Ledger} {invocations : Nat}
    (numbered : phase.Numbered executor holds ledger invocations) :
    invocations ≤ executor.mostInvocations := by
  cases phase with
  | absent => exact numbered.1.trans_le (Nat.zero_le _)
  | waiting => exact numbered.1.trans_le (Nat.le_of_lt numbered.2.2)
  | running => exact numbered.1.trans_le numbered.2.2
  | calling => exact numbered.1.trans_le executor.mostInvocations_pos
  | ended | cutOff => exact numbered

/-! ## The budget of a lifecycle -/

namespace Scene

/-- A lifecycle with a key of its own invokes the operation at most as often as its policy allows, if
the counter begins without a count for the key and from then on serves the key without expiry, or
fails every time. -/
theorem invocations_within_budget (budget : Budget) (executor : Executor) (unit : WorkUnit)
    (world : World) (now : Nat) (moves : List Move) (shares : budget.Shares executor unit)
    (unused : budget.Keeps 0 world.ledger)
    (alone : starts (fun other => other.retryKey = budget.key) moves = [(executor, unit)])
    (allowed : ∀ move ∈ moves, move.Allowed (budget.others fun _ => True)) :
    (((opening world now).play moves).run.state.account fun other =>
      other.retryKey = budget.key).invocations ≤ max 1 executor.handler.policy.maxAttempts.toNat := by
  obtain ⟨phase, -, story, -⟩ := story_of_play world now moves allowed alone
  have numbered := story.numbered (Budget.counts shares _) (shares.own _)
    (⟨rfl, unused⟩ : Phase.absent.Numbered executor budget.Keeps world.ledger 0)
  exact numbered.invocations_le

/-- An operation that always fails, under a policy of two attempts and a counter whose entries do not
expire. -/
theorem invocations_within_budget_two :
    let executor : Executor :=
      { counter := .inProcess "counts" { defaultTtl := none }
        handler :=
          ⟨{ maxAttempts := 2, strategy := .fixed, baseDelay := .ofMillis 20 }, none⟩ }
    let unit : WorkUnit := ⟨"a", "deliver", none, .empty⟩
    let budget : Budget :=
      ⟨executor.counter, unit.retryKey, 2, some (.inProcess "counts" unit.retryKey)⟩
    let operation : Operation :=
      { name := "down", respond := fun _ _ => ⟨.zero, .error (.of .timeout "late")⟩ }
    let world : World := { operations := Table.insert {} 0 operation }
    let moves : List Move :=
      .submit executor unit :: [LoopMove.turn, .turn, .jump 20, .turn].map .loop
    (budget.Shares executor unit ∧ budget.Keeps 0 world.ledger ∧
      starts (fun other => other.retryKey = budget.key) moves = [(executor, unit)] ∧
      ∀ move ∈ moves, move.Allowed (budget.others fun _ => True)) ∧
    (((opening world 0).play moves).run.state.account fun other =>
      other.retryKey = budget.key).invocations ≤ max 1 executor.handler.policy.maxAttempts.toNat := by
  intro executor unit budget operation world moves
  have shares : budget.Shares executor unit := ⟨rfl, rfl, rfl⟩
  have unused : budget.Keeps 0 world.ledger := .of_unused rfl rfl rfl
  have own := shares.own fun _ => True
  have alone := starts_submit_loops own executor [LoopMove.turn, .turn, .jump 20, .turn]
  have allowed := allowed_submit_loops own executor [LoopMove.turn, .turn, .jump 20, .turn]
  exact ⟨⟨shares, unused, alone, allowed⟩,
    invocations_within_budget budget executor unit world 0 moves shares unused alone allowed⟩

/-- A counter whose entries expire before the next attempt does not keep to the budget: every failure
counts as the first one, and an operation that always fails is invoked again and again. -/
theorem invocations_beyond_budget :
    let executor : Executor :=
      { counter := .inProcess "counts" { defaultTtl := some (.ofMillis 10) }
        handler :=
          ⟨{ maxAttempts := 2, strategy := .fixed, baseDelay := .ofMillis 20 }, none⟩ }
    let unit : WorkUnit := ⟨"a", "deliver", none, .empty⟩
    let operation : Operation :=
      { name := "down", respond := fun _ _ => ⟨.zero, .error (.of .timeout "late")⟩ }
    let world : World := { operations := Table.insert {} 0 operation }
    let moves : List Move :=
      .submit executor unit ::
        [LoopMove.turn, .turn, .jump 20, .turn, .turn, .jump 40, .turn].map .loop
    (executor.counter.count unit.retryKey (Instant.ofMillis 0) world.ledger).answer.toOption =
        some 0 ∧
      (starts (fun other => other.retryKey = unit.retryKey) moves).length = 1 ∧
      max 1 executor.handler.policy.maxAttempts.toNat <
        (((opening world 0).play moves).run.state.account fun other =>
          other.retryKey = unit.retryKey).invocations := by
  decide +kernel

end Scene

end Resilience
