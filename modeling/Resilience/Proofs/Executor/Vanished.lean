import Resilience.Proofs.Counter.Places
import Resilience.Proofs.Executor.Endings

/-!
# Units that leave their source

A unit may leave its source while a retry is waiting. An attempt that is handed a positive number
therefore asks the source first, and invokes the operation only if the source has the unit or cannot
tell; and if the operation does not find the unit, the work on it is over. A first attempt, which is
handed zero, does neither.

All attempts of a lifecycle but the first are handed what the counter said, or the number after the
one handed over before. This is positive unless a store keeps a negative value for the key. Then a
retry passes for a first attempt.

## Main definitions

* `World.pendingAnswer` — what a source answers about a unit
* `Executor.Heeds` — an attempt heeds that its unit may be gone

## Main statements

* `Scene.heeds_of_invoked` — from the second invocation on, a lifecycle heeds it
* `Scene.unheeded_after_negative` — a negative value makes a retry pass for a first attempt
-/

namespace Resilience

/-- What a source answers to the question whether a unit is still pending. -/
def World.pendingAnswer (world : World) (source : Nat) (unit : WorkUnit) : Except Failure Bool :=
  ((world.sources.find? source).getD default).isPending unit.id

namespace Executor

/-- An attempt that is handed a number heeds that its unit may be gone. -/
structure Heeds (executor : Executor) (unit : WorkUnit) (prior source : Nat) : Prop where
  /-- The operation is invoked only if the source has the unit or cannot tell. -/
  asks (now : Nat) (world : World) (response : Response) :
    (executor.beginAttempt unit prior now world).1 = .running response →
      world.pendingAnswer source unit ≠ .ok false
  /-- A unit that is not pending is abandoned, and the operation is not invoked. -/
  leaves (now : Nat) (world : World) : world.pendingAnswer source unit = .ok false →
    (executor.beginAttempt unit prior now world).1 = .ended (.ok (.abandoned prior)) ∧
      ∀ mine, ((executor.beginAttempt unit prior now world).2.account mine).invocations =
        (world.account mine).invocations
  /-- A unit that the operation does not find is abandoned, and no compensation runs. -/
  abandons (now : Nat) (world : World) (outcome : Except Fault Unit) (fault : Fault) :
    (world.operation executor.operation).conclude unit outcome = .error fault →
      fault.isKind .notFound = true →
      (executor.endAttempt unit prior outcome now world).1 =
          .done (.ok (.abandoned (nextAttempt prior))) ∧
        ∀ mine, ((executor.endAttempt unit prior outcome now world).2.account mine).actions =
          (world.account mine).actions

variable {executor : Executor} {unit : WorkUnit} {prior source : Nat}

theorem isStillPending_eq_false (attached : executor.source = some source) (now : Nat)
    (world : World) : (executor.isStillPending unit now world).1 = false ↔
      world.pendingAnswer source unit = .ok false := by
  simp only [isStillPending, attached, World.askSource, World.pendingAnswer]
  generalize ((world.sources.find? source).getD default).isPending unit.id = answer
  rcases answer with failure | (_ | _) <;> simp

/-- An attempt that was invoked although it was handed a positive number asked before. -/
theorem Opening.asked {now : Nat} {world : World} {response : Response}
    {occurrences : List Occurrence} {after : World.Holdings}
    (opening : executor.Opening unit prior now world (.running response) occurrences after)
    (attached : executor.source = some source) (retried : 0 < prior) :
    world.pendingAnswer source unit ≠ .ok false := by
  cases opening with
  | invoked pending call =>
    rw [Ne, ← isStillPending_eq_false attached now world, pending (Nat.ne_of_gt retried)]
    exact Bool.noConfusion

/-- An attempt that is over with a completion has not been invoked. -/
theorem Opening.invocations_eq_zero {now : Nat} {world : World} {completion : Completion}
    {occurrences : List Occurrence} {after : World.Holdings}
    (opening : executor.Opening unit prior now world (.ended (.ok completion)) occurrences after) :
    (account occurrences).invocations = 0 := by
  cases opening
  rfl

/-- The operation does not find the unit of a retry. -/
theorem Closing.vanishes {now : Nat} {before after : World.Holdings} {fault : Fault}
    {sequel : Sequel} {occurrences : List Occurrence}
    (closing : executor.Closing unit prior now (.error fault) before sequel occurrences after)
    (retried : 0 < prior) (notFound : fault.isKind .notFound = true) :
    sequel = .done (.ok (.abandoned (nextAttempt prior))) ∧ (account occurrences).actions = [] := by
  cases closing with
  | completed succeeded => cases succeeded
  | vanished failed => exact ⟨rfl, rfl⟩
  | retried entropy failed present | gaveUp sources failed present =>
    cases failed
    exact absurd ⟨retried, notFound⟩ present

/-- The first half of an attempt on a unit that has left its source. -/
theorem beginAttempt_of_gone (attached : executor.source = some source) (retried : 0 < prior)
    (now : Nat) {world : World} (gone : world.pendingAnswer source unit = .ok false) :
    (executor.beginAttempt unit prior now world).1 = .ended (.ok (.abandoned prior)) := by
  have notPending := (isStillPending_eq_false attached now world).2 gone
  unfold beginAttempt
  rw [if_neg (Nat.ne_of_gt retried)]
  rcases asked : executor.isStillPending unit now world with ⟨pending, asking⟩
  rw [asked] at notPending
  cases notPending
  rfl

/-- An attempt that is handed a positive number heeds that its unit may be gone. -/
theorem heeds_of_pos (attached : executor.source = some source) (retried : 0 < prior) :
    executor.Heeds unit prior source where
  asks now world response running := by
    obtain ⟨_, opening, -⟩ := executor.opening_beginAttempt unit prior now world
    rw [running] at opening
    exact opening.asked attached retried
  leaves now world gone := by
    have result := beginAttempt_of_gone attached retried now gone
    refine ⟨result, fun mine => ?_⟩
    obtain ⟨occurrences, opening, tale⟩ := executor.opening_beginAttempt unit prior now world
    rw [result] at opening
    rw [World.account_of_tale (tale mine), Account.plus]
    exact Nat.add_eq_left.2 (Nat.eq_zero_of_le_zero (opening.invocations_eq_zero ▸
      (List.filter_sublist).countP_le))
  abandons now world outcome fault failed notFound := by
    obtain ⟨occurrences, closing, tale⟩ := executor.closing_endAttempt unit prior now world outcome
    rw [failed] at closing
    obtain ⟨result, quiet⟩ := closing.vanishes retried notFound
    refine ⟨result, fun mine => ?_⟩
    rw [World.account_of_tale (tale mine), Account.plus]
    exact List.append_right_eq_self.2 (List.eq_nil_of_subset_nil (quiet ▸
      (List.filter_sublist.filterMap _).subset))

/-- A failed attempt has a positive number, unless a negative value is kept for the key. -/
theorem number_pos {ledger : Ledger}
    (sound : ledger.NonNegative (executor.counter.places unit.retryKey)) (now : Nat) :
    0 < executor.number unit prior now ledger := by
  rw [number]
  have roomy : 0 < greatestAttempt := by decide
  cases answer : (executor.counter.increment unit.retryKey (Instant.ofMillis now) ledger).answer with
  | ok count => exact Nat.lt_min.2 ⟨sound.one_le_count answer, roomy⟩
  | error failure => exact Nat.lt_min.2 ⟨Nat.succ_pos prior, roomy⟩

theorem Closing.attempt_pos {now attempt : Nat} {concluded : Except Fault Unit}
    {before after : World.Holdings} {delay : Duration} {occurrences : List Occurrence}
    (closing : executor.Closing unit prior now concluded before (.retry attempt delay) occurrences
      after)
    (sound : before.ledger.NonNegative (executor.counter.places unit.retryKey)) : 0 < attempt :=
  closing.number_of_retry ▸ number_pos sound now

end Executor

/-! ## Lifecycles -/

/-- Anybody else besides a lifecycle, as long as no negative value is put where it is counted. -/
def Executor.company (executor : Executor) (unit : WorkUnit) (mine : WorkUnit → Bool) :
    Surroundings where
  mine
  plays _ _ := True
  shuts _ := True
  alters change := ∀ world : World,
    world.ledger.NonNegative (executor.counter.places unit.retryKey) →
      (change world).ledger.NonNegative (executor.counter.places unit.retryKey)

/-- After the first invocation a lifecycle is handed positive numbers. -/
def Phase.Retries (invocations : Nat) : Phase → Prop
  | absent => invocations = 0
  | waiting prior _ => 0 < invocations → 0 < prior
  | running prior _ _ => 1 < invocations → 0 < prior
  | calling _ | ended _ | cutOff _ => True

section Company

variable {executor : Executor} {unit : WorkUnit} {mine : WorkUnit → Bool} {places : List Place}
  {prior now : Nat} {world : World}

theorem Ledger.NonNegative.opening {begun : Begun} {occurrences : List Occurrence}
    {after : World.Holdings} (sound : world.ledger.NonNegative places)
    (opening : executor.Opening unit prior now world begun occurrences after) :
    after.ledger.NonNegative places := by
  cases opening with
  | denied | invoked => exact sound
  | gone => exact sound.reset _ _ _

theorem Ledger.NonNegative.closing {concluded : Except Fault Unit} {before after : World.Holdings}
    {sequel : Sequel} {occurrences : List Occurrence} (sound : before.ledger.NonNegative places)
    (closing : executor.Closing unit prior now concluded before sequel occurrences after) :
    after.ledger.NonNegative places := by
  cases closing with
  | completed | vanished => exact sound.reset _ _ _
  | retried => exact sound.increment _ _ _
  | gaveUp => exact (sound.increment _ _ _).reset _ _ _

theorem Ledger.NonNegative.beginAttempt (sound : world.ledger.NonNegative places)
    (executor : Executor) (unit : WorkUnit) (prior now : Nat) :
    (executor.beginAttempt unit prior now world).2.ledger.NonNegative places := by
  obtain ⟨_, opening, -⟩ := executor.opening_beginAttempt unit prior now world
  have kept := sound.opening opening
  rwa [World.ledger_holdings] at kept

theorem Ledger.NonNegative.endAttempt (sound : world.ledger.NonNegative places)
    (executor : Executor) (unit : WorkUnit) (prior : Nat) (outcome : Except Fault Unit)
    (now : Nat) :
    (executor.endAttempt unit prior outcome now world).2.ledger.NonNegative places := by
  obtain ⟨_, closing, -⟩ := executor.closing_endAttempt unit prior now world outcome
  have kept := sound.closing closing
  rwa [World.ledger_holdings] at kept

/-- What happens aside puts no negative value where a lifecycle is counted. -/
theorem Ledger.NonNegative.aside {deed : Deed}
    (sound : world.ledger.NonNegative (executor.counter.places unit.retryKey))
    (aside : deed.Aside (executor.company unit mine)) :
    (world.perform deed).ledger.NonNegative (executor.counter.places unit.retryKey) := by
  cases deed with
  | begin player other prior now => exact sound.beginAttempt player other prior now
  | conclude player other prior outcome now =>
    exact sound.endAttempt player other prior outcome now
  | publish | setScheduler => exact sound
  | elapse before after => exact sound.elapse _ _
  | alter change => exact aside world sound

theorem Phase.Retries.begun {invocations : Nat} {begun : Begun} {occurrences : List Occurrence}
    {after : World.Holdings} (retries : (waiting prior now).Retries invocations)
    (opening : executor.Opening unit prior now world begun occurrences after) :
    (ofBegun prior now begun).Retries (invocations + (account occurrences).invocations) := by
  cases opening with
  | denied | gone => trivial
  | invoked pending call =>
    rw [account_append, Executor.account_check]
    exact fun again => retries (Nat.lt_of_succ_lt_succ again)

theorem Phase.Retries.concluded {invocations : Nat} {concluded : Except Fault Unit}
    {before after : World.Holdings} {sequel : Sequel} {occurrences : List Occurrence}
    (sound : before.ledger.NonNegative (executor.counter.places unit.retryKey))
    (closing : executor.Closing unit prior now concluded before sequel occurrences after) :
    (ofSequel now sequel).Retries invocations := by
  cases sequel with
  | done result => trivial
  | retry attempt delay => exact fun _ => closing.attempt_pos sound

/-- In all phases no negative value is kept where a lifecycle is counted, and it is handed positive
numbers after its first invocation. -/
theorem Executor.lawful_retries :
    Phase.Lawful (executor.company unit mine) executor unit fun ledger told phase =>
      ledger.NonNegative (executor.counter.places unit.retryKey) ∧
        phase.Retries told.invocations where
  aside aside kept := ⟨kept.1.aside aside, kept.2⟩
  submitted _ := fun ⟨sound, uncalled⟩ =>
    ⟨sound, fun called => absurd uncalled (Nat.ne_of_gt called)⟩
  begun kept opening := ⟨kept.1.opening opening, kept.2.begun opening⟩
  concluded kept closing := ⟨kept.1.closing closing, Phase.Retries.concluded kept.1 closing⟩
  entered {_ _ _ begun} kept := ⟨kept.1, by cases begun <;> trivial⟩
  left kept closing := ⟨kept.1.closing closing, Phase.Retries.concluded kept.1 closing⟩
  refused _ _ kept := ⟨kept.1, trivial⟩
  cutWaiting _ _ kept := ⟨kept.1, trivial⟩
  cutRunning _ _ _ kept := ⟨kept.1, trivial⟩

/-- A lifecycle is handed positive numbers after its first invocation, and no negative value is kept
where it is counted. -/
theorem Story.retries (own : mine unit = true) {before after : Phase × World}
    (story : Story (executor.company unit mine) executor unit before after)
    (sound : before.2.ledger.NonNegative (executor.counter.places unit.retryKey))
    (retries : before.1.Retries (before.2.account mine).invocations) :
    after.2.ledger.NonNegative (executor.counter.places unit.retryKey) ∧
      after.1.Retries (after.2.account mine).invocations :=
  story.keeps Executor.lawful_retries own ⟨sound, retries⟩

end Company

namespace Scene

/-- A lifecycle with a source heeds that its unit may be gone, in all attempts after its first
invocation: the operation is invoked only if the source has the unit or cannot tell, a unit that is
not pending is abandoned without an invocation, and so is one that the operation does not find,
without a compensation. No negative value may be kept for the key where the lifecycle is counted. -/
theorem heeds_of_invoked (mine : WorkUnit → Bool) (executor : Executor) (unit : WorkUnit)
    (source : Nat) (world : World) (now : Nat) (moves : List Move)
    (attached : executor.source = some source) (own : mine unit = true)
    (alone : starts mine moves = [(executor, unit)])
    (sound : world.ledger.NonNegative (executor.counter.places unit.retryKey))
    (allowed : ∀ move ∈ moves, move.Allowed (executor.company unit mine)) :
    let scene := (opening world now).play moves
    let invocations := (scene.run.state.account mine).invocations
    ∀ item ∈ scene.run.loop.agenda, mine item.body.lifecycle.unit = true →
      match item.body with
      | .attempt lifecycle prior =>
        0 < invocations → lifecycle.executor.Heeds lifecycle.unit prior source
      | .conclude lifecycle prior _ =>
        1 < invocations → lifecycle.executor.Heeds lifecycle.unit prior source := by
  intro scene invocations item member about
  obtain ⟨phase, shows, story, -⟩ := story_of_play world now moves allowed alone
  obtain ⟨-, retries⟩ := story.retries own sound rfl
  obtain ⟨rfl, executors, units⟩ := phase_of_appointed shows member about
  obtain ⟨due, owner, body⟩ := item
  cases body with
  | attempt lifecycle prior =>
    exact fun again => Executor.heeds_of_pos (executors ▸ attached) (retries again)
  | conclude lifecycle prior outcome =>
    exact fun again => Executor.heeds_of_pos (executors ▸ attached) (retries again)

/-- A unit fails once and waits for its second attempt, in which it will be heeded if it has gone. -/
theorem heeds_of_invoked_once :
    let executor : Executor :=
      { counter := .inProcess "counts" { defaultTtl := none }
        handler := ⟨{ strategy := .fixed, baseDelay := .ofMillis 20 }, none⟩
        source := some 0 }
    let unit : WorkUnit := ⟨"a", "deliver", none, .empty⟩
    let operation : Operation :=
      { name := "down", respond := fun _ _ => ⟨.zero, .error (.of .timeout "late")⟩ }
    let world : World :=
      { operations := Table.insert {} 0 operation
        sources := Table.insert {} 0 { id := "inbox", pending := ["a"] } }
    let mine (other : WorkUnit) : Bool := other.id = "a"
    let moves : List Move := .submit executor unit :: [LoopMove.turn].map .loop
    let scene := (opening world 0).play moves
    let invocations := (scene.run.state.account mine).invocations
    (executor.source = some 0 ∧ mine unit = true ∧ starts mine moves = [(executor, unit)] ∧
      world.ledger.NonNegative (executor.counter.places unit.retryKey) ∧
      ∀ move ∈ moves, move.Allowed (executor.company unit mine)) ∧
    ∀ item ∈ scene.run.loop.agenda, mine item.body.lifecycle.unit = true →
      match item.body with
      | .attempt lifecycle prior =>
        0 < invocations → lifecycle.executor.Heeds lifecycle.unit prior 0
      | .conclude lifecycle prior _ =>
        1 < invocations → lifecycle.executor.Heeds lifecycle.unit prior 0 := by
  intro executor unit operation world mine moves scene invocations
  have own : (executor.company unit mine).mine unit = true := rfl
  have sound : world.ledger.NonNegative (executor.counter.places unit.retryKey) := by
    intro place member kept found
    cases List.mem_singleton.1 member
    exact Ledger.NonNegative.nonneg_inProcess found
  have alone := starts_submit_loops own executor [LoopMove.turn]
  have allowed := allowed_submit_loops own executor [LoopMove.turn]
  exact ⟨⟨rfl, own, alone, sound, allowed⟩,
    heeds_of_invoked mine executor unit 0 world 0 moves rfl own alone sound allowed⟩

/-- A store keeps minus one for the key of a unit. The first failure counts as number zero, and the
retry that follows passes for a first attempt: although the unit has been taken from its source, the
operation is invoked again. -/
theorem unheeded_after_negative :
    let executor : Executor :=
      { counter := .shared "counts" "" none
        handler := ⟨{ strategy := .fixed, baseDelay := .ofMillis 20 }, none⟩
        source := some 0 }
    let unit : WorkUnit := ⟨"a", "deliver", none, .empty⟩
    let operation : Operation :=
      { name := "down", respond := fun _ _ => ⟨.zero, .error (.of .timeout "late")⟩ }
    let store : CounterStore := CounterStore.put {} unit.retryKey (-1)
    let world : World :=
      { operations := Table.insert {} 0 operation
        sources := Table.insert {} 0 { id := "inbox", pending := ["a"] }
        ledger := Ledger.setStore {} "counts" store }
    let mine (other : WorkUnit) : Bool := other.id = "a"
    let taken (world : World) : World :=
      { world with sources := Table.insert {} 0 { id := "inbox" } }
    let moves : List Move :=
      [.submit executor unit, .loop .turn, .loop .turn, .intervene taken, .loop (.jump 20)]
    let scene := (opening world 0).play moves
    (starts mine moves).length = 1 ∧
      (scene.run.state.pendingAnswer 0 unit).toOption = some false ∧
      (scene.run.state.account mine).invocations = 1 ∧
      ((scene.after (.loop .turn)).run.state.account mine).invocations = 2 := by
  decide +kernel

end Scene

end Resilience
