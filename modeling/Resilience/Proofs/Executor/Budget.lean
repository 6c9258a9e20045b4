import Resilience.Proofs.Counter.Places
import Resilience.Proofs.Executor.Deeds
import Resilience.Proofs.Executor.Endings

/-!
# Shared budgets

Lifecycles of units with the same retry key can go on at the same time and share one counter. Every
failed attempt takes the next number, and whoever takes the last one removes the count in the same
breath. So the numbers between two removals are one, two, three and so on, as far as the policy
allows and no further, whatever the order in which the lifecycles make their attempts.

## Main definitions

* `Tally`, `Scene.tallies` — what the attempts of some moves on the units of a key do to the count
* `Tally.stretches` — the numbers between removals of the count
* `Budget` — a counter that lifecycles share for a key

## Main statements

* `Budget.tallies_run` — numbers are taken in order, whoever takes them
* `Budget.shared_by_all` — the numbers between two removals, and in the events
* `Budget.shared_in_scene` — the numbers of all lifecycles in a scene
-/

namespace Resilience

/-! ## Tallies -/

/-- What an attempt does to the count of its key. -/
inductive Tally where
  | counted (number : Nat)
  | cleared
  deriving DecidableEq

namespace Tally

/-- The number that was taken, if any. -/
def number? : Tally → Option Nat
  | counted number => some number
  | cleared => none

/-- The numbers between removals of the count. -/
def stretches : List Tally → List (List Nat)
  | [] => [[]]
  | cleared :: rest => [] :: stretches rest
  | counted number :: rest =>
    match stretches rest with
    | [] => [[number]]
    | first :: others => (number :: first) :: others

/-- The number that was taken last, zero if the count was removed since. -/
def last (tallies : List Tally) : Nat := (tallies.getLast?.bind number?).getD 0

/-- Numbers are taken in order up to a greatest one, from one count to another. -/
inductive Run (greatest : Nat) : Nat → List Tally → Nat → Prop
  | nil (count : Nat) : Run greatest count [] count
  | counted {count last : Nat} {rest : List Tally} (within : count < greatest)
      (run : Run greatest (count + 1) rest last) :
    Run greatest count (.counted (count + 1) :: rest) last
  | cleared {count last : Nat} {rest : List Tally} (run : Run greatest 0 rest last) :
    Run greatest count (.cleared :: rest) last

variable {greatest count middle last : Nat} {tallies others : List Tally}

theorem Run.append (first : Run greatest count tallies middle)
    (second : Run greatest middle others last) : Run greatest count (tallies ++ others) last := by
  induction first with
  | nil => exact second
  | counted within _ ih => exact .counted within (ih second)
  | cleared _ ih => exact .cleared (ih second)

/-- The count is the number that was taken last. -/
theorem Run.last_eq (run : Run greatest count tallies last) :
    last = if tallies = [] then count else Tally.last tallies := by
  have cons (tally : Tally) (rest : List Tally) : Tally.last (tally :: rest) =
      if rest = [] then tally.number?.getD 0 else Tally.last rest := by
    cases rest with
    | nil => rfl
    | cons other rest => rw [if_neg (List.cons_ne_nil _ _), Tally.last, List.getLast?_cons_cons,
        Tally.last]
  induction run with
  | nil count => rfl
  | counted within run ih | cleared run ih => rw [if_neg (List.cons_ne_nil _ _), cons, ih]; rfl

/-- The numbers of a stretch go on from the count at its beginning. -/
theorem Run.stretches (run : Run greatest count tallies last) :
    ∃ first others, Tally.stretches tallies = first :: others ∧
      first = List.range' (count + 1) first.length ∧ count + first.length ≤ max count greatest ∧
      ∀ stretch ∈ others, stretch = List.range' 1 stretch.length ∧ stretch.length ≤ greatest := by
  induction run with
  | nil count => exact ⟨[], [], rfl, rfl, Nat.le_max_left _ _, nofun⟩
  | @counted count last rest within run ih =>
    obtain ⟨first, others, split, consecutive, bound, later⟩ := ih
    refine ⟨(count + 1) :: first, others, ?_, ?_, ?_, later⟩
    · simp only [Tally.stretches, split]
    · rw [List.length_cons, List.range'_succ, ← consecutive]
    · rw [List.length_cons]
      omega
  | @cleared count last rest run ih =>
    -- the numbers after the removal begin with one again
    obtain ⟨first, others, split, consecutive, bound, later⟩ := ih
    refine ⟨[], first :: others, ?_, rfl, Nat.le_max_left _ _, ?_⟩
    · simp only [Tally.stretches, split]
    · intro stretch member
      rcases List.mem_cons.1 member with rfl | member
      · exact ⟨by simpa using consecutive, by omega⟩
      · exact later stretch member

end Tally

/-- What the first half of an attempt does to the count. -/
def Begun.tallies : Begun → List Tally
  | ended (.ok _) => [.cleared]
  | ended (.error _) | running _ => []

/-- What the second half of an attempt does to the count, with the number that the counter gives if
the attempt has failed. -/
def Sequel.tallies (number : Nat) : Sequel → List Tally
  | retry .. => [.counted number]
  | done (.ok (.completed _)) | done (.ok (.abandoned _)) => [.cleared]
  | done (.ok (.recovered _)) | done (.error (.exhausted ..)) => [.counted number, .cleared]
  | done (.error _) => []

/-- The number that the counter gives to an attempt that has failed, zero if it gives none. -/
def Executor.numberGiven (executor : Executor) (unit : WorkUnit) (now : Nat) (ledger : Ledger) :
    Nat :=
  (executor.counter.increment unit.retryKey (Instant.ofMillis now) ledger).answer.toOption.getD 0

/-- What a deed does to the count of a key. -/
def Deed.tallies (key : RetryKey) (world : World) : Deed → List Tally
  | begin executor unit prior now =>
    if unit.retryKey = key then (executor.beginAttempt unit prior now world).1.tallies else []
  | conclude executor unit prior outcome now =>
    if unit.retryKey = key then
      (executor.endAttempt unit prior outcome now world).1.tallies
        (executor.numberGiven unit now world.ledger)
    else []
  | publish .. | elapse .. | setScheduler .. | alter _ => []

namespace World

/-- What several deeds do to the count of a key. -/
def tallies (key : RetryKey) : World → List Deed → List Tally
  | _, [] => []
  | world, deed :: deeds => deed.tallies key world ++ (world.perform deed).tallies key deeds

end World

/-- What some moves do to the count of a key: the numbers that the counter gives to the attempts that
fail in them, and the removals, in order. -/
def Scene.tallies (key : RetryKey) (scene : Scene) (moves : List Move) : List Tally :=
  scene.run.state.tallies key (scene.allDeeds moves)

/-- The number that a failed attempt reports in its event. -/
def AuditEvent.failedAttempt? : AuditEvent → Option Nat
  | retryScheduled setback _ | gaveUp setback _ => some setback.attempt
  | compensationFailed .. | unitAbandoned .. | circuitChanged _ | counterFellBack _ => none

/-- The numbers that failed attempts report in some occurrences. -/
def reported (occurrences : List Occurrence) : List Nat :=
  (account occurrences).events.filterMap (·.failedAttempt?)

theorem reported_append (first second : List Occurrence) :
    reported (first ++ second) = reported first ++ reported second := by
  rw [reported, account_append, Account.plus, List.filterMap_append, reported, reported]

/-- The numbers that the failed attempts on the units of a key have reported. -/
def World.reported (world : World) (key : RetryKey) : List Nat :=
  (world.account fun unit => unit.retryKey = key).events.filterMap (·.failedAttempt?)

namespace Executor

variable {executor : Executor} {unit : WorkUnit} {prior now : Nat} {occurrences : List Occurrence}
  {after : World.Holdings}

/-- The first half of an attempt changes no counts but those of its unit. -/
theorem Opening.elsewhere {world : World} {begun : Begun}
    (opening : executor.Opening unit prior now world begun occurrences after) :
    after.ledger.isAvailable = world.ledger.isAvailable ∧
      ∀ place ∉ executor.counter.places unit.retryKey,
        place.find? after.ledger = place.find? world.ledger := by
  cases opening with
  | denied | invoked => exact ⟨rfl, fun _ _ => rfl⟩
  | gone =>
    obtain ⟨available, others, -⟩ :=
      executor.counter.reset_effect unit.retryKey (Instant.ofMillis now) world.ledger
    exact ⟨available, others⟩

/-- The second half of an attempt changes no counts but those of its unit. -/
theorem Closing.elsewhere {concluded : Except Fault Unit} {before : World.Holdings}
    {sequel : Sequel}
    (closing : executor.Closing unit prior now concluded before sequel occurrences after) :
    after.ledger.isAvailable = before.ledger.isAvailable ∧
      ∀ place ∉ executor.counter.places unit.retryKey,
        place.find? after.ledger = place.find? before.ledger := by
  obtain ⟨raised, raisedOthers⟩ :=
    executor.counter.increment_elsewhere unit.retryKey (Instant.ofMillis now) before.ledger
  cases closing with
  | completed | vanished =>
    obtain ⟨available, others, -⟩ :=
      executor.counter.reset_effect unit.retryKey (Instant.ofMillis now) before.ledger
    exact ⟨available, others⟩
  | retried => exact ⟨raised, raisedOthers⟩
  | gaveUp =>
    obtain ⟨available, others, -⟩ := executor.counter.reset_effect unit.retryKey
      (Instant.ofMillis now) (executor.counted unit now before).ledger
    exact ⟨available.trans raised, fun place apart =>
      (others place apart).trans (raisedOthers place apart)⟩

end Executor

/-- Only changes from outside make stores available or not. -/
theorem Deed.isAvailable_perform {deed : Deed} {world : World}
    (unaltered : ∀ change, deed ≠ .alter change) :
    (world.perform deed).ledger.isAvailable = world.ledger.isAvailable := by
  cases deed with
  | begin executor unit prior now =>
    obtain ⟨_, opening, -⟩ := executor.opening_beginAttempt unit prior now world
    exact opening.elsewhere.1
  | conclude executor unit prior outcome now =>
    obtain ⟨_, closing, -⟩ := executor.closing_endAttempt unit prior now world outcome
    exact closing.elsewhere.1
  | publish | elapse | setScheduler => rfl
  | alter change => exact absurd rfl (unaltered change)

/-- While nobody intervenes, stores stay available or not. -/
theorem Scene.isAvailable_after {scene : Scene} {move : Move}
    (inside : ∀ change, move ≠ .intervene change) :
    (scene.after move).run.state.ledger.isAvailable = scene.run.state.ledger.isAvailable := by
  rw [Scene.state_after]
  have unaltered := @Scene.unaltered scene move inside
  generalize scene.deeds move = deeds at unaltered
  generalize scene.run.state = world
  induction deeds generalizing world with
  | nil => rfl
  | cons deed deeds ih =>
    rw [World.performAll_cons, ih (fun other member => unaltered other (.tail _ member)),
      Deed.isAvailable_perform (unaltered deed List.mem_cons_self)]

theorem Scene.isAvailable_loops (scene : Scene) (moves : List LoopMove) :
    (scene.play (moves.map .loop)).run.state.ledger.isAvailable =
      scene.run.state.ledger.isAvailable := by
  induction moves generalizing scene with
  | nil => rfl
  | cons move moves ih => exact (ih _).trans (Scene.isAvailable_after nofun)

/-! ## Budgets -/

/-- Whether a counter serves the increments of a key at a place without expiry or, without a place,
fails. -/
def Counter.Serves (counter : Counter) (key : RetryKey) (place? : Option Place)
    (available : String → Bool) : Prop :=
  match place? with
  | some place => counter.locate available key = .ok (place, none)
  | none => ∃ failure, counter.locate available key = .error failure

/-- What lifecycles have in common that count their attempts together. -/
structure Budget where
  counter : Counter
  key : RetryKey
  maxAttempts : UInt32
  /-- Where the count is kept; nowhere, if the counter fails every time. -/
  place? : Option Place

namespace Budget

/-- A unit with the key, worked on by an executor with the counter and the number of attempts. -/
structure Shares (budget : Budget) (executor : Executor) (unit : WorkUnit) : Prop where
  key : unit.retryKey = budget.key
  counter : executor.counter = budget.counter
  maxAttempts : executor.handler.policy.maxAttempts = budget.maxAttempts

/-- A unit with another key, which is counted at other places. -/
structure Apart (budget : Budget) (executor : Executor) (unit : WorkUnit) : Prop where
  key : unit.retryKey ≠ budget.key
  places : ∀ place ∈ budget.place?, place ∉ executor.counter.places unit.retryKey

/-- A change from outside that leaves the count and the service of the counter as they are. -/
def Spares (budget : Budget) (change : World → World) : Prop :=
  ∀ world : World,
    (budget.counter.Serves budget.key budget.place? world.ledger.isAvailable →
      budget.counter.Serves budget.key budget.place? (change world).ledger.isAvailable) ∧
    ∀ place ∈ budget.place?, place.find? (change world).ledger = place.find? world.ledger

/-- A deed that leaves the count as it is. -/
def LeavesCount (budget : Budget) : Deed → Prop
  | .begin executor unit _ _ | .conclude executor unit _ _ _ =>
    ∀ place ∈ budget.place?, place ∉ executor.counter.places unit.retryKey
  | .alter change =>
    ∀ world, ∀ place ∈ budget.place?, place.find? (change world).ledger = place.find? world.ledger
  | .publish .. | .elapse .. | .setScheduler .. => True

/-- A deed that leaves the count and the service of the counter as they are. -/
def LeftBy (budget : Budget) : Deed → Prop
  | .begin executor unit _ _ | .conclude executor unit _ _ _ => budget.Apart executor unit
  | .alter change => budget.Spares change
  | .publish .. | .elapse .. | .setScheduler .. => True

/-- A deed that takes from the budget by the counter, or leaves it as it is. -/
def Fits (budget : Budget) : Deed → Prop
  | .begin executor unit prior now =>
    budget.Shares executor unit ∨ budget.LeftBy (.begin executor unit prior now)
  | .conclude executor unit prior outcome now =>
    budget.Shares executor unit ∨ budget.LeftBy (.conclude executor unit prior outcome now)
  | deed => budget.LeftBy deed

/-- The counter serves the key. -/
def Served (budget : Budget) (ledger : Ledger) : Prop :=
  budget.counter.Serves budget.key budget.place? ledger.isAvailable

/-- The count is kept, whether or not the counter serves the key. -/
def IsAt (budget : Budget) (count : Nat) (ledger : Ledger) : Prop :=
  ∀ place ∈ budget.place?, place.Holds count ledger

/-- The count is kept, and the counter serves the key. -/
structure Keeps (budget : Budget) (count : Nat) (ledger : Ledger) : Prop where
  serves : budget.Served ledger
  holds : budget.IsAt count ledger

variable {budget : Budget} {executor : Executor} {unit : WorkUnit} {prior now count : Nat}
  {world : World}

theorem LeftBy.leavesCount {deed : Deed} (left : budget.LeftBy deed) : budget.LeavesCount deed := by
  cases deed with
  | begin | conclude => exact left.places
  | alter => exact fun world => (left world).2
  | publish | elapse | setScheduler => trivial

theorem Served.of_same {ledger later : Ledger} (served : budget.Served ledger)
    (available : later.isAvailable = ledger.isAvailable) : budget.Served later := by
  rw [Served, available]
  exact served

/-- A counter that keeps the count at a place serves the key there. -/
theorem Served.locate {ledger : Ledger} (served : budget.Served ledger) {place : Place}
    (kept : budget.place? = some place) :
    budget.counter.locate ledger.isAvailable budget.key = .ok (place, none) := by
  rw [Served, kept] at served
  exact served

namespace IsAt

variable {ledger later : Ledger}

theorem of_same (isAt : budget.IsAt count ledger)
    (same : ∀ place ∈ budget.place?, place.find? later = place.find? ledger) :
    budget.IsAt count later :=
  fun place kept => (isAt place kept).of_same (same place kept)

/-- The count stays through a deed that leaves it as it is. -/
theorem perform {deed : Deed} (isAt : budget.IsAt count world.ledger)
    (leaves : budget.LeavesCount deed) : budget.IsAt count (world.perform deed).ledger := by
  cases deed with
  | begin executor unit prior now =>
    obtain ⟨_, opening, -⟩ := executor.opening_beginAttempt unit prior now world
    exact isAt.of_same fun place kept => opening.elsewhere.2 place (leaves place kept)
  | conclude executor unit prior outcome now =>
    obtain ⟨_, closing, -⟩ := executor.closing_endAttempt unit prior now world outcome
    exact isAt.of_same fun place kept => closing.elsewhere.2 place (leaves place kept)
  | publish | setScheduler => exact isAt
  | elapse before after => exact fun place kept => (isAt place kept).elapse _ _
  | alter change => exact isAt.of_same (leaves world)

end IsAt

namespace Keeps

variable {ledger : Ledger}

/-- A place that serves the key and where nothing is kept. -/
theorem of_unused {place : Place} (kept : budget.place? = some place)
    (available : budget.counter.locate ledger.isAvailable budget.key = .ok (place, none))
    (unused : place.find? ledger = none) : budget.Keeps 0 ledger := by
  refine ⟨?_, fun other same => ?_⟩
  · rw [Served, kept]
    exact available
  · cases kept.symm.trans same
    exact .inr ⟨rfl, unused⟩

/-- A failed attempt takes the next number: that of the counter, or the one after the number handed
over. -/
theorem number (keeps : budget.Keeps count ledger) (shares : budget.Shares executor unit)
    (small : count < Executor.greatestAttempt) (now : Nat)
    (known : budget.place? = none → prior = count) :
    executor.number unit prior now ledger = count + 1 := by
  obtain ⟨serves, holds⟩ := keeps
  rw [Executor.number, shares.key, shares.counter]
  cases kept : budget.place? with
  | some place =>
    rw [(Counter.increment_of_holds (serves.locate kept) (holds place kept)
      (Nat.lt_of_lt_of_le small (by decide)) (Instant.ofMillis now)).1]
    exact Nat.min_eq_left small
  | none =>
    -- the counter fails, so the attempt goes by the number handed over
    rw [Served, kept] at serves
    obtain ⟨failure, located⟩ := serves
    obtain ⟨-, answer, -⟩ : Counter.Raised _ (Instant.ofMillis now) ledger _ :=
      Counter.increment_raised budget.counter budget.key ledger
    rw [answer, located, known kept]
    exact Nat.min_eq_left small

/-- The number that was taken is kept. -/
theorem increment (keeps : budget.Keeps count ledger) (shares : budget.Shares executor unit)
    (small : count < Executor.greatestAttempt) (now : Instant) :
    budget.Keeps (count + 1) (executor.counter.increment unit.retryKey now ledger).ledger := by
  obtain ⟨serves, holds⟩ := keeps
  rw [shares.key, shares.counter]
  refine ⟨?_, fun place kept => ?_⟩
  · exact serves.of_same (budget.counter.increment_elsewhere budget.key now ledger).1
  · exact (Counter.increment_of_holds (serves.locate kept) (holds place kept)
      (Nat.lt_of_lt_of_le small (by decide)) now).2

/-- Removing the count leaves none. -/
theorem reset (keeps : budget.Keeps count ledger) (shares : budget.Shares executor unit)
    (now : Instant) :
    budget.Keeps 0 (executor.counter.reset unit.retryKey now ledger).ledger := by
  obtain ⟨serves, -⟩ := keeps
  rw [shares.key, shares.counter]
  refine ⟨?_, fun place kept => ?_⟩
  · exact serves.of_same (budget.counter.reset_effect budget.key now ledger).1
  · exact Counter.reset_holds (serves.locate kept) now

/-- A deed that leaves the count as it is. -/
theorem perform {deed : Deed} (keeps : budget.Keeps count world.ledger)
    (left : budget.LeftBy deed) : budget.Keeps count (world.perform deed).ledger := by
  refine ⟨?_, keeps.holds.perform left.leavesCount⟩
  cases deed with
  | alter change => exact (left world).1 keeps.serves
  | begin | conclude | publish | elapse | setScheduler =>
    exact keeps.serves.of_same (Deed.isAvailable_perform nofun)

end Keeps

/-- The budget as it stands: a count is kept at a place, and it is not the last one. -/
structure Stands (budget : Budget) (count : Nat) (ledger : Ledger) : Prop
    extends budget.Keeps count ledger where
  left : count < max 1 budget.maxAttempts.toNat
  kept : budget.place? ≠ none

/-- The count is far from the greatest number of an attempt. -/
theorem Stands.small {ledger : Ledger} (stands : budget.Stands count ledger) :
    count < Executor.greatestAttempt := by
  have left := stands.left
  have greatest : budget.maxAttempts.toNat < 2 ^ 32 := budget.maxAttempts.toNat_lt
  rw [Executor.greatestAttempt]
  omega

/-- The counter gives the next number to an attempt that has failed. -/
theorem Stands.numberGiven {ledger : Ledger} (stands : budget.Stands count ledger)
    (shares : budget.Shares executor unit) (now : Nat) :
    executor.numberGiven unit now ledger = count + 1 := by
  obtain ⟨place, kept⟩ := Option.ne_none_iff_exists'.1 stands.kept
  rw [Executor.numberGiven, shares.key, shares.counter,
    (Counter.increment_of_holds (stands.serves.locate kept) (stands.holds place kept)
      (Nat.lt_of_lt_of_le stands.small (by decide)) (Instant.ofMillis now)).1]
  rfl

theorem Keeps.unspent {ledger : Ledger} (keeps : budget.Keeps 0 ledger)
    (kept : budget.place? ≠ none) : budget.Stands 0 ledger :=
  ⟨keeps, Nat.lt_of_lt_of_le Nat.one_pos (Nat.le_max_left _ _), kept⟩

/-! ### Attempts -/

/-- What the first half of an attempt on a unit of the budget does to the count. -/
theorem opening_run {begun : Begun} {occurrences : List Occurrence} {after : World.Holdings}
    (shares : budget.Shares executor unit) (stands : budget.Stands count world.ledger)
    (opening : executor.Opening unit prior now world begun occurrences after) :
    ∃ later, Tally.Run (max 1 budget.maxAttempts.toNat) count begun.tallies later ∧
      budget.Stands later after.ledger ∧
      reported occurrences = begun.tallies.filterMap (·.number?) := by
  have check : reported (executor.check unit prior) = [] := by
    rw [reported, Executor.account_check]
    rfl
  cases opening with
  | denied refused => exact ⟨count, .nil count, stands, check⟩
  | invoked pending call =>
    refine ⟨count, .nil count, stands, ?_⟩
    rw [reported_append, check]
    rfl
  | gone retried attached notPending =>
    exact ⟨0, .cleared (.nil 0), (stands.toKeeps.reset shares _).unspent stands.kept, rfl⟩

/-- What the second half of an attempt on a unit of the budget does to the count. -/
theorem closing_run {concluded : Except Fault Unit} {before after : World.Holdings}
    {sequel : Sequel} {occurrences : List Occurrence}
    (shares : budget.Shares executor unit) (stands : budget.Stands count before.ledger)
    (closing : executor.Closing unit prior now concluded before sequel occurrences after) :
    let tallies := sequel.tallies (executor.numberGiven unit now before.ledger)
    ∃ later, Tally.Run (max 1 budget.maxAttempts.toNat) count tallies later ∧
      budget.Stands later after.ledger ∧ reported occurrences = tallies.filterMap (·.number?) := by
  rw [stands.numberGiven shares now]
  cases closing with
  | completed succeeded =>
    refine ⟨0, .cleared (.nil 0), (stands.toKeeps.reset shares _).unspent stands.kept, ?_⟩
    rw [reported, Executor.account_thanks]
    rfl
  | vanished failed retried notFound =>
    exact ⟨0, .cleared (.nil 0), (stands.toKeeps.reset shares _).unspent stands.kept, rfl⟩
  | retried entropy failed present numbered worthwhile =>
    have keeps := stands.toKeeps.increment shares stands.small (Instant.ofMillis now)
    rw [stands.toKeeps.number shares stands.small now fun none => absurd none stands.kept] at numbered
    subst numbered
    -- another attempt is allowed, so this number is not the greatest one
    refine ⟨count + 1, .counted stands.left (.nil _), ⟨keeps, ?_, stands.kept⟩, ?_⟩
    · simp only [Executor.isRetried, Bool.and_eq_true, RetryPolicy.hasAttemptsLeft,
        decide_eq_true_eq] at worthwhile
      rw [shares.maxAttempts] at worthwhile
      omega
    · simp [reported, account, Occurrence.event?, AuditEvent.failedAttempt?, Sequel.tallies,
        Tally.number?, Executor.setback, Setback.of]
  | gaveUp sources failed present numbered spent =>
    rename_i fault attempt
    have keeps := stands.toKeeps.increment shares stands.small (Instant.ofMillis now)
    rw [stands.toKeeps.number shares stands.small now fun none => absurd none stands.kept] at numbered
    subst numbered
    -- the number is taken before the count is removed
    have tallies : (Sequel.done (Executor.givenUp unit
        (executor.setback unit now fault (count + 1)) (count + 1) sources
          executor.handler.compensation).1).tallies (count + 1) =
        [.counted (count + 1), .cleared] := by
      rw [Executor.result_givenUp]
      split <;> rfl
    obtain ⟨failures, given⟩ := account_givenUp unit (executor.setback unit now fault (count + 1))
      (count + 1) sources executor.handler.compensation
    rw [tallies]
    refine ⟨0, .counted stands.left (.cleared (.nil 0)), (keeps.reset shares _).unspent stands.kept, ?_⟩
    rw [← List.singleton_append, reported_append, reported, reported, given]
    simp [account, failureEvents, Occurrence.event?, AuditEvent.failedAttempt?, Tally.number?,
      Executor.setback, Setback.of]

/-- Halves of attempts report what they add to the tale. -/
theorem reported_of_tale {next : World} {key : RetryKey} {now : Nat}
    {occurrences : List Occurrence}
    (tale : next.tale (fun unit => unit.retryKey = key) =
      world.tale (fun unit => unit.retryKey = key) ++
        occurrences.map fun occurrence => ⟨now, occurrence⟩) :
    next.reported key = world.reported key ++ Resilience.reported occurrences := by
  rw [World.reported, World.account_of_tale tale, Account.plus, List.filterMap_append]
  rfl

/-- What happens to other units reports nothing. -/
theorem reported_of_same {next : World} {key : RetryKey}
    (tale : next.tale (fun unit => unit.retryKey = key) =
      world.tale fun unit => unit.retryKey = key) :
    next.reported key = world.reported key ++ ([] : List Tally).filterMap (·.number?) := by
  rw [World.reported, World.account, tale, List.filterMap_nil, List.append_nil]
  rfl

/-- What a deed does to the count of a budget, and what it reports. -/
theorem deed_run (deed : Deed) (fits : budget.Fits deed) (stands : budget.Stands count world.ledger) :
    ∃ later,
      Tally.Run (max 1 budget.maxAttempts.toNat) count (deed.tallies budget.key world) later ∧
        budget.Stands later (world.perform deed).ledger ∧
        (world.perform deed).reported budget.key =
          world.reported budget.key ++ (deed.tallies budget.key world).filterMap (·.number?) := by
  cases deed with
  | begin executor unit prior now =>
    -- whoever counts with the key keeps to the budget, and the others leave its place alone
    rcases fits with shares | apart
    · obtain ⟨occurrences, opening, tale⟩ := @Executor.tale_beginAttempt_of_mine executor unit prior
        now world (fun unit => unit.retryKey = budget.key) (decide_eq_true shares.key)
      obtain ⟨later, run, left, told⟩ := opening_run shares stands opening
      rw [Deed.tallies, if_pos shares.key, ← told]
      exact ⟨later, run, left, reported_of_tale tale⟩
    · rw [Deed.tallies, if_neg apart.key]
      exact ⟨count, .nil count, ⟨stands.toKeeps.perform apart, stands.left, stands.kept⟩,
        reported_of_same (Executor.tale_beginAttempt_of_other (decide_eq_false apart.key))⟩
  | conclude executor unit prior outcome now =>
    rcases fits with shares | apart
    · obtain ⟨occurrences, closing, tale⟩ := @Executor.tale_endAttempt_of_mine executor unit prior
        now world (fun unit => unit.retryKey = budget.key) (decide_eq_true shares.key) outcome
      obtain ⟨later, run, left, told⟩ :=
        @closing_run budget executor unit prior now count _ world.holdings _ _ _ shares stands closing
      rw [Deed.tallies, if_pos shares.key]
      exact ⟨later, run, left, (reported_of_tale tale).trans (congrArg _ told)⟩
    · rw [Deed.tallies, if_neg apart.key]
      exact ⟨count, .nil count, ⟨stands.toKeeps.perform apart, stands.left, stands.kept⟩,
        reported_of_same (Executor.tale_endAttempt_of_other (decide_eq_false apart.key) outcome)⟩
  | publish now handle status =>
    exact ⟨count, .nil count, ⟨stands.toKeeps.perform fits, stands.left, stands.kept⟩,
      reported_of_same (world.tale_publish _ now handle status)⟩
  | elapse | setScheduler | alter =>
    exact ⟨count, .nil count, ⟨stands.toKeeps.perform fits, stands.left, stands.kept⟩, reported_of_same rfl⟩

/-- Numbers are taken in order, whoever takes them and whenever. -/
theorem tallies_run (deeds : List Deed) (fits : ∀ deed ∈ deeds, budget.Fits deed)
    (stands : budget.Stands count world.ledger) :
    ∃ later,
      Tally.Run (max 1 budget.maxAttempts.toNat) count (world.tallies budget.key deeds) later ∧
        budget.Stands later (world.performAll deeds).ledger ∧
        (world.performAll deeds).reported budget.key =
          world.reported budget.key ++
            (world.tallies budget.key deeds).filterMap (·.number?) := by
  induction deeds generalizing world count with
  | nil => exact ⟨count, .nil count, stands, (List.append_nil _).symm⟩
  | cons deed deeds ih =>
    obtain ⟨middle, run, between, told⟩ := deed_run deed (fits deed List.mem_cons_self) stands
    obtain ⟨later, others, left, rest⟩ :=
      ih (fun other member => fits other (List.mem_cons_of_mem _ member)) between
    refine ⟨later, run.append others, left, ?_⟩
    rw [World.tallies, List.filterMap_append, ← List.append_assoc, ← told]
    exact rest

/-- Any number of lifecycles share a budget: between two removals of the count the failed attempts
take the numbers one, two, three and so on, at most as many as there are attempts. These are the
numbers that their events report, and the one that was taken last is the count that is kept. -/
theorem shared_by_all (budget : Budget) (place : Place) (world : World) (deeds : List Deed)
    (kept : budget.place? = some place) (fits : ∀ deed ∈ deeds, budget.Fits deed)
    (available :
      budget.counter.locate world.ledger.isAvailable budget.key = .ok (place, none))
    (unused : place.find? world.ledger = none) :
    (∀ stretch ∈ Tally.stretches (world.tallies budget.key deeds),
      stretch = List.range' 1 stretch.length ∧
        stretch.length ≤ max 1 budget.maxAttempts.toNat) ∧
    (world.performAll deeds).reported budget.key =
      world.reported budget.key ++ (world.tallies budget.key deeds).filterMap (·.number?) ∧
    place.Holds (Tally.last (world.tallies budget.key deeds)) (world.performAll deeds).ledger := by
  have stands : budget.Stands 0 world.ledger :=
    (Keeps.of_unused kept available unused).unspent (by simp [kept])
  obtain ⟨later, run, left, told⟩ := tallies_run deeds fits stands
  have count : later = Tally.last (world.tallies budget.key deeds) := by
    have last := run.last_eq
    split at last
    · rename_i none
      rw [last, none]
      rfl
    · exact last
  obtain ⟨first, others, split, consecutive, bound, rest⟩ := run.stretches
  refine ⟨fun stretch member => ?_, told, count ▸ left.holds place kept⟩
  rw [split] at member
  rcases List.mem_cons.1 member with rfl | member
  · exact ⟨consecutive, by omega⟩
  · exact rest stretch member

/-- Everybody who works in a scene, for a budget: lifecycles share it or are apart from it. -/
def everybody (budget : Budget) : Surroundings where
  mine _ := false
  plays executor unit := budget.Shares executor unit ∨ budget.Apart executor unit
  shuts _ := True
  alters := budget.Spares

/-- Lifecycles that share a budget or are apart from it take from the budget by the counter or not at
all. -/
theorem fits_of_aside {deed : Deed} (aside : deed.Aside budget.everybody) : budget.Fits deed := by
  cases deed with
  | begin | conclude => exact aside.2
  | alter => exact aside
  | publish | elapse | setScheduler => trivial

/-- Whatever the moves in a scene of lifecycles that share a budget or are apart from it: the numbers
that the counter gives to the attempts that fail are one, two, three and so on between two removals of
the count, without a gap and as far as the policy allows; they are the numbers that these attempts
report; and the count that is kept is the last of them. -/
theorem shared_in_scene (budget : Budget) (place : Place) (world : World) (now : Nat)
    (moves : List Move) (kept : budget.place? = some place)
    (allowed : ∀ move ∈ moves, move.Allowed budget.everybody)
    (available :
      budget.counter.locate world.ledger.isAvailable budget.key = .ok (place, none))
    (unused : place.find? world.ledger = none) :
    let start := Scene.opening world now
    let last := (start.play moves).run.state
    let tallies := start.tallies budget.key moves
    (∀ stretch ∈ Tally.stretches tallies,
      stretch = List.range' 1 stretch.length ∧
        stretch.length ≤ max 1 budget.maxAttempts.toNat) ∧
    last.reported budget.key = tallies.filterMap (·.number?) ∧
    place.Holds (Tally.last tallies) last.ledger := by
  intro start last tallies
  have nobody : start.Peopled budget.everybody :=
    fun sign member => absurd member (Multiset.notMem_zero sign)
  have asides := (Scene.tidy_opening world now).asides nobody (fun _ => rfl) moves allowed
  obtain ⟨numbered, told, held⟩ := budget.shared_by_all place start.run.state
    (start.allDeeds moves) kept (fun deed member => fits_of_aside (asides deed member)) available
    unused
  rw [← start.state_play moves] at told held
  exact ⟨numbered, told, held⟩

/-- Two calls for one unit fail one after the other, and the second one gives the unit up. -/
theorem shared_in_scene_by_two :
    let executor : Executor :=
      { counter := .inProcess "counts" { defaultTtl := none }
        handler := ⟨{ maxAttempts := 2 }, none⟩ }
    let unit : WorkUnit := ⟨"a", "deliver", none, .empty⟩
    let place : Place := .inProcess "counts" unit.retryKey
    let budget : Budget := ⟨executor.counter, unit.retryKey, 2, some place⟩
    let operation : Operation :=
      { name := "down", respond := fun _ _ => ⟨.zero, .error (.of .timeout "late")⟩ }
    let world : World := { operations := Table.insert {} 0 operation }
    let moves : List Move := [.enter executor unit, .enter executor unit, .leave 0, .leave 0]
    let last := ((Scene.opening world 0).play moves).run.state
    let tallies := (Scene.opening world 0).tallies budget.key moves
    (budget.place? = some place ∧ (∀ move ∈ moves, move.Allowed budget.everybody) ∧
      budget.counter.locate world.ledger.isAvailable budget.key = .ok (place, none) ∧
      place.find? world.ledger = none) ∧
    tallies = [.counted 1, .counted 2, .cleared] ∧
    (∀ stretch ∈ Tally.stretches tallies,
      stretch = List.range' 1 stretch.length ∧
        stretch.length ≤ max 1 budget.maxAttempts.toNat) ∧
    last.reported budget.key = tallies.filterMap (·.number?) ∧
    place.Holds (Tally.last tallies) last.ledger := by
  intro executor unit place budget operation world moves last tallies
  have shares : budget.Shares executor unit := ⟨rfl, rfl, rfl⟩
  have allowed : ∀ move ∈ moves, move.Allowed budget.everybody := by
    have entered : (Move.enter executor unit).Allowed budget.everybody := fun _ => .inl shares
    have left : (Move.leave 0).Allowed budget.everybody := trivial
    exact List.forall_mem_cons.2 ⟨entered, List.forall_mem_cons.2 ⟨entered,
      List.forall_mem_cons.2 ⟨left, List.forall_mem_singleton.2 left⟩⟩⟩
  have made : tallies = [.counted 1, .counted 2, .cleared] := by decide +kernel
  obtain ⟨numbered, told, held⟩ := shared_in_scene budget place world 0 moves rfl allowed rfl rfl
  exact ⟨⟨rfl, allowed, rfl, rfl⟩, made, numbered, told, held⟩

end Budget

end Resilience
