import Resilience.Executor.Attempt
import Resilience.Proofs.Compensation

/-!
# The tale of a unit

The journal of a world records what happens to all units. The tale of some units is the part of it
that is about them: invocations, requests to sources, runs of compensations, and the events of their
lifecycles. Transitions of circuits and fallbacks of counters are about no unit.

What each half of an attempt adds to the tale is told once here, case by case, together with what it
does to the ledger of counts. Attempts on other units add nothing.

## Main definitions

* `Occurrence.about`, `World.tale` — the part of the journal that is about some units
* `Executor.Opening` — what the first half of an attempt can come to
* `Executor.Closing` — what the second half can come to
* `Executor.givenUp` — the result of a unit that is given up, and what its compensation adds

## Main statements

* `Executor.opening_beginAttempt`, `Executor.closing_endAttempt` — there are no other cases
* `Executor.result_givenUp` — the result of a unit that is given up
* `Executor.Opening.fixed`, `Executor.Closing.fixed` — what attempts leave alone
-/

namespace Resilience

/-- Whether something that happened is about some units. -/
def Occurrence.about (mine : WorkUnit → Bool) : Occurrence → Bool
  | audited (.retryScheduled setback _) | audited (.gaveUp setback _)
  | audited (.compensationFailed setback _ _) | compensated _ setback => mine setback.unit
  | audited (.unitAbandoned unit _ _) | invoked _ unit | asked _ _ unit => mine unit
  | audited (.circuitChanged _) | audited (.counterFellBack _) | published _ _ => false

/-- A note of a compensation as it stands in the journal. -/
def CompensationNote.occurrence : CompensationNote → Occurrence
  | ran action setback => .compensated action setback
  | partFailed name setback failure => .audited (.compensationFailed setback name failure)

/-- The entries about some units for things that happen at one time. -/
def tellings (mine : WorkUnit → Bool) (now : Nat) (occurrences : List Occurrence) :
    List JournalEntry :=
  (occurrences.filter (·.about mine)).map fun occurrence => ⟨now, occurrence⟩

@[simp] theorem tellings_nil (mine : WorkUnit → Bool) (now : Nat) : tellings mine now [] = [] := rfl

theorem tellings_append (mine : WorkUnit → Bool) (now : Nat) (first second : List Occurrence) :
    tellings mine now (first ++ second) = tellings mine now first ++ tellings mine now second := by
  simp [tellings]

/-- If everything that happens is about one unit, then all of it is told or nothing. -/
theorem tellings_of_about {mine : WorkUnit → Bool} {unit : WorkUnit} {now : Nat}
    {occurrences : List Occurrence}
    (about : ∀ occurrence ∈ occurrences, occurrence.about mine = mine unit) :
    tellings mine now occurrences =
      if mine unit then occurrences.map fun occurrence => ⟨now, occurrence⟩ else [] := by
  rw [tellings]
  split
  · rename_i own
    rw [List.filter_eq_self.2 fun occurrence member => (about occurrence member).trans own]
  · rename_i other
    rw [List.filter_eq_nil_iff.2 fun occurrence member =>
      by rw [about occurrence member]; exact other]
    rfl

theorem about_occurrence (mine : WorkUnit → Bool) (note : CompensationNote) :
    note.occurrence.about mine = mine note.setback.unit := by
  cases note <;> rfl

namespace World

/-- The part of the journal that is about some units. -/
def tale (world : World) (mine : WorkUnit → Bool) : List JournalEntry :=
  world.journal.toList.filter (·.occurrence.about mine)

variable (world : World) (mine : WorkUnit → Bool) (now : Nat)

/-- What every change leaves alone, a sequence of changes leaves alone. -/
theorem foldl_view {α β : Type} (view : World → β) {change : World → α → World}
    (same : ∀ world item, view (change world item) = view world) (items : List α)
    (world : World) : view (items.foldl change world) = view world := by
  induction items generalizing world with
  | nil => rfl
  | cons item items ih => exact (ih (change world item)).trans (same world item)

/-! ## What changes a tale -/

theorem tale_record (occurrence : Occurrence) :
    (world.record now occurrence).tale mine =
      world.tale mine ++ tellings mine now [occurrence] := by
  rw [tale, record, Array.toList_push, List.filter_append]
  cases about : occurrence.about mine <;> simp [tellings, tale, about]

theorem tale_audit (event : AuditEvent) :
    (world.audit now event).tale mine =
      world.tale mine ++ tellings mine now [.audited event] :=
  world.tale_record mine now _

@[simp] theorem tale_publish (handle : Nat) (status : Status) :
    (world.publish now handle status).tale mine = world.tale mine := by
  rw [publish, tale_record]
  exact List.append_nil _

@[simp] theorem tale_setBreaker (id : Nat) (change : Breaker.Change) :
    (world.setBreaker now id change).tale mine = world.tale mine := by
  unfold setBreaker
  dsimp only
  split
  · rfl
  · rw [tale_audit]
    exact List.append_nil _

@[simp] theorem tale_changeBreaker (id : Option Nat) (operation : Breaker → Breaker.Change) :
    (world.changeBreaker now id operation).tale mine = world.tale mine := by
  unfold changeBreaker
  split
  · rfl
  · split
    · rfl
    · exact world.tale_setBreaker mine now _ _

@[simp] theorem tale_acquire (id : Option Nat) :
    (world.acquire now id).2.tale mine = world.tale mine := by
  unfold acquire
  split
  · rfl
  · split
    · rfl
    · exact world.tale_setBreaker mine now _ _

/-- A breaker refuses with one kind of failure only. -/
theorem isDenied_of_acquire {id : Option Nat} {failure : Failure}
    (refused : (world.acquire now id).1 = .error failure) : failure.isDenied = true := by
  unfold acquire at refused
  split at refused
  · cases refused
  · split at refused
    · cases refused
    · rename_i breaker _
      dsimp only at refused
      cases answer : (breaker.acquire (Instant.ofMillis now)).1 with
      | ok _ =>
        rw [answer] at refused
        cases refused
      | error denial =>
        rw [answer] at refused
        cases refused
        rfl

@[simp] theorem tale_setOperation (id : Nat) (operation : Operation) :
    (world.setOperation id operation).tale mine = world.tale mine := rfl

@[simp] theorem tale_askCounter {α : Type} (request : Ledger → Served α) :
    (world.askCounter now request).2.tale mine = world.tale mine := by
  -- fallbacks are reported without a unit
  refine foldl_view (·.tale mine) (fun world fallback => ?_) _ _
  exact (world.tale_audit mine now _).trans (List.append_nil _)

theorem tale_askSource {α : Type} (id : Nat) (kind : SourceRequest) (unit : WorkUnit)
    (request : Source → Except Failure α × Source) :
    (world.askSource now id kind unit request).2.tale mine =
      world.tale mine ++ tellings mine now [.asked id kind unit] := by
  unfold askSource
  exact tale_record _ mine now _

theorem foldl_note (notes : List CompensationNote) (world : World) :
    (notes.foldl (fun world note => world.record now note.occurrence) world).tale mine =
      world.tale mine ++ tellings mine now (notes.map (·.occurrence)) := by
  induction notes generalizing world with
  | nil => exact (List.append_nil _).symm
  | cons first rest ih =>
    rw [List.foldl_cons, ih, tale_record, List.append_assoc, ← tellings_append]
    rfl

theorem compensate_eq (compensation : Compensation) (setback : Setback) :
    world.compensate now compensation setback =
      ((compensation.run setback world.sources).verdict,
        (compensation.run setback world.sources).notes.foldl
          (fun world note => world.record now note.occurrence)
          { world with sources := (compensation.run setback world.sources).sources }) := by
  unfold compensate
  dsimp only
  congr 2
  funext world note
  cases note <;> rfl

theorem tale_compensate (compensation : Compensation) (setback : Setback) :
    (world.compensate now compensation setback).2.tale mine =
      world.tale mine ++ tellings mine now
        ((compensation.run setback world.sources).notes.map (·.occurrence)) := by
  rw [compensate_eq]
  exact foldl_note mine now _ _

/-! ## What changes the holdings -/

/-- What a world holds besides sources, breakers, random numbers and the journal. -/
structure Holdings where
  ledger : Ledger
  operations : Table Nat Operation
  statuses : Table Nat Status
  schedulers : Table Nat Scheduler

def holdings : Holdings where
  ledger := world.ledger
  operations := world.operations
  statuses := world.statuses
  schedulers := world.schedulers

@[simp] theorem ledger_holdings : world.holdings.ledger = world.ledger := rfl

@[simp] theorem holdings_record (occurrence : Occurrence) :
    (world.record now occurrence).holdings = world.holdings := rfl

@[simp] theorem holdings_audit (event : AuditEvent) :
    (world.audit now event).holdings = world.holdings := rfl

@[simp] theorem holdings_setBreaker (id : Nat) (change : Breaker.Change) :
    (world.setBreaker now id change).holdings = world.holdings := by
  unfold setBreaker
  dsimp only
  split <;> rfl

@[simp] theorem holdings_changeBreaker (id : Option Nat) (operation : Breaker → Breaker.Change) :
    (world.changeBreaker now id operation).holdings = world.holdings := by
  unfold changeBreaker
  split
  · rfl
  · split
    · rfl
    · exact world.holdings_setBreaker now _ _

@[simp] theorem holdings_acquire (id : Option Nat) :
    (world.acquire now id).2.holdings = world.holdings := by
  unfold acquire
  split
  · rfl
  · split
    · rfl
    · exact world.holdings_setBreaker now _ _

@[simp] theorem holdings_askSource {α : Type} (id : Nat) (kind : SourceRequest) (unit : WorkUnit)
    (request : Source → Except Failure α × Source) :
    (world.askSource now id kind unit request).2.holdings = world.holdings := rfl

@[simp] theorem holdings_compensate (compensation : Compensation) (setback : Setback) :
    (world.compensate now compensation setback).2.holdings = world.holdings := by
  rw [compensate_eq]
  exact foldl_view (·.holdings) (fun world _ => world.holdings_record now _) _ _

@[simp] theorem holdings_askCounter {α : Type} (request : Ledger → Served α) :
    (world.askCounter now request).2.holdings =
      { world.holdings with ledger := (request world.ledger).ledger } :=
  foldl_view (·.holdings) (fun world _ => world.holdings_audit now _) _ _

end World

namespace Executor

variable (executor : Executor) (unit : WorkUnit) (prior now : Nat)

/-! ## Counts -/

/-- The ledger once the count of a unit is removed. -/
def cleared (holdings : World.Holdings) : World.Holdings :=
  { holdings with
    ledger := (executor.counter.reset unit.retryKey (Instant.ofMillis now) holdings.ledger).ledger }

/-- The ledger once a failed attempt is counted. -/
def counted (holdings : World.Holdings) : World.Holdings :=
  { holdings with
    ledger :=
      (executor.counter.increment unit.retryKey (Instant.ofMillis now) holdings.ledger).ledger }

/-- The number of a failed attempt. -/
def number (ledger : Ledger) : Nat :=
  match (executor.counter.increment unit.retryKey (Instant.ofMillis now) ledger).answer with
  | .ok count => min count greatestAttempt
  | .error _ => nextAttempt prior

variable (world : World) (mine : WorkUnit → Bool)

@[simp] theorem tale_resetCount :
    (executor.resetCount unit now world).tale mine = world.tale mine :=
  world.tale_askCounter mine now _

@[simp] theorem holdings_resetCount :
    (executor.resetCount unit now world).holdings = executor.cleared unit now world.holdings :=
  world.holdings_askCounter now _

theorem countAttempt_eq :
    executor.countAttempt unit prior now world =
      (executor.number unit prior now world.ledger,
        (world.askCounter now
          (executor.counter.increment unit.retryKey (Instant.ofMillis now))).2) := by
  unfold countAttempt number World.askCounter
  dsimp only
  split <;> simp [*]

/-! ## The first half of an attempt -/

/-- The question whether a unit is still pending, if it is asked. -/
def check : List Occurrence :=
  match executor.source with
  | none => []
  | some source => if prior = 0 then [] else [.asked source .isPending unit]

/-- What the first half of an attempt can come to, with what it adds to the journal about the unit
and what the world holds afterwards. -/
inductive Opening (world : World) : Begun → List Occurrence → World.Holdings → Prop
  | denied {failure : Failure} (refused : failure.isDenied = true) :
    Opening world (.ended (.error failure)) (executor.check unit prior) world.holdings
  | invoked {response : Response} {operation : Operation}
      (pending : prior ≠ 0 → (executor.isStillPending unit now world).1 = true)
      (call : (world.operation executor.operation).invoke unit now = (response, operation)) :
    Opening world (.running response)
      (executor.check unit prior ++ [.invoked executor.operation unit])
      { world.holdings with
        operations := world.operations.insert executor.operation operation }
  | gone {source : Nat} (retried : prior ≠ 0) (attached : executor.source = some source)
      (notPending : (executor.isStillPending unit now world).1 = false) :
    Opening world (.ended (.ok (.abandoned prior)))
      [.asked source .isPending unit,
        .audited (.unitAbandoned unit prior "unit left its source")]
      (executor.cleared unit now world.holdings)

/-- Asking for a pending unit adds the question and nothing else. -/
theorem isStillPending_fixed (retried : prior ≠ 0) :
    (executor.isStillPending unit now world).2.holdings = world.holdings ∧
      ∀ mine, (executor.isStillPending unit now world).2.tale mine =
        world.tale mine ++ tellings mine now (executor.check unit prior) := by
  cases attached : executor.source with
  | none =>
    simp only [isStillPending, check, attached, tellings_nil, List.append_nil, implies_true, and_self]
  | some source =>
    simp only [isStillPending, check, attached, if_neg retried]
    have asked := fun mine => world.tale_askSource mine now source .isPending unit
      fun source => (source.isPending unit.id, source)
    have held := world.holdings_askSource now source .isPending unit
      fun source => (source.isPending unit.id, source)
    split <;> exact ⟨held, asked⟩

/-- The first half of an attempt with the question for the unit left out. -/
theorem opening_invoke (asking : World)
    (pending : prior ≠ 0 → (executor.isStillPending unit now world).1 = true)
    (holdings : asking.holdings = world.holdings)
    (tale : ∀ mine, asking.tale mine = world.tale mine ++ tellings mine now (executor.check unit prior)) :
    ∃ occurrences,
      executor.Opening unit prior now world (executor.invoke unit now asking).1 occurrences
        (executor.invoke unit now asking).2.holdings ∧
      ∀ mine, (executor.invoke unit now asking).2.tale mine =
        world.tale mine ++ tellings mine now occurrences := by
  -- whether the breaker admits the attempt or not, nothing about the unit changes by asking it
  have tale' := fun mine => (asking.tale_acquire mine now executor.breaker).trans (tale mine)
  have holdings' := (asking.holdings_acquire now executor.breaker).trans holdings
  have refused := fun failure => @World.isDenied_of_acquire asking now executor.breaker failure
  unfold invoke
  rcases acquired : asking.acquire now executor.breaker with ⟨admission, admitted⟩
  simp only [acquired] at tale' holdings' refused
  cases admission with
  | error failure =>
    refine ⟨executor.check unit prior, ?_, tale'⟩
    dsimp only
    rw [holdings']
    exact .denied (refused failure rfl)
  | ok _ =>
    have operations : admitted.operations = world.operations := congrArg (·.operations) holdings'
    have same : admitted.operation executor.operation = world.operation executor.operation := by
      rw [World.operation, operations, World.operation]
    refine ⟨executor.check unit prior ++ [.invoked executor.operation unit], ?_, fun mine => ?_⟩
    · dsimp only
      rw [World.holdings_record, same]
      have held (operation : Operation) :
          (admitted.setOperation executor.operation operation).holdings =
            { world.holdings with
              operations := world.operations.insert executor.operation operation } := by
        rw [← holdings', ← operations]
        rfl
      rw [held]
      exact .invoked pending rfl
    · dsimp only
      rw [World.tale_record, World.tale_setOperation, tale', tellings_append, List.append_assoc]

/-- The first half of an attempt comes to one of the cases. -/
theorem opening_beginAttempt :
    ∃ occurrences,
      executor.Opening unit prior now world (executor.beginAttempt unit prior now world).1
        occurrences (executor.beginAttempt unit prior now world).2.holdings ∧
      ∀ mine, (executor.beginAttempt unit prior now world).2.tale mine =
        world.tale mine ++ tellings mine now occurrences := by
  unfold beginAttempt
  split
  · -- a first attempt does not ask the source
    rename_i first
    refine executor.opening_invoke unit prior now world world (absurd first) rfl fun mine => ?_
    have none : executor.check unit prior = [] := by
      rw [check]
      split <;> simp [first]
    rw [none, tellings_nil, List.append_nil]
  · rename_i retried
    have fixed := executor.isStillPending_fixed unit prior now world retried
    have opened := executor.opening_invoke unit prior now world
      (executor.isStillPending unit now world).2
    -- without a source nobody says that the unit has gone
    have attached : (executor.isStillPending unit now world).1 = false →
        ∃ source, executor.source = some source := by
      intro notPending
      cases attached : executor.source with
      | none => simp [isStillPending, attached] at notPending
      | some source => exact ⟨source, rfl⟩
    rcases asked : executor.isStillPending unit now world with ⟨pending, asking⟩
    rw [asked] at fixed opened attached
    dsimp only at fixed opened attached ⊢
    cases pending with
    | true => exact opened (fun _ => rfl) fixed.1 fixed.2
    | false =>
      obtain ⟨source, attached⟩ := attached rfl
      have check : executor.check unit prior = [.asked source .isPending unit] := by
        simp only [Executor.check, attached, if_neg retried]
      refine ⟨[.asked source .isPending unit,
        .audited (.unitAbandoned unit prior "unit left its source")], ?_, fun mine => ?_⟩
      · rw [if_neg nofun]
        dsimp only [abandon]
        rw [World.holdings_audit, holdings_resetCount, fixed.1]
        exact .gone retried attached (by rw [asked])
      · rw [if_neg nofun]
        dsimp only [abandon]
        rw [World.tale_audit, tale_resetCount, fixed.2, check, List.append_assoc,
          ← tellings_append]
        rfl

/-! ## The second half of an attempt -/

/-- The acknowledgement of a finished unit, if there is a source to tell. -/
def thanks : List Occurrence :=
  match executor.source with
  | none => []
  | some source => [.asked source .acknowledge unit]

/-- What is known about a failed attempt. -/
def setback (fault : Fault) (attempt : Nat) : Setback :=
  .of unit fault attempt executor.handler.policy.maxAttempts.toNat (Instant.ofMillis now)

/-- The result of a unit that is given up, and what its compensation adds to the journal. -/
def givenUp (unit : WorkUnit) (setback : Setback) (attempts : Nat) (sources : Table Nat Source) :
    Option Compensation → Except Failure Completion × List Occurrence
  | none => (.error (.exhausted unit.action attempts setback.fault), [])
  | some compensation =>
    let outcome := compensation.run setback sources
    let notes := outcome.notes.map (·.occurrence)
    let failed : Except Failure Completion :=
      .error (.exhausted unit.action attempts setback.fault)
    match outcome.verdict with
    | .ok .recovered => (.ok (.recovered attempts), notes)
    | .ok .propagate => (failed, notes)
    | .error failure =>
      (failed, notes ++ [.audited (.compensationFailed setback compensation.name failure)])

/-- Whether the compensation, if there is one, recovers from a failed attempt. -/
def recovers (setback : Setback) : Bool := executor.handler.compensation.any (·.recovers setback)

theorem result_givenUp (setback : Setback) (attempts : Nat) (sources : Table Nat Source) :
    (givenUp unit setback attempts sources executor.handler.compensation).1 =
      if executor.recovers setback then .ok (.recovered attempts)
      else .error (.exhausted unit.action attempts setback.fault) := by
  rw [recovers]
  cases executor.handler.compensation with
  | none => rfl
  | some compensation =>
    have recovered := Compensation.isRecovered_run setback compensation sources
    dsimp only [givenUp]
    rw [Option.any_some, ← recovered]
    split <;> rename_i verdict <;> rw [verdict] <;> rfl

/-- Whether a failed attempt is followed by another one. -/
def isRetried (fault : Fault) (attempt : Nat) : Bool :=
  executor.handler.policy.hasAttemptsLeft (max attempt 1) && executor.handler.policy.accepts fault

theorem judge_setback (fault : Fault) (attempt : Nat) (entropy : Entropy) :
    executor.handler.judge (.of unit fault attempt executor.handler.policy.maxAttempts.toNat
        (Instant.ofMillis now)) entropy =
      if executor.isRetried fault attempt then
        (.retry (executor.handler.policy.delay (max attempt 1) entropy).1,
          (executor.handler.policy.delay (max attempt 1) entropy).2)
      else (.giveUp executor.handler.compensation, entropy) := rfl

/-- What the second half of an attempt can come to, with what it adds to the journal about the unit
and what the world holds afterwards. -/
inductive Closing (concluded : Except Fault Unit) (before : World.Holdings) :
    Sequel → List Occurrence → World.Holdings → Prop
  | completed (succeeded : concluded = .ok ()) :
    Closing concluded before (.done (.ok (.completed (nextAttempt prior))))
      (executor.thanks unit) (executor.cleared unit now before)
  | vanished {fault : Fault} (failed : concluded = .error fault) (retried : 0 < prior)
      (notFound : fault.isKind .notFound = true) :
    Closing concluded before (.done (.ok (.abandoned (nextAttempt prior))))
      [.audited (.unitAbandoned unit (nextAttempt prior) "unit not found")]
      (executor.cleared unit now before)
  | retried {fault : Fault} {attempt : Nat} (entropy : Entropy) (failed : concluded = .error fault)
      (present : ¬ (0 < prior ∧ fault.isKind .notFound = true))
      (numbered : attempt = executor.number unit prior now before.ledger)
      (worthwhile : executor.isRetried fault attempt = true) :
    Closing concluded before
      (.retry attempt (executor.handler.policy.delay (max attempt 1) entropy).1)
      [.audited (.retryScheduled (executor.setback unit now fault attempt)
        (executor.handler.policy.delay (max attempt 1) entropy).1)]
      (executor.counted unit now before)
  | gaveUp {fault : Fault} {attempt : Nat} (sources : Table Nat Source)
      (failed : concluded = .error fault)
      (present : ¬ (0 < prior ∧ fault.isKind .notFound = true))
      (numbered : attempt = executor.number unit prior now before.ledger)
      (spent : executor.isRetried fault attempt = false) :
    Closing concluded before
      (.done (givenUp unit (executor.setback unit now fault attempt) attempt sources
        executor.handler.compensation).1)
      (.audited (.gaveUp (executor.setback unit now fault attempt)
          (executor.handler.compensation.map (·.name))) ::
        (givenUp unit (executor.setback unit now fault attempt) attempt sources
          executor.handler.compensation).2)
      (executor.cleared unit now (executor.counted unit now before))

/-- Another attempt is handed the number of the one that failed. -/
theorem Closing.number_of_retry {concluded : Except Fault Unit} {before after : World.Holdings}
    {attempt : Nat} {delay : Duration} {occurrences : List Occurrence}
    (closing : executor.Closing unit prior now concluded before (.retry attempt delay) occurrences
      after) : attempt = executor.number unit prior now before.ledger := by
  cases closing with
  | retried entropy failed present numbered => exact numbered

/-- Giving a unit up removes its count, reports it and runs the compensation. -/
theorem giveUp_eq (setback : Setback) (attempts : Nat) (compensation : Option Compensation) :
    ∃ sources,
      (executor.giveUp unit setback attempts compensation now world).1 =
          (givenUp unit setback attempts sources compensation).1 ∧
        (executor.giveUp unit setback attempts compensation now world).2.holdings =
          executor.cleared unit now world.holdings ∧
        ∀ mine, (executor.giveUp unit setback attempts compensation now world).2.tale mine =
          world.tale mine ++ tellings mine now
            (.audited (.gaveUp setback (compensation.map (·.name))) ::
              (givenUp unit setback attempts sources compensation).2) := by
  cases compensation with
  | none =>
    refine ⟨{}, rfl, ?_, fun mine => ?_⟩
    · exact executor.holdings_resetCount unit now world
    · dsimp only [giveUp]
      rw [World.tale_audit, tale_resetCount]
      rfl
  | some compensation =>
    dsimp only [giveUp]
    -- the count is removed and the report is made before the compensation runs
    generalize reported : (executor.resetCount unit now world).audit now
      (.gaveUp setback ((some compensation).map (·.name))) = given
    have held : given.holdings = executor.cleared unit now world.holdings := by
      rw [← reported, World.holdings_audit, holdings_resetCount]
    have told (mine : WorkUnit → Bool) : given.tale mine = world.tale mine ++
        tellings mine now [.audited (.gaveUp setback ((some compensation).map (·.name)))] := by
      rw [← reported, World.tale_audit, tale_resetCount]
    have held' := given.holdings_compensate now compensation setback
    have told' := fun mine => given.tale_compensate mine now compensation setback
    have verdict : (given.compensate now compensation setback).1 =
      (compensation.run setback given.sources).verdict := rfl
    refine ⟨given.sources, ?_⟩
    rcases compensated : given.compensate now compensation setback with ⟨answer, after⟩
    simp only [compensated, held, told] at held' told' verdict
    subst verdict
    dsimp only [givenUp]
    rcases (compensation.run setback given.sources).verdict with failure | (_ | _)
    · refine ⟨rfl, held', fun mine => ?_⟩
      rw [World.tale_audit, told', List.append_assoc, List.append_assoc, ← tellings_append,
        ← tellings_append]
      rfl
    all_goals
      refine ⟨rfl, held', fun mine => ?_⟩
      rw [told', List.append_assoc, ← tellings_append]
      rfl

/-- A unit that was processed is acknowledged. -/
theorem complete_eq (attempts : Nat) :
    (executor.complete unit attempts now world).1 = .completed attempts ∧
      (executor.complete unit attempts now world).2.holdings =
        executor.cleared unit now world.holdings ∧
      ∀ mine, (executor.complete unit attempts now world).2.tale mine =
        world.tale mine ++ tellings mine now (executor.thanks unit) := by
  unfold complete acknowledge thanks
  cases executor.source with
  | none => simp
  | some source =>
    refine ⟨rfl, ?_, fun mine => ?_⟩
    · simp
    · simp [World.tale_askSource]

theorem closing_handle {concluded : Except Fault Unit} {fault : Fault}
    (failed : concluded = .error fault)
    (present : ¬ (0 < prior ∧ fault.isKind .notFound = true)) :
    ∃ occurrences,
      executor.Closing unit prior now concluded world.holdings
        (executor.handle unit fault prior now world).1 occurrences
        (executor.handle unit fault prior now world).2.holdings ∧
      ∀ mine, (executor.handle unit fault prior now world).2.tale mine =
        world.tale mine ++ tellings mine now occurrences := by
  unfold handle
  dsimp only
  rw [countAttempt_eq]
  dsimp only
  -- the breaker is told first, then the attempt is counted, and then the policy judges it
  generalize changed : world.changeBreaker now executor.breaker
    (·.recordFault fault (Instant.ofMillis now)) = reported
  have held : reported.holdings = world.holdings := by rw [← changed, World.holdings_changeBreaker]
  have told (mine : WorkUnit → Bool) : reported.tale mine = world.tale mine := by
    rw [← changed, World.tale_changeBreaker]
  have ledger : reported.ledger = world.holdings.ledger := congrArg (·.ledger) held
  rw [ledger]
  generalize numbered : executor.number unit prior now world.holdings.ledger = attempt
  generalize asked : (reported.askCounter now
    (executor.counter.increment unit.retryKey (Instant.ofMillis now))).2 = counting
  have counted : counting.holdings = executor.counted unit now world.holdings := by
    rw [← asked, World.holdings_askCounter, held, ledger]
    rfl
  have still (mine : WorkUnit → Bool) : counting.tale mine = world.tale mine := by
    rw [← asked, World.tale_askCounter, told]
  rw [judge_setback]
  cases worthwhile : executor.isRetried fault attempt with
  | true =>
    rw [if_pos rfl]
    refine ⟨[.audited (.retryScheduled (executor.setback unit now fault attempt)
      (executor.handler.policy.delay (max attempt 1) counting.entropy).1)], ?_, fun mine => ?_⟩
    · have closed : executor.Closing unit prior now concluded world.holdings _ _ _ :=
        .retried counting.entropy failed present numbered.symm worthwhile
      rw [← counted] at closed
      exact closed
    · rw [← still mine]
      exact World.tale_audit ..
  | false =>
    rw [if_neg nofun]
    obtain ⟨sources, result, holdings, tale⟩ := executor.giveUp_eq unit now counting
      (executor.setback unit now fault attempt) attempt executor.handler.compensation
    refine ⟨.audited (.gaveUp (executor.setback unit now fault attempt)
        (executor.handler.compensation.map (·.name))) ::
      (givenUp unit (executor.setback unit now fault attempt) attempt sources
        executor.handler.compensation).2, ?_, fun mine => ?_⟩
    · have closed : executor.Closing unit prior now concluded world.holdings _ _ _ :=
        .gaveUp sources failed present numbered.symm worthwhile
      rw [← result, ← counted, ← holdings] at closed
      exact closed
    · rw [← still mine]
      exact tale mine

/-- The second half of an attempt comes to one of the cases. -/
theorem closing_endAttempt (outcome : Except Fault Unit) :
    ∃ occurrences,
      executor.Closing unit prior now
        ((world.operation executor.operation).conclude unit outcome) world.holdings
        (executor.endAttempt unit prior outcome now world).1 occurrences
        (executor.endAttempt unit prior outcome now world).2.holdings ∧
      ∀ mine, (executor.endAttempt unit prior outcome now world).2.tale mine =
        world.tale mine ++ tellings mine now occurrences := by
  unfold endAttempt
  cases concluded : (world.operation executor.operation).conclude unit outcome with
  | ok _ =>
    obtain ⟨completion, holdings, tale⟩ :=
      executor.complete_eq unit now world (nextAttempt prior)
    refine ⟨executor.thanks unit, ?_, tale⟩
    dsimp only
    rw [completion, holdings]
    exact .completed rfl
  | error fault =>
    dsimp only
    split
    · rename_i gone
      refine ⟨[.audited (.unitAbandoned unit (nextAttempt prior) "unit not found")], ?_,
        fun mine => ?_⟩
      · dsimp only [abandon]
        rw [World.holdings_audit, holdings_resetCount, World.holdings_changeBreaker]
        exact .vanished rfl gone.1 gone.2
      · dsimp only [abandon]
        rw [World.tale_audit, tale_resetCount, World.tale_changeBreaker]
    · exact executor.closing_handle unit prior now world rfl ‹_›

/-! ## Whom attempts are about -/

variable {executor unit prior now world mine}

theorem about_givenUp (setback : Setback) (same : setback.unit = unit) (attempts : Nat)
    (sources : Table Nat Source) (compensation : Option Compensation) :
    ∀ occurrence ∈ (givenUp unit setback attempts sources compensation).2,
      occurrence.about mine = mine unit := by
  cases compensation with
  | none => nofun
  | some compensation =>
    have notes : ∀ occurrence ∈
        (compensation.run setback sources).notes.map (·.occurrence),
        occurrence.about mine = mine unit := by
      intro occurrence member
      obtain ⟨note, noted, rfl⟩ := List.mem_map.1 member
      rw [about_occurrence,
        Compensation.setback_of_mem_notes setback compensation sources note noted, same]
    dsimp only [givenUp]
    split
    · exact notes
    · exact notes
    · intro occurrence member
      rcases List.mem_append.1 member with member | member
      · exact notes occurrence member
      · cases List.mem_singleton.1 member
        exact congrArg mine same

theorem Opening.about {begun : Begun} {occurrences : List Occurrence} {after : World.Holdings}
    (opening : executor.Opening unit prior now world begun occurrences after) :
    ∀ occurrence ∈ occurrences, occurrence.about mine = mine unit := by
  have check : ∀ occurrence ∈ executor.check unit prior, occurrence.about mine = mine unit := by
    rw [Executor.check]
    split
    · nofun
    · split
      · nofun
      · intro occurrence member
        cases List.mem_singleton.1 member
        rfl
  cases opening with
  | denied => exact check
  | invoked =>
    intro occurrence member
    rcases List.mem_append.1 member with member | member
    · exact check occurrence member
    · cases List.mem_singleton.1 member
      rfl
  | gone =>
    intro occurrence member
    rcases List.mem_cons.1 member with rfl | member
    · rfl
    · cases List.mem_singleton.1 member
      rfl

theorem Closing.about {concluded : Except Fault Unit} {before after : World.Holdings}
    {sequel : Sequel} {occurrences : List Occurrence}
    (closing : executor.Closing unit prior now concluded before sequel occurrences after) :
    ∀ occurrence ∈ occurrences, occurrence.about mine = mine unit := by
  cases closing with
  | completed =>
    rw [thanks]
    split
    · nofun
    · intro occurrence member
      cases List.mem_singleton.1 member
      rfl
  | vanished | retried =>
    intro occurrence member
    cases List.mem_singleton.1 member
    rfl
  | gaveUp sources =>
    intro occurrence member
    rcases List.mem_cons.1 member with rfl | member
    · rfl
    · exact about_givenUp (executor.setback unit now _ _) rfl _ sources _ occurrence member

/-- What the first half of an attempt on a unit of interest adds to the tale. -/
theorem tale_beginAttempt_of_mine (own : mine unit = true) :
    ∃ occurrences,
      executor.Opening unit prior now world (executor.beginAttempt unit prior now world).1
        occurrences (executor.beginAttempt unit prior now world).2.holdings ∧
      (executor.beginAttempt unit prior now world).2.tale mine =
        world.tale mine ++ occurrences.map fun occurrence => ⟨now, occurrence⟩ := by
  obtain ⟨occurrences, opening, tale⟩ := executor.opening_beginAttempt unit prior now world
  exact ⟨occurrences, opening, by rw [tale, tellings_of_about opening.about, if_pos own]⟩

/-- What the second half of an attempt on a unit of interest adds to the tale. -/
theorem tale_endAttempt_of_mine (own : mine unit = true) (outcome : Except Fault Unit) :
    ∃ occurrences,
      executor.Closing unit prior now
        ((world.operation executor.operation).conclude unit outcome) world.holdings
        (executor.endAttempt unit prior outcome now world).1 occurrences
        (executor.endAttempt unit prior outcome now world).2.holdings ∧
      (executor.endAttempt unit prior outcome now world).2.tale mine =
        world.tale mine ++ occurrences.map fun occurrence => ⟨now, occurrence⟩ := by
  obtain ⟨occurrences, closing, tale⟩ := executor.closing_endAttempt unit prior now world outcome
  exact ⟨occurrences, closing, by rw [tale, tellings_of_about closing.about, if_pos own]⟩

/-- Attempts on other units add nothing to the tale. -/
theorem tale_beginAttempt_of_other (other : mine unit = false) :
    (executor.beginAttempt unit prior now world).2.tale mine = world.tale mine := by
  obtain ⟨occurrences, opening, tale⟩ := executor.opening_beginAttempt unit prior now world
  rw [tale, tellings_of_about opening.about, if_neg (Bool.eq_false_iff.1 other), List.append_nil]

theorem tale_endAttempt_of_other (other : mine unit = false) (outcome : Except Fault Unit) :
    (executor.endAttempt unit prior outcome now world).2.tale mine = world.tale mine := by
  obtain ⟨occurrences, closing, tale⟩ := executor.closing_endAttempt unit prior now world outcome
  rw [tale, tellings_of_about closing.about, if_neg (Bool.eq_false_iff.1 other), List.append_nil]

/-- The first half of an attempt leaves the statuses and the schedulers alone. -/
theorem Opening.fixed {begun : Begun} {occurrences : List Occurrence} {after : World.Holdings}
    (opening : executor.Opening unit prior now world begun occurrences after) :
    after.statuses = world.statuses ∧ after.schedulers = world.schedulers := by
  cases opening <;> exact ⟨rfl, rfl⟩

/-- The second half of an attempt leaves the operations, the statuses and the schedulers alone. -/
theorem Closing.fixed {concluded : Except Fault Unit} {before after : World.Holdings}
    {sequel : Sequel} {occurrences : List Occurrence}
    (closing : executor.Closing unit prior now concluded before sequel occurrences after) :
    after.operations = before.operations ∧ after.statuses = before.statuses ∧
      after.schedulers = before.schedulers := by
  cases closing <;> exact ⟨rfl, rfl, rfl⟩

@[simp] theorem statuses_beginAttempt (executor : Executor) (unit : WorkUnit) (prior now : Nat)
    (world : World) :
    (executor.beginAttempt unit prior now world).2.statuses = world.statuses := by
  obtain ⟨_, opening, -⟩ := executor.opening_beginAttempt unit prior now world
  exact opening.fixed.1

@[simp] theorem statuses_endAttempt (executor : Executor) (unit : WorkUnit) (prior : Nat)
    (outcome : Except Fault Unit) (now : Nat) (world : World) :
    (executor.endAttempt unit prior outcome now world).2.statuses = world.statuses := by
  obtain ⟨_, closing, -⟩ := executor.closing_endAttempt unit prior now world outcome
  exact closing.fixed.2.1

theorem freshHandle_endAttempt (executor : Executor) (unit : WorkUnit) (prior : Nat)
    (outcome : Except Fault Unit) (now : Nat) (world : World) :
    (executor.endAttempt unit prior outcome now world).2.freshHandle = world.freshHandle :=
  congrArg Table.size (executor.statuses_endAttempt unit prior outcome now world)

@[simp] theorem schedulers_beginAttempt (executor : Executor) (unit : WorkUnit) (prior now : Nat)
    (world : World) :
    (executor.beginAttempt unit prior now world).2.schedulers = world.schedulers := by
  obtain ⟨_, opening, -⟩ := executor.opening_beginAttempt unit prior now world
  exact opening.fixed.2

@[simp] theorem schedulers_endAttempt (executor : Executor) (unit : WorkUnit) (prior : Nat)
    (outcome : Except Fault Unit) (now : Nat) (world : World) :
    (executor.endAttempt unit prior outcome now world).2.schedulers = world.schedulers := by
  obtain ⟨_, closing, -⟩ := executor.closing_endAttempt unit prior now world outcome
  exact closing.fixed.2.2

end Executor

/-- Where the schedulers are the same ones, so is each of them. -/
theorem World.scheduler_congr {first second : World}
    (same : first.schedulers = second.schedulers) (id : Nat) :
    first.scheduler id = second.scheduler id := by
  rw [scheduler, same, ← scheduler]

end Resilience
