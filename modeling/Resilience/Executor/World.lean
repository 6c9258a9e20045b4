import Resilience.Audit.Event
import Resilience.Breaker.Basic
import Resilience.Executor.Status
import Resilience.Handler
import Resilience.Operation
import Resilience.Scheduler

/-!
# Executors and their surroundings

An executor works on units: it invokes an operation, counts failed attempts, retries them through a
scheduler, and asks a source and a breaker if it has them. Operations, counters, sources, breakers
and schedulers can be shared among executors, so an executor knows them by number only and a
`World` keeps them, together with a journal of all that happens.

## Main definitions

* `Executor` — what an executor works with
* `World` — everything executors work with, the published statuses and the journal
* `Occurrence`, `JournalEntry` — what the journal records
* `World.audit`, `changeBreaker`, `askCounter`, `askSource` — the ways in which a world changes
* `World.events`, `World.customRuns` — what the journal tells
-/

namespace Resilience

/-- What an executor works with; shared parts are known by number. -/
structure Executor where
  operation : Nat := 0
  counter : Counter
  handler : Handler := {}
  scheduler : Nat := 0
  source : Option Nat := none
  breaker : Option Nat := none
  deriving Inhabited

/-- Something that happened in a world. -/
inductive Occurrence where
  /-- An event was reported. -/
  | audited (event : AuditEvent)
  /-- An operation was invoked on a unit. -/
  | invoked (operation : Nat) (unit : WorkUnit)
  /-- A source was asked about a unit. -/
  | asked (source : Nat) (request : SourceRequest) (unit : WorkUnit)
  /-- An action of a compensation ran. -/
  | compensated (action : Compensation) (setback : Setback)
  /-- A handle showed a new status. -/
  | published (handle : Nat) (status : Status)

/-- An occurrence with its time in milliseconds. -/
structure JournalEntry where
  time : Nat
  occurrence : Occurrence

/-- What follows an attempt: the end of the work, or another attempt after a delay. -/
inductive Sequel where
  | done (result : Except Failure Completion)
  | retry (attempt : Nat) (delay : Duration)
  deriving Inhabited

/-- Everything executors work with. -/
structure World where
  operations : Table Nat Operation := {}
  sources : Table Nat Source := {}
  breakers : Table Nat Breaker := {}
  schedulers : Table Nat Scheduler := {}
  ledger : Ledger := {}
  entropy : Entropy := default
  /-- The last status of every handle. -/
  statuses : Table Nat Status := {}
  journal : Array JournalEntry := #[]

namespace World

instance : Inhabited World := ⟨{}⟩

def operation (world : World) (id : Nat) : Operation := (world.operations.find? id).getD default

def scheduler (world : World) (id : Nat) : Scheduler :=
  (world.schedulers.find? id).getD { id }

/-- A world with one operation, one source and possibly one breaker, known by one number. -/
def start (id : Nat) (operation : Operation) (source : Source) (ledger : Ledger)
    (breaker : Option Breaker) : World where
  operations := Table.insert {} id operation
  sources := Table.insert {} id source
  breakers := (breaker.map (Table.insert {} id)).getD {}
  ledger

def setOperation (world : World) (id : Nat) (operation : Operation) : World :=
  { world with operations := world.operations.insert id operation }

/-- Records an occurrence. -/
def record (world : World) (now : Nat) (occurrence : Occurrence) : World :=
  { world with journal := world.journal.push ⟨now, occurrence⟩ }

/-- Reports an event. -/
def audit (world : World) (now : Nat) (event : AuditEvent) : World :=
  world.record now (.audited event)

/-- Shows a status on a handle. -/
def publish (world : World) (now handle : Nat) (status : Status) : World :=
  { world with statuses := world.statuses.insert handle status }.record now
    (.published handle status)

/-- Keeps a changed breaker and reports its transition. -/
def setBreaker (world : World) (now id : Nat) (change : Breaker.Change) : World :=
  let world := { world with breakers := world.breakers.insert id change.breaker }
  match change.transition with
  | none => world
  | some transition => world.audit now (.circuitChanged transition)

/-- Applies an operation to a breaker, if there is one. -/
def changeBreaker (world : World) (now : Nat) (id : Option Nat)
    (operation : Breaker → Breaker.Change) : World :=
  match id with
  | none => world
  | some id =>
    match world.breakers.find? id with
    | none => world
    | some breaker => world.setBreaker now id (operation breaker)

/-- Asks a breaker for admission; without a breaker every attempt is admitted. -/
def acquire (world : World) (now : Nat) (id : Option Nat) : Except Failure Unit × World :=
  match id with
  | none => (.ok (), world)
  | some id =>
    match world.breakers.find? id with
    | none => (.ok (), world)
    | some breaker =>
      let (answer, change) := breaker.acquire (Instant.ofMillis now)
      (answer.mapError breaker.denied, world.setBreaker now id change)

/-- Makes a request to a counter and reports the fallbacks on the way. -/
def askCounter {α : Type} (world : World) (now : Nat) (request : Ledger → Served α) :
    Except Failure α × World :=
  let served := request world.ledger
  (served.answer,
    served.fallbacks.foldl (fun world fallback => world.audit now (.counterFellBack fallback))
      { world with ledger := served.ledger })

/-- Makes a request to a store directly. -/
def askStore {α : Type} (world : World) (name : String)
    (request : CounterStore → α × CounterStore) : α × World :=
  let (answer, store) := request (world.ledger.store name)
  (answer, { world with ledger := world.ledger.setStore name store })

/-- Makes a request to the counts of the process directly. -/
def askLocal {α : Type} (world : World) (name : String)
    (request : LocalCounter → α × LocalCounter) : α × World :=
  let (answer, counter) := request (world.ledger.localCounter name)
  (answer, { world with ledger := world.ledger.setLocal name counter })

/-- Makes a request about a unit to a source. -/
def askSource {α : Type} (world : World) (now id : Nat) (kind : SourceRequest) (unit : WorkUnit)
    (request : Source → Except Failure α × Source) : Except Failure α × World :=
  let source := (world.sources.find? id).getD default
  let (answer, source) := request source
  (answer, { world with sources := world.sources.insert id source }.record now
    (.asked id kind unit))

/-- Runs a compensation for a failed attempt and records what it did. -/
def compensate (world : World) (now : Nat) (compensation : Compensation) (setback : Setback) :
    Except Failure Verdict × World :=
  let outcome := compensation.run setback world.sources
  let note (world : World) : CompensationNote → World
    | .ran action setback => world.record now (.compensated action setback)
    | .partFailed name setback failure =>
      world.audit now (.compensationFailed setback name failure)
  (outcome.verdict, outcome.notes.foldl note { world with sources := outcome.sources })

/-- What becomes of a world while time passes. -/
def elapse (before after : Nat) (world : World) : World :=
  { world with
    ledger := world.ledger.elapse (Instant.ofMillis before) (Instant.ofMillis after) }

/-- A handle that no unit has yet. -/
def freshHandle (world : World) : Nat := world.statuses.size

/-- The events reported so far. -/
def events (world : World) : List AuditEvent :=
  world.journal.toList.filterMap fun entry =>
    match entry.occurrence with
    | .audited event => some event
    | _ => none

/-- The runs of custom compensations so far, each with the name of the compensation. -/
def customRuns (world : World) : List (String × Setback) :=
  world.journal.toList.filterMap fun entry =>
    match entry.occurrence with
    | .compensated (.custom name _) setback => some (name, setback)
    | _ => none

end World

end Resilience
