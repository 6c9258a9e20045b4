import Resilience.Counter.Route
import Resilience.Counter.Store

/-!
# Retry counters

A retry counter counts failed attempts for each key. It keeps its counts in the process, in a
shared store under a text put before the key, or in both: a hybrid counter routes each key to one
of its two sides and falls back to the counts in the process when the shared side fails.

The counts themselves are kept in a `Ledger`, so that several counters can use one store.

## Main definitions

* `Ledger` — the counts of the process and the shared stores, by name
* `Counter`, `Counter.json` — where a counter keeps its counts
* `Served` — the answer to a request, the changed ledger and the fallbacks on the way
* `Counter.increment`, `incrementFor`, `count`, `reset`, `contains`, `close` — the requests
-/

namespace Resilience

/-- The counts of the process and the shared stores, by name. -/
structure Ledger where
  locals : Table String LocalCounter := {}
  stores : Table String CounterStore := {}
  deriving Inhabited

namespace Ledger

/-- The counts of the process under a name; at first there are none. -/
def localCounter (ledger : Ledger) (id : String) : LocalCounter :=
  (ledger.locals.find? id).getD {}

/-- The store of a name; at first it is empty and available. -/
def store (ledger : Ledger) (name : String) : CounterStore := (ledger.stores.find? name).getD {}

def setLocal (ledger : Ledger) (id : String) (counter : LocalCounter) : Ledger :=
  { ledger with locals := ledger.locals.insert id counter }

def setStore (ledger : Ledger) (name : String) (store : CounterStore) : Ledger :=
  { ledger with stores := ledger.stores.insert name store }

/-- What the sweepers do while time passes. -/
def elapse (ledger : Ledger) (before after : Instant) : Ledger :=
  { ledger with
    locals := ⟨ledger.locals.entries.map fun entry => (entry.1, entry.2.elapse before after)⟩ }

end Ledger

/-- Where a counter keeps its counts. -/
inductive Counter where
  /-- In the process. -/
  | inProcess (id : String) (config : LocalConfig)
  /-- In a store, with a text put before every key. -/
  | shared (store : String) (start : String) (defaultTtl : Option Duration)
  /-- On the near or the far side, as the route tells; with `fallsBack`, a failure of the far side
  is answered by the near side. -/
  | hybrid (near far : Counter) (route : KeyRoute) (fallsBack : Bool)
  /-- In another counter, without a default time to live of its own. -/
  | plain (inner : Counter)

instance : Inhabited Counter := ⟨.inProcess "" {}⟩

/-- A failure of a shared backend that was answered in the process. -/
structure Fallback where
  key : String
  operation : String
  backend : String
  failure : Failure
  deriving Repr

/-- The answer to a request, the changed ledger and the fallbacks on the way. -/
structure Served (α : Type) where
  answer : Except Failure α
  ledger : Ledger
  fallbacks : List Fallback := []

namespace Counter

/-- The text before every key of a shared counter, unless another one is chosen. -/
def defaultStart : String := "retry:"

def backend : Counter → String
  | inProcess .. => "local"
  | shared .. => CounterStore.backend
  | hybrid .. => "hybrid"
  | plain _ => "plain"

/-- The time to live of increments that do not give one. -/
def defaultTtl : Counter → Option Duration
  | inProcess _ config => config.defaultTtl
  | shared _ _ ttl => ttl
  | hybrid near .. => near.defaultTtl
  | plain _ => none

/-- Where the counts of a counter are kept in the process, with the configuration. -/
def local? : Counter → Option (String × LocalConfig)
  | inProcess id config => some (id, config)
  | _ => none

/-- The parts of a counter that its kind has. -/
def details : Counter → Json
  | shared _ start _ =>
    .object [("prefix", .string start), ("store", .string CounterStore.backend)]
  | hybrid near far _ fallsBack =>
    .object [("falls_back", .bool fallsBack), ("local", .string near.backend),
      ("shared", .string far.backend)]
  | inProcess .. | plain _ => .null

/-- The backend, the default time to live and the parts of a counter. -/
def json (counter : Counter) : Json :=
  .object [("backend", .string counter.backend),
    ("default_ttl", .ofOption Duration.json counter.defaultTtl), ("detail", counter.details)]

/-- A stored value as a count; negative values count as zero. -/
def nonNegative (value : Int) : Nat := value.toNat

/-- The answer of a store with the ledger that keeps it. -/
def served {α β : Type} (ledger : Ledger) (name : String) (present : α → β)
    (reply : Except Failure α × CounterStore) : Served β where
  answer := reply.1.map present
  ledger := ledger.setStore name reply.2

/-- Tries the far side of a hybrid counter, and the near side after a failure that may fall back.
Failures for which `final` holds never fall back. -/
def orElse {α : Type} (key operation : String) (far : Counter) (fallsBack : Bool)
    (final : Failure → Bool) (first : Served α) (second : Ledger → Served α) : Served α :=
  match first.answer with
  | .ok _ => first
  | .error failure =>
    if final failure || !fallsBack then first
    else
      let rest := second first.ledger
      { rest with
        fallbacks := first.fallbacks ++ ⟨key, operation, far.backend, failure⟩ :: rest.fallbacks }

/-- Whether a failure is about the time to live, which no other backend would accept. -/
def isTtlFailure : Failure → Bool
  | .ttlTooLong .. => true
  | _ => false

/-- Counts one more for a key, with a time to live. -/
def incrementFor (counter : Counter) (key : String) (ttl : Option Duration) (now : Instant)
    (ledger : Ledger) : Served Nat :=
  match counter with
  | inProcess id _ =>
    match checkTtl ttl with
    | .error failure => ⟨.error failure, ledger, []⟩
    | .ok () =>
      let (value, changed) := (ledger.localCounter id).increment key ttl now
      ⟨.ok value, ledger.setLocal id changed, []⟩
  | shared name start _ =>
    match checkTtl ttl with
    | .error failure => ⟨.error failure, ledger, []⟩
    | .ok () =>
      served ledger name nonNegative ((ledger.store name).increment (start ++ key) ttl now)
  | hybrid near far route fallsBack =>
    if route.isShared key then
      orElse key "increment" far fallsBack isTtlFailure (far.incrementFor key ttl now ledger)
        (near.incrementFor key ttl now)
    else near.incrementFor key ttl now ledger
  | plain inner => inner.incrementFor key ttl now ledger

/-- Counts one more for a key, with the default time to live of the side that serves it. -/
def increment (counter : Counter) (key : String) (now : Instant) (ledger : Ledger) : Served Nat :=
  match counter with
  | hybrid near far route fallsBack =>
    if route.isShared key then
      orElse key "increment" far fallsBack isTtlFailure (far.increment key now ledger)
        (near.increment key now)
    else near.increment key now ledger
  | counter => counter.incrementFor key counter.defaultTtl now ledger

/-- The count of a key, zero if none holds. -/
def count (counter : Counter) (key : String) (now : Instant) (ledger : Ledger) : Served Nat :=
  match counter with
  | inProcess id _ => ⟨.ok ((ledger.localCounter id).count key now), ledger, []⟩
  | shared name start _ =>
    served ledger name (fun value => (value.map nonNegative).getD 0)
      ((ledger.store name).get (start ++ key) now)
  | hybrid near far route fallsBack =>
    if route.isShared key then
      orElse key "get" far fallsBack (fun _ => false) (far.count key now ledger)
        (near.count key now)
    else near.count key now ledger
  | plain inner => inner.count key now ledger

/-- Removes the count of a key; a hybrid counter removes it on both sides. -/
def reset (counter : Counter) (key : String) (now : Instant) (ledger : Ledger) : Served Unit :=
  match counter with
  | inProcess id _ => ⟨.ok (), ledger.setLocal id ((ledger.localCounter id).reset key), []⟩
  | shared name start _ => served ledger name id ((ledger.store name).delete (start ++ key))
  | hybrid near far _ fallsBack =>
    let first := near.reset key now ledger
    let second := far.reset key now first.ledger
    let fallbacks := first.fallbacks ++ second.fallbacks
    match second.answer with
    | .ok () => { second with answer := first.answer, fallbacks }
    | .error failure =>
      if fallsBack then
        { second with
          answer := first.answer
          fallbacks := fallbacks ++ [⟨key, "reset", far.backend, failure⟩] }
      else { second with fallbacks }
  | plain inner => inner.reset key now ledger

/-- Whether a count of the key holds; a hybrid counter looks on both sides. -/
def contains (counter : Counter) (key : String) (now : Instant) (ledger : Ledger) : Served Bool :=
  match counter with
  | inProcess id _ => ⟨.ok ((ledger.localCounter id).contains key now), ledger, []⟩
  | shared name start _ => served ledger name id ((ledger.store name).contains (start ++ key) now)
  | hybrid near far _ fallsBack =>
    let first := near.contains key now ledger
    match first.answer with
    | .ok false =>
      let second := far.contains key now first.ledger
      let fallbacks := first.fallbacks ++ second.fallbacks
      match second.answer with
      | .ok found => { second with answer := .ok found, fallbacks }
      | .error failure =>
        if fallsBack then
          { second with
            answer := .ok false
            fallbacks := fallbacks ++ [⟨key, "exists", far.backend, failure⟩] }
        else { second with fallbacks }
    -- found in the process, or failed there: the far side is not asked
    | _ => first
  | plain inner => inner.contains key now ledger

/-- Stops what runs in the background for a counter. -/
def close (counter : Counter) (ledger : Ledger) : Served Unit :=
  match counter with
  | inProcess id _ => ⟨.ok (), ledger.setLocal id (ledger.localCounter id).close, []⟩
  | shared .. | plain _ => ⟨.ok (), ledger, []⟩
  | hybrid near far _ _ =>
    let first := near.close ledger
    let second := far.close first.ledger
    { second with
      answer := first.answer.bind fun _ => second.answer
      fallbacks := first.fallbacks ++ second.fallbacks }

end Counter

end Resilience
