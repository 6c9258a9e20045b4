import Resilience.Breaker.Basic
import Resilience.EventLoop.Reactor

/-!
# Calls guarded by a breaker

A guarded call first asks for admission. An admitted call runs until it ends or its time is over,
and its result is reported to the breaker; a call that ends exactly when its time is over counts as
ended. Any number of guarded calls can be under way at once.

## Main definitions

* `GuardedCall` — what a call takes and what it comes to
* `GuardedCall.course` — when a call ends under a time limit, and how
* `Guard` — a breaker with the history of its calls and transitions
* `Guard.begin`, `Guard.finish` — the two ends of a call
* `Guard.reactor` — calls as tasks of a loop
-/

namespace Resilience

/-- What a call takes and what it comes to. -/
structure GuardedCall (α : Type) where
  latency : Duration
  outcome : Except Fault α

/-- How an admitted call ends. -/
inductive GuardedEnd (α : Type) where
  | returned (outcome : Except Fault α)
  | timedOut

/-- The time an admitted call takes under a time limit, and how it ends. -/
def GuardedCall.course {α : Type} (call : GuardedCall α) (limit : Duration) :
    Duration × GuardedEnd α :=
  if call.latency.waitMillis ≤ limit.waitMillis then (call.latency, .returned call.outcome)
  else (limit, .timedOut)

/-- What happened to a call. -/
inductive GuardedNote (α : Type) where
  | denied (call : Nat) (time : Nat) (denial : Denial)
  | admitted (call : Nat) (time : Nat)
  | ended (call : Nat) (time : Nat) (result : Except Failure α)

/-- A breaker with the history of its calls and transitions. -/
structure Guard (α : Type) where
  breaker : Breaker
  history : List (GuardedNote α) := []
  transitions : List Transition := []

/-- A guarded call as a task. -/
inductive GuardedTask (α : Type) where
  | begin (id : Nat) (call : GuardedCall α)
  | finish (id : Nat) (ending : GuardedEnd α)

namespace Guard

variable {α : Type}

/-- Applies an operation on the breaker. -/
def apply (guard : Guard α) (change : Breaker.Change) : Guard α :=
  { guard with
    breaker := change.breaker
    transitions := guard.transitions ++ change.transition.toList }

def note (guard : Guard α) (entry : GuardedNote α) : Guard α :=
  { guard with history := guard.history ++ [entry] }

/-- Reports the end of a call to the breaker, with the caller's result. -/
def conclude (breaker : Breaker) (ending : GuardedEnd α) (now : Instant) :
    Except Failure α × Breaker.Change :=
  match ending with
  | .returned (.ok value) => (.ok value, breaker.recordSuccess now)
  | .returned (.error fault) =>
    (.error (.exhausted breaker.name 1 fault), breaker.recordFault fault now)
  | .timedOut =>
    (.error (.timedOut breaker.name breaker.config.callTimeout), breaker.recordTimeout now)

/-- Ends a call. -/
def finish (id : Nat) (ending : GuardedEnd α) (run : Run (Guard α) (GuardedTask α)) :
    Run (Guard α) (GuardedTask α) :=
  let (result, change) := conclude run.state.breaker ending run.loop.instant
  run.mapState fun guard => (guard.apply change).note (.ended id run.loop.now result)

/-- Begins a call, and ends it at once if it takes no time. -/
def begin (id : Nat) (call : GuardedCall α)
    (run : Run (Guard α) (GuardedTask α)) : Run (Guard α) (GuardedTask α) :=
  let (answer, change) := run.state.breaker.acquire run.loop.instant
  let run := run.mapState (·.apply change)
  match answer with
  | .error denial => run.mapState (·.note (.denied id run.loop.now denial))
  | .ok () =>
    let run := run.mapState (·.note (.admitted id run.loop.now))
    let (wait, ending) := call.course run.state.breaker.config.callTimeout
    if wait = .zero then finish id ending run
    else run.mapLoop (·.sleep wait { body := .finish id ending })

/-- Guarded calls as tasks of a loop. -/
def reactor : Reactor (Guard α) (GuardedTask α) where
  perform task :=
    match task.body with
    | .begin id call => begin id call
    | .finish id ending => finish id ending

/-- The result of a call, once it has one. -/
def result? (guard : Guard α) (id : Nat) : Option (Except Failure α) :=
  guard.history.findSome? fun
    | .denied call _ denial =>
      if call = id then some (.error (guard.breaker.denied denial)) else none
    | .ended call _ result => if call = id then some result else none
    | .admitted .. => none

/-- Makes a call and waits for its result; other calls go on meanwhile. -/
def call (turns id : Nat) (guarded : GuardedCall α) (run : Run (Guard α) (GuardedTask α)) :
    Run (Guard α) (GuardedTask α) :=
  reactor.runUntil (fun run => (run.state.result? id).isSome) turns (begin id guarded run)

end Guard

end Resilience
