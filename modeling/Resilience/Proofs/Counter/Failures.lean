import Resilience.Proofs.Counter.Live
import Resilience.Proofs.Counter.Sides

/-!
# How a hybrid counter fails

Two things can go wrong while a hybrid counter is asked for something: a time to live is too long,
or the store is away. If the counter falls back, then only the first of them is ever told to those
who ask, and only if they count. If it does not, they are told of the second as well, in the words
of the store, and no fallback is reported.

A failure on one side may come after a request has been tried on the other one. Nevertheless,
nothing is counted by halves: whoever is told of a failure finds all counts as they were. Only a
reset does not wait for the store. It always removes what is kept in the process, and what is kept
in the store if and only if the store is available.

The two sides may have any times to live here, and anything may be kept on them.

## Main definitions

* `Hybrid`, `Hybrid.counter` — a hybrid counter over a counter in the process and a store
* `HybridRequest`, `Hybrid.perform` — what is asked of it, and how that ends
* `Hybrid.asksStore` — whether a request reaches the store
* `Hybrid.Ends` — what the store, the audit and the caller learn of a request

## Main statements

* `Hybrid.ends` — how every request ends
* `Hybrid.same_of_error` — a failure leaves all counts as they were
* `Hybrid.fails_cleanly` — which failures there are, and what they leave
-/

namespace Resilience

/-- A hybrid counter whose sides have default times to live, and which falls back or does not. -/
structure Hybrid extends Sides where
  nearTtl : Option Duration
  farTtl : Option Duration
  fallsBack : Bool

/-- What is asked of a hybrid counter. -/
inductive HybridRequest where
  | increment (key : String)
  | incrementFor (key : String) (ttl : Option Duration)
  | count (key : String)
  | contains (key : String)
  | reset (key : String)
  | close
  deriving DecidableEq

namespace HybridRequest

/-- Whether a request counts one more. -/
def isIncrement : HybridRequest → Bool
  | increment _ | incrementFor .. => true
  | count _ | contains _ | reset _ | close => false

/-- The key that a fallback reports. -/
def key : HybridRequest → String
  | increment key | incrementFor key _ | count key | contains key | reset key => key
  | close => ""

/-- The operation that a fallback reports. -/
def operation : HybridRequest → String
  | increment _ | incrementFor .. => "increment"
  | count _ => "get"
  | contains _ => "exists"
  | reset _ => "reset"
  | close => "close"

end HybridRequest

/-- How a request ends, whatever its answer tells. -/
def Served.outcome {α : Type} (served : Served α) : Served Unit :=
  ⟨served.answer.map fun _ => (), served.ledger, served.fallbacks⟩

/-- A time to live that is too long has been refused. -/
def Failure.IsRefusal (failure : Failure) : Prop :=
  ∃ lasts, greatestTtl < lasts ∧ failure = .ttlTooLong lasts greatestTtl

namespace Hybrid

variable (hybrid : Hybrid)

def near : Counter := .inProcess hybrid.id ⟨hybrid.nearTtl, hybrid.sweepInterval⟩

def far : Counter := .shared hybrid.store hybrid.start hybrid.farTtl

def counter : Counter := .hybrid hybrid.near hybrid.far hybrid.route hybrid.fallsBack

/-- How a request ends. -/
def perform (now : Instant) (ledger : Ledger) : HybridRequest → Served Unit
  | .increment key => (hybrid.counter.increment key now ledger).outcome
  | .incrementFor key ttl => (hybrid.counter.incrementFor key ttl now ledger).outcome
  | .count key => (hybrid.counter.count key now ledger).outcome
  | .contains key => (hybrid.counter.contains key now ledger).outcome
  | .reset key => (hybrid.counter.reset key now ledger).outcome
  | .close => (hybrid.counter.close ledger).outcome

/-- Whether a request reaches the store. A time to live that is too long is refused before. -/
def asksStore (now : Instant) (ledger : Ledger) : HybridRequest → Bool
  | .increment key => hybrid.route.isShared key && isAccepted hybrid.farTtl
  | .incrementFor key ttl => hybrid.route.isShared key && isAccepted ttl
  | .count key => hybrid.route.isShared key
  | .contains key => !(ledger.localCounter hybrid.id).contains key now
  | .reset _ => true
  | .close => false

/-- An increment whose times to live on the two sides are given. -/
def raise (key : String) (there here : Option Duration) (now : Instant) (ledger : Ledger) :
    Served Nat :=
  if hybrid.route.isShared key then
    Counter.orElse key "increment" hybrid.far hybrid.fallsBack Counter.isTtlFailure
      (hybrid.far.incrementFor key there now ledger) (hybrid.near.incrementFor key here now)
  else hybrid.near.incrementFor key here now ledger

/-- What becomes known of a request, besides its answer. The store counts those that reach it. If
they reach it in vain, then either a fallback is reported or the caller is told. Nothing else fails
but an increment with a time to live that is too long. -/
structure Ends {α : Type} (key operation : String) (asks counts : Bool) (before : Ledger)
    (served : Served α) : Prop where
  requests : (served.ledger.store hybrid.store).requests =
    (before.store hybrid.store).requests + if asks then 1 else 0
  fallbacks : served.fallbacks =
    if asks && !before.isAvailable hybrid.store && hybrid.fallsBack then
      [⟨key, operation, CounterStore.backend, CounterStore.outage⟩]
    else []
  missed : asks = true → before.isAvailable hybrid.store = false → hybrid.fallsBack = false →
    served.answer = .error CounterStore.outage
  refused : ∀ failure, served.answer = .error failure →
    counts = true ∧ failure.IsRefusal ∨
      failure = CounterStore.outage ∧ asks = true ∧ before.isAvailable hybrid.store = false ∧
        hybrid.fallsBack = false

/-- A request that the process answers: the store hears nothing of it. -/
structure Inside {α : Type} (counts : Bool) (before : Ledger) (served : Served α) : Prop where
  stores : served.ledger.stores = before.stores
  fallbacks : served.fallbacks = []
  refused : ∀ failure, served.answer = .error failure → counts = true ∧ failure.IsRefusal

variable {hybrid} {α : Type} {key operation : String} {asks counts : Bool} {now : Instant}
  {ledger before : Ledger} {served : Served α} {ttl : Option Duration}

/-! ### Refusals -/

theorem isRefusal_of_checkTtl {failure : Failure} (checked : checkTtl ttl = .error failure) :
    failure.IsRefusal := by
  cases ttl with
  | none => cases checked
  | some lasts =>
    rw [checkTtl] at checked
    split at checked
    · exact ⟨lasts, ‹_›, (Except.error.inj checked).symm⟩
    · cases checked

/-- An outage is not about a time to live. -/
theorem not_isRefusal_outage : ¬ CounterStore.outage.IsRefusal := by
  rintro ⟨lasts, -, same⟩
  cases same

/-! ### Requests that one side answers -/

theorem Ends.outcome (ends : hybrid.Ends key operation asks counts before served) :
    hybrid.Ends key operation asks counts before served.outcome where
  requests := ends.requests
  fallbacks := ends.fallbacks
  missed asked closed stays := by rw [Served.outcome, ends.missed asked closed stays]; rfl
  refused failure failed := by
    cases answer : served.answer with
    | ok found =>
      rw [Served.outcome, answer] at failed
      cases failed
    | error same =>
      rw [Served.outcome, answer] at failed
      injection failed with same
      rw [← same]
      exact ends.refused _ answer

theorem Inside.ends (inside : Inside counts before served) :
    hybrid.Ends key operation false counts before served where
  requests := by rw [Ledger.store, inside.stores]; rfl
  fallbacks := inside.fallbacks
  missed asked := nomatch asked
  refused failure failed := .inl (inside.refused failure failed)

/-- A request that the process answers is not refused. -/
theorem inside_of_ok {found : α} (stores : served.ledger.stores = before.stores)
    (fallbacks : served.fallbacks = []) (answer : served.answer = .ok found) :
    Inside counts before served where
  stores := stores
  fallbacks := fallbacks
  refused failure failed := by cases answer.symm.trans failed

/-- A request whose time to live is refused reaches neither side. -/
theorem inside_of_checkTtl {failure : Failure} (checked : checkTtl ttl = .error failure) :
    Inside true before (⟨.error failure, before, []⟩ : Served α) where
  stores := rfl
  fallbacks := rfl
  refused other failed := by
    cases failed
    exact ⟨rfl, isRefusal_of_checkTtl checked⟩

theorem inside_incrementFor (key : String) (ttl : Option Duration) (now : Instant)
    (ledger : Ledger) : Inside true ledger (hybrid.near.incrementFor key ttl now ledger) := by
  rw [near, Counter.incrementFor]
  cases checked : checkTtl ttl with
  | error failure => exact inside_of_checkTtl checked
  | ok _ => exact inside_of_ok rfl rfl rfl

/-- A request that has been tried at the store. An answer is handed on. A failure is either
recovered in the process, which is reported, or it is handed on as well. -/
theorem ends_of_heard {β : Type} {found : α} {first : Served α} {served : Served β}
    (heard : hybrid.Heard before found first)
    (store : served.ledger.store hybrid.store = first.ledger.store hybrid.store)
    (answered : first.answer = .ok found →
      served.fallbacks = first.fallbacks ∧ ∃ told, served.answer = .ok told)
    (recovered : first.answer = .error CounterStore.outage → hybrid.fallsBack = true →
      served.fallbacks =
          first.fallbacks ++ [⟨key, operation, CounterStore.backend, CounterStore.outage⟩] ∧
        ∀ failure, served.answer = .error failure → counts = true ∧ failure.IsRefusal)
    (handed : first.answer = .error CounterStore.outage → hybrid.fallsBack = false →
      served.fallbacks = first.fallbacks ∧ served.answer = .error CounterStore.outage) :
    hybrid.Ends key operation true counts before served := by
  obtain ⟨answer, requests, silent⟩ := heard
  rw [← store] at requests
  -- whether the store is within reach decides what was heard of it
  cases reaches : (before.store hybrid.store).available with
  | true =>
    have isOpen : before.isAvailable hybrid.store = true := reaches
    rw [reaches, if_pos rfl] at answer
    obtain ⟨fallbacks, told, tells⟩ := answered answer
    refine ⟨requests, ?_, fun _ closed => ?_, fun failure failed => ?_⟩
    · rw [fallbacks, silent, isOpen]
      rfl
    · cases isOpen.symm.trans closed
    · cases tells.symm.trans failed
  | false =>
    have closed : before.isAvailable hybrid.store = false := reaches
    rw [reaches, if_neg Bool.false_ne_true] at answer
    cases falls : hybrid.fallsBack with
    | true =>
      obtain ⟨fallbacks, refused⟩ := recovered answer falls
      refine ⟨requests, ?_, fun _ _ stays => ?_, fun failure failed => .inl (refused _ failed)⟩
      · rw [fallbacks, silent, closed, falls]
        rfl
      · cases falls.symm.trans stays
    | false =>
      obtain ⟨fallbacks, fails⟩ := handed answer falls
      refine ⟨requests, ?_, fun _ _ _ => fails, fun failure failed => .inr ⟨?_, rfl, closed, falls⟩⟩
      · rw [fallbacks, silent, falls, Bool.and_false]
        rfl
      · exact (Except.error.inj (fails.symm.trans failed)).symm

/-- The far side is tried, and the near side after a failure that may fall back. -/
theorem ends_orElse {found : α} {first : Served α} {second : Ledger → Served α}
    (heard : hybrid.Heard before found first) (final : Failure → Bool)
    (survives : final CounterStore.outage = false)
    (inside : Inside counts first.ledger (second first.ledger)) :
    hybrid.Ends key operation true counts before
      (Counter.orElse key operation hybrid.far hybrid.fallsBack final first second) := by
  have stays (answer : first.answer = .ok found) :
      Counter.orElse key operation hybrid.far hybrid.fallsBack final first second = first := by
    simp only [Counter.orElse, answer]
  -- of the failures only the outage is heard here, and it does not stop the fallback
  have recovers (answer : first.answer = .error CounterStore.outage) :
      Counter.orElse key operation hybrid.far hybrid.fallsBack final first second =
        if hybrid.fallsBack then
          { second first.ledger with
            fallbacks := first.fallbacks ++
              ⟨key, operation, hybrid.far.backend, CounterStore.outage⟩ ::
                (second first.ledger).fallbacks }
        else first := by
    simp only [Counter.orElse, answer, survives, Bool.false_or]
    cases hybrid.fallsBack <;> rfl
  refine ends_of_heard heard ?_ (fun answer => ?_) (fun answer falls => ?_) fun answer falls => ?_
  · rw [Counter.orElse]
    split
    · rfl
    · split
      · rfl
      · rw [Ledger.store, inside.stores, Ledger.store]
  · rw [stays answer]
    exact ⟨rfl, found, answer⟩
  · rw [recovers answer, if_pos falls]
    exact ⟨by rw [inside.fallbacks]; rfl, inside.refused⟩
  · rw [recovers answer, falls, if_neg Bool.false_ne_true]
    exact ⟨rfl, answer⟩

/-! ### Every request -/

theorem heard_incrementFor (hybrid : Hybrid) (accepted : isAccepted ttl = true) (key : String)
    (now : Instant) (ledger : Ledger) :
    ∃ found, hybrid.Heard ledger found (hybrid.far.incrementFor key ttl now ledger) := by
  rw [far, Counter.incrementFor, checkTtl_of_isAccepted accepted]
  exact ⟨_, Sides.heard_served ledger _ _ (fun _ => rfl) _ fun store same => by
    dsimp only
    rw [CounterStore.live?_congr same]⟩

theorem heard_count (hybrid : Hybrid) (key : String) (now : Instant) (ledger : Ledger) :
    ∃ found, hybrid.Heard ledger found (hybrid.far.count key now ledger) :=
  ⟨_, Sides.heard_served ledger _ _ (fun _ => rfl) _ fun store same => by
    dsimp only
    rw [CounterStore.live?_congr same]⟩

theorem heard_contains (hybrid : Hybrid) (key : String) (now : Instant) (ledger : Ledger) :
    ∃ found, hybrid.Heard ledger found (hybrid.far.contains key now ledger) :=
  ⟨_, Sides.heard_served ledger _ _ (fun _ => rfl) _ fun store same => by
    dsimp only
    rw [CounterStore.live?_congr same]⟩

theorem heard_reset (hybrid : Hybrid) (key : String) (now : Instant) (ledger : Ledger) :
    hybrid.Heard ledger () (hybrid.far.reset key now ledger) :=
  Sides.heard_served ledger _ _ (fun _ => rfl) _ fun _ _ => rfl

theorem ends_raise (hybrid : Hybrid) (key : String) (there here : Option Duration) (now : Instant)
    (ledger : Ledger) :
    hybrid.Ends key "increment" (hybrid.route.isShared key && isAccepted there) true ledger
      (hybrid.raise key there here now ledger) := by
  rw [raise]
  cases hybrid.route.isShared key with
  | false => exact (inside_incrementFor key here now ledger).ends
  | true =>
    rw [if_pos rfl, Bool.true_and]
    cases accepted : isAccepted there with
    | true =>
      obtain ⟨found, heard⟩ := hybrid.heard_incrementFor accepted key now ledger
      exact ends_orElse heard _ rfl (inside_incrementFor key here now _)
    | false =>
      -- the near side is not tried with a time to live that no side would accept
      obtain ⟨failure, checked⟩ := checkTtl_of_not_isAccepted (Bool.eq_false_iff.1 accepted)
      obtain ⟨lasts, long, rfl⟩ := isRefusal_of_checkTtl checked
      have refused : hybrid.far.incrementFor key there now ledger =
          ⟨.error (.ttlTooLong lasts greatestTtl), ledger, []⟩ := by
        rw [far, Counter.incrementFor, checked]
      rw [refused, Counter.orElse]
      exact (inside_of_checkTtl checked).ends

theorem ends_contains (hybrid : Hybrid) (key : String) (now : Instant) (ledger : Ledger) :
    hybrid.Ends key "exists" (!(ledger.localCounter hybrid.id).contains key now) false ledger
      (hybrid.counter.contains key now ledger) := by
  rw [counter, Counter.contains]
  have near : hybrid.near.contains key now ledger =
    ⟨.ok ((ledger.localCounter hybrid.id).contains key now), ledger, []⟩ := rfl
  rw [near]
  -- a count in the process is found without asking the store
  cases (ledger.localCounter hybrid.id).contains key now with
  | true =>
    have inside : Inside false ledger (⟨.ok true, ledger, []⟩ : Served Bool) :=
      inside_of_ok rfl rfl rfl
    exact inside.ends
  | false =>
    obtain ⟨found, heard⟩ := hybrid.heard_contains key now ledger
    refine ends_of_heard heard ?_ (fun answer => ?_) (fun answer falls => ?_) fun answer falls => ?_
    · dsimp only
      split
      · rfl
      · split <;> rfl
    · simp only [answer, List.nil_append]
      exact ⟨trivial, found, rfl⟩
    · simp only [answer, falls, if_true, List.nil_append]
      exact ⟨rfl, fun _ failed => by cases failed⟩
    · simp only [answer, falls, List.nil_append]
      exact ⟨rfl, rfl⟩

theorem ends_reset (hybrid : Hybrid) (key : String) (now : Instant) (ledger : Ledger) :
    hybrid.Ends key "reset" true false ledger (hybrid.counter.reset key now ledger) := by
  -- the counts in the process are reset first, which the store does not notice
  have heard : hybrid.Heard ledger ()
      (hybrid.far.reset key now (hybrid.near.reset key now ledger).ledger) := by
    obtain ⟨answer, requests, fallbacks⟩ :=
      hybrid.heard_reset key now (hybrid.near.reset key now ledger).ledger
    exact ⟨answer, requests, fallbacks⟩
  refine ends_of_heard heard ?_ (fun answer => ?_) (fun answer falls => ?_) fun answer falls => ?_
  · rw [counter, Counter.reset_hybrid]
  · simp only [counter, Counter.reset, answer]
    exact ⟨rfl, (), rfl⟩
  · simp only [counter, Counter.reset, answer, falls, if_true]
    exact ⟨rfl, fun _ failed => by cases failed⟩
  · simp only [counter, Counter.reset, answer, falls]
    exact ⟨rfl, rfl⟩

/-- How every request ends. -/
theorem ends (hybrid : Hybrid) (now : Instant) (ledger : Ledger) (request : HybridRequest) :
    hybrid.Ends request.key request.operation (hybrid.asksStore now ledger request)
      request.isIncrement ledger (hybrid.perform now ledger request) := by
  cases request with
  | increment key => exact (hybrid.ends_raise key hybrid.farTtl hybrid.nearTtl now ledger).outcome
  | incrementFor key ttl => exact (hybrid.ends_raise key ttl ttl now ledger).outcome
  | count key =>
    refine Ends.outcome ?_
    rw [counter, Counter.count, asksStore]
    have inside (between : Ledger) :
      Inside false between (hybrid.near.count key now between) := inside_of_ok rfl rfl rfl
    cases hybrid.route.isShared key with
    | false => exact (inside ledger).ends
    | true =>
      obtain ⟨found, heard⟩ := hybrid.heard_count key now ledger
      exact ends_orElse heard _ rfl (inside _)
  | contains key => exact (hybrid.ends_contains key now ledger).outcome
  | reset key => exact (hybrid.ends_reset key now ledger).outcome
  | close =>
    have inside : Inside false ledger (hybrid.counter.close ledger) := inside_of_ok rfl rfl rfl
    exact inside.ends.outcome

/-! ### What a failure leaves -/

/-- An increment that fails has counted nothing. -/
theorem differs_of_raised {found : Except Failure (Place × Option Duration)} {served : Served Nat}
    (raised : Counter.Raised found now ledger served) {failure : Failure}
    (failed : served.outcome.answer = .error failure) :
    Ledger.Differs none ledger served.ledger := by
  cases found with
  | error failure => exact raised.differs
  | ok found =>
    rw [Served.outcome, raised.answer] at failed
    cases failed

/-- A request that fails has changed no count, unless it is a reset. -/
theorem same_of_error {request : HybridRequest} {failure : Failure}
    (failed : (hybrid.perform now ledger request).answer = .error failure)
    (keeps : ∀ key, request ≠ .reset key) :
    Ledger.Differs none ledger (hybrid.perform now ledger request).ledger := by
  -- an increment that fails has written nothing, and the others only read
  cases request with
  | increment key =>
    exact differs_of_raised (Counter.increment_raised hybrid.counter key ledger) failed
  | incrementFor key ttl =>
    exact differs_of_raised (Counter.incrementFor_raised hybrid.counter key ttl ledger) failed
  | count key =>
    have read : Ledger.Differs none ledger (hybrid.far.count key now ledger).ledger :=
      Counter.differs_served ledger hybrid.store _ _ fun _ => rfl
    simp only [perform, Served.outcome, counter, Counter.count]
    split
    · rw [Counter.ledger_orElse _ _ _ _ _ _ fun _ => rfl]
      exact read
    · exact .refl none ledger
  | contains key =>
    have read : Ledger.Differs none ledger (hybrid.far.contains key now ledger).ledger :=
      Counter.differs_served ledger hybrid.store _ _ fun _ => rfl
    simp only [perform, Served.outcome, counter, Counter.contains]
    split
    · split
      · exact read
      · split <;> exact read
    · exact .refl none ledger
  | reset key => exact absurd rfl (keeps key)
  | close => cases failed

/-- What a reset leaves: nothing in the process, in the store what it could not reach, and all else
as it was. -/
theorem after_reset (hybrid : Hybrid) (key : String) (now : Instant) (ledger : Ledger) :
    let after := (hybrid.perform now ledger (.reset key)).ledger
    (hybrid.nearPlace key).find? after = none ∧
      (hybrid.farPlace key).find? after =
        (if ledger.isAvailable hybrid.store then none else (hybrid.farPlace key).find? ledger) ∧
      after.isAvailable = ledger.isAvailable ∧
      ∀ place, place ≠ hybrid.nearPlace key → place ≠ hybrid.farPlace key →
        place.find? after = place.find? ledger := by
  intro after
  obtain ⟨available, others, emptied⟩ := Counter.reset_effect hybrid.counter key now ledger
  have used : hybrid.counter.places key = [hybrid.nearPlace key, hybrid.farPlace key] := rfl
  rw [used] at others emptied
  refine ⟨emptied _ (by simp) rfl, ?_, available, fun place notNear notFar => others place ?_⟩
  · cases reaches : ledger.isAvailable hybrid.store with
    | true => exact emptied (hybrid.farPlace key) (by simp) reaches
    | false =>
      have direct : hybrid.far.isDirect = true := rfl
      have missed : (hybrid.far.home key).1.isOpen
          (hybrid.near.reset key now ledger).ledger.isAvailable = false := reaches
      have kept := Counter.find?_reset_of_not_isOpen direct missed now
      rw [← Counter.reset_hybrid hybrid.near hybrid.far hybrid.route hybrid.fallsBack] at kept
      exact kept
  · rw [List.mem_pair]
    exact not_or.2 ⟨notNear, notFar⟩

/-- Whatever is asked of a hybrid counter, in whatever state its two sides are: if it falls back,
then it fails only for an increment whose time to live is too long. If it does not, it reports no
fallback, and it fails as its store does if and only if the store has been asked in vain. A failure
leaves every count as it was, and which stores are available, unless it is the failure of a reset. A
reset always removes the count in the process; it removes the count in the store if and only if the
store is available, and nothing else. -/
theorem fails_cleanly (hybrid : Hybrid) (now : Instant) (before : Ledger)
    (request : HybridRequest) :
    let ended := hybrid.perform now before request
    let asked := (ended.ledger.store hybrid.store).requests ≠ (before.store hybrid.store).requests
    let isOpen := before.isAvailable hybrid.store
    (hybrid.fallsBack = true → ∀ failure, ended.answer = .error failure →
        request.isIncrement = true ∧
          ∃ lasts, greatestTtl < lasts ∧ failure = .ttlTooLong lasts greatestTtl) ∧
      (hybrid.fallsBack = false → ended.fallbacks = [] ∧
        (ended.answer = .error CounterStore.outage ↔ asked ∧ isOpen = false)) ∧
      (∀ failure, ended.answer = .error failure → (∀ key, request ≠ .reset key) →
        ended.ledger.isAvailable = before.isAvailable ∧
          ∀ place : Place, place.find? ended.ledger = place.find? before) ∧
      ∀ key, request = .reset key →
        (hybrid.nearPlace key).find? ended.ledger = none ∧
          (hybrid.farPlace key).find? ended.ledger =
            (if isOpen then none else (hybrid.farPlace key).find? before) ∧
          ended.ledger.isAvailable = before.isAvailable ∧
          ∀ place, place ≠ hybrid.nearPlace key → place ≠ hybrid.farPlace key →
            place.find? ended.ledger = place.find? before := by
  intro ended asked isOpen
  have ends := hybrid.ends now before request
  -- the store counts what it is asked, whether it answers or not
  have asked_iff : asked ↔ hybrid.asksStore now before request = true := by
    have requests := ends.requests
    cases reached : hybrid.asksStore now before request <;> rw [reached] at requests <;>
      simp [asked, ended, requests]
  refine ⟨fun falls failure failed => ?_, fun stays => ⟨?_, ?_, ?_⟩, fun failure failed keeps => ?_,
    ?_⟩
  · rcases ends.refused failure failed with refused | ⟨-, -, -, stays⟩
    · exact refused
    · cases falls.symm.trans stays
  · have fallbacks := ends.fallbacks
    rw [stays, Bool.and_false] at fallbacks
    exact fallbacks
  · intro failed
    rcases ends.refused _ failed with ⟨-, refused⟩ | ⟨-, reached, closed, -⟩
    · exact absurd refused not_isRefusal_outage
    · exact ⟨asked_iff.2 reached, closed⟩
  · rintro ⟨met, closed⟩
    exact ends.missed (asked_iff.1 met) closed stays
  · have same := same_of_error failed keeps
    exact ⟨same.available, fun place => same.find? place nofun⟩
  · rintro key rfl
    exact hybrid.after_reset key now before

/-- A count in the store, which is away and where a counter does not fall back: an increment is told
of the outage and leaves the count, and so does a reset. -/
theorem fails_cleanly_away :
    let hybrid : Hybrid :=
      ⟨⟨"counts", .ofSeconds 60, "store", "retry:", .allShared⟩, none, none, false⟩
    let store : CounterStore := ({} : CounterStore).put "retry:key" 1
    let before : Ledger := ({} : Ledger).setStore "store" (store.setAvailable false)
    let raised := hybrid.perform 2 before (.increment "key")
    let removed := hybrid.perform 2 before (.reset "key")
    raised.answer = .error CounterStore.outage ∧ raised.fallbacks = [] ∧
      (∀ place : Place, place.find? raised.ledger = place.find? before) ∧
      removed.answer = .error CounterStore.outage ∧
      (hybrid.nearPlace "key").find? removed.ledger = none ∧
      (hybrid.farPlace "key").find? removed.ledger = some (1, none) := by
  intro hybrid store before raised removed
  obtain ⟨-, tells, leaves, -⟩ := hybrid.fails_cleanly 2 before (.increment "key")
  obtain ⟨-, tellsReset, -, removes⟩ := hybrid.fails_cleanly 2 before (.reset "key")
  have failed : raised.answer = .error CounterStore.outage := (tells rfl).2.2 ⟨by decide, rfl⟩
  have failedReset : removed.answer = .error CounterStore.outage :=
    (tellsReset rfl).2.2 ⟨by decide, rfl⟩
  obtain ⟨near, far, -⟩ := removes "key" rfl
  exact ⟨failed, (tells rfl).1, (leaves _ failed nofun).2, failedReset, near, far⟩

end Hybrid

end Resilience
