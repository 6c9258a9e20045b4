import Resilience.Proofs.Counter.Histories
import Resilience.Proofs.Counter.Home

/-!
# The two sides of a hybrid counter

A hybrid counter that falls back sends the keys of its route to a store and keeps the others in the
process. While the store is away it keeps all keys in the process, so that the increments of one key
can lie on both sides. What has been counted on each side is told by the history: a side has the
increments that it served since the last reset that it heard of, and the store hears of a reset only
while it is available. No increment is lost by this and none is counted twice, but only one side is
seen at a time.

Times to live play no part here: neither side has one.

## Main definitions

* `Sides`, `Sides.counter` — a hybrid counter over a counter in the process and a store
* `SideRequest`, `Sides.after` — what is asked of it, and what becomes of the ledger
* `isOpenAfter`, `Sides.nearCount`, `Sides.farCount` — the store and the two counts of a key, told
  by the history
* `Sides.Answers`, `Sides.Serves` — requests that are answered, and the fallbacks they report
* `Sides.Shows` — a ledger with some counts of all keys on both sides

## Main statements

* `Sides.Shows.perform` — a request keeps both sides in step with the history
* `Sides.nearCount_add_farCount_le` — an increment is counted on one side only
* `Sides.serves_after` — what a hybrid counter answers
-/

namespace Resilience

/-- A hybrid counter that falls back, over a counter in the process and a store. -/
structure Sides where
  /-- The name of the counts in the process. -/
  id : String
  sweepInterval : Duration
  /-- The name of the store. -/
  store : String
  /-- The text before every key in the store. -/
  start : String
  route : KeyRoute

/-- What is asked of a hybrid counter, or happens to its store. -/
inductive SideRequest where
  | increment (key : String)
  | count (key : String)
  | contains (key : String)
  | reset (key : String)
  /-- The store goes away or comes back. -/
  | setAvailable (available : Bool)
  /-- Time passes, and nothing is asked. -/
  | wait

/-- Whether a store is available after a history, the latest request first. -/
def isOpenAfter (initially : Bool) : List (Timed SideRequest) → Bool
  | [] => initially
  | ⟨_, .setAvailable available⟩ :: _ => available
  | _ :: earlier => isOpenAfter initially earlier

/-- What is kept for a count without expiry, up to a greatest value. -/
def keptCount (greatest : Int) (count : Nat) : Option (Int × Option Instant) :=
  if count = 0 then none else some (min count greatest, none)

namespace Sides

variable (sides : Sides)

def near : Counter := .inProcess sides.id ⟨none, sides.sweepInterval⟩

def far : Counter := .shared sides.store sides.start none

def counter : Counter := .hybrid sides.near sides.far sides.route true

/-- Where a key is kept in the process. -/
def nearPlace (key : String) : Place := .inProcess sides.id key

/-- Where a key is kept in the store. -/
def farPlace (key : String) : Place := .inStore sides.store (sides.start ++ key)

/-- What a request does to the ledger. -/
def perform (now : Instant) (ledger : Ledger) : SideRequest → Ledger
  | .increment key => (sides.counter.increment key now ledger).ledger
  | .count key => (sides.counter.count key now ledger).ledger
  | .contains key => (sides.counter.contains key now ledger).ledger
  | .reset key => (sides.counter.reset key now ledger).ledger
  | .setAvailable available =>
    ledger.setStore sides.store ((ledger.store sides.store).setAvailable available)
  | .wait => ledger

/-- The ledger after a history; the sweepers do their work while time passes. -/
def after (begun : Instant) (ledger : Ledger) : List (Timed SideRequest) → Ledger
  | [] => ledger
  | ⟨instant, request⟩ :: earlier =>
    sides.perform instant
      ((after begun ledger earlier).elapse (latestInstant begun earlier) instant) request

/-- Whether the store serves an increment of a key. -/
def reaches (isOpen : Bool) (key : String) : Bool := sides.route.isShared key && isOpen

/-- The increments of a key in the process since its last reset. -/
def nearCount (initially : Bool) (key : String) : List (Timed SideRequest) → Nat
  | [] => 0
  | ⟨_, .increment other⟩ :: earlier =>
    nearCount initially key earlier +
      if other = key ∧ sides.reaches (isOpenAfter initially earlier) key = false then 1 else 0
  | ⟨_, .reset other⟩ :: earlier => if other = key then 0 else nearCount initially key earlier
  | _ :: earlier => nearCount initially key earlier

/-- The increments of a key in the store since the last reset while the store was available. -/
def farCount (initially : Bool) (key : String) : List (Timed SideRequest) → Nat
  | [] => 0
  | ⟨_, .increment other⟩ :: earlier =>
    farCount initially key earlier +
      if other = key ∧ sides.reaches (isOpenAfter initially earlier) key = true then 1 else 0
  | ⟨_, .reset other⟩ :: earlier =>
    if other = key ∧ isOpenAfter initially earlier = true then 0
    else farCount initially key earlier
  | _ :: earlier => farCount initially key earlier

/-- A request that is answered. If it reaches the store while this is unavailable, it reports one
fallback, and otherwise none. -/
structure Answers {α : Type} (key operation : String) (reached : Bool) (before : Ledger)
    (answer : α) (served : Served α) : Prop where
  answer : served.answer = .ok answer
  requests : (served.ledger.store sides.store).requests =
    (before.store sides.store).requests + if reached then 1 else 0
  fallbacks : served.fallbacks =
    if reached && !(before.store sides.store).available then
      [⟨key, operation, CounterStore.backend, CounterStore.outage⟩]
    else []

/-- What a side shows of its increments, up to the greatest count that it keeps. -/
def seen (reached : Bool) (near far : Nat) : Nat :=
  if reached then min far CounterStore.greatestValue.toNat else min near LocalCounter.greatestCount

/-- A ledger with a store that is available or not, and with the counts of all keys on both
sides. -/
structure Shows (isOpen : Bool) (near far : String → Nat) (ledger : Ledger) : Prop where
  isOpen : (ledger.store sides.store).available = isOpen
  near (key : String) :
    (sides.nearPlace key).find? ledger = keptCount LocalCounter.greatestCount (near key)
  far (key : String) :
    (sides.farPlace key).find? ledger = keptCount CounterStore.greatestValue (far key)

/-- A request that the store has heard: it is answered while the store is available. -/
structure Heard {α : Type} (before : Ledger) (answer : α) (served : Served α) : Prop where
  answer : served.answer =
    if (before.store sides.store).available then .ok answer else .error CounterStore.outage
  requests : (served.ledger.store sides.store).requests =
    (before.store sides.store).requests + 1
  fallbacks : served.fallbacks = []

variable {sides : Sides} {now : Instant} {ledger : Ledger} {key operation : String}
  {isOpen initially : Bool} {near far : String → Nat} {earlier : List (Timed SideRequest)}

/-! ### Requests that one side answers -/

/-- A store counts the requests that it hears. -/
theorem heard_served {α β : Type} (ledger : Ledger) (present : α → β)
    (answer : CounterStore → α × CounterStore)
    (keeps : ∀ store, (answer store).2.requests = store.requests) (found : β)
    (finds : ∀ store : CounterStore, store.counts = (ledger.store sides.store).counts →
      present (answer store).1 = found) :
    sides.Heard ledger found
      (Counter.served ledger sides.store present ((ledger.store sides.store).request answer)) := by
  rw [Counter.served, CounterStore.request]
  cases isOpen : (ledger.store sides.store).available with
  | true =>
    refine ⟨?_, ?_, rfl⟩
    · simp only [if_true, isOpen]
      exact congrArg Except.ok (finds _ rfl)
    · simp only [if_true, Ledger.store_setStore_self, keeps]
  | false =>
    refine ⟨?_, ?_, rfl⟩
    · simp only [isOpen]
      rfl
    · simp only [Bool.false_eq_true, if_false, Ledger.store_setStore_self]

/-- After a failure of the store the process answers, and this is reported. -/
theorem Heard.orElse {α : Type} {before : Ledger} {there here : α} {first : Served α}
    (heard : sides.Heard before there first) (final : Failure → Bool)
    (survives : final CounterStore.outage = false) (second : Ledger → Served α)
    (goesOn : sides.Answers key operation false first.ledger here (second first.ledger)) :
    sides.Answers key operation true before
      (if (before.store sides.store).available then there else here)
      (Counter.orElse key operation sides.far true final first second) := by
  obtain ⟨answer, requests, fallbacks⟩ := heard
  rw [Counter.orElse]
  cases isOpen : (before.store sides.store).available with
  | true =>
    rw [isOpen, if_pos rfl] at answer
    simp only [answer]
    exact ⟨answer, requests, by rw [fallbacks, isOpen]; rfl⟩
  | false =>
    rw [isOpen, if_neg Bool.false_ne_true] at answer
    simp only [answer, survives, Bool.not_true, Bool.or_self, Bool.false_eq_true, if_false]
    refine ⟨goesOn.answer, goesOn.requests.trans requests, ?_⟩
    rw [fallbacks, goesOn.fallbacks, isOpen]
    rfl

/-! ### What the counts show -/

/-- What is kept for a count: nothing for zero, and else a value that does not expire. -/
theorem kept_cases {Stored : Type} {found : Option Stored} {value : Stored → Int}
    {expiresAt : Stored → Option Instant} {greatest : Int} {count : Nat}
    (kept : (found.map fun stored => (value stored, expiresAt stored)) =
      keptCount greatest count) :
    count = 0 ∧ found = none ∨
      count ≠ 0 ∧ ∃ stored, found = some stored ∧ value stored = min (count : Int) greatest ∧
        expiresAt stored = none := by
  rw [keptCount] at kept
  split at kept
  · exact .inl ⟨‹_›, Option.map_eq_none_iff.1 kept⟩
  · obtain ⟨stored, found, same⟩ := Option.map_eq_some_iff.1 kept
    exact .inr ⟨‹_›, stored, found, Prod.mk.inj same⟩

/-- The value after an increment of what is kept for a count. -/
theorem next_of_keptCount {place : Place} {count : Nat}
    (kept : place.find? ledger = keptCount place.greatest count) (now : Instant) :
    place.next now ledger = min (count + 1 : Int) place.greatest := by
  have positive : (0 : Int) < place.greatest := by
    cases place <;> simp only [Place.greatest] <;> decide
  rw [keptCount] at kept
  split at kept
  · rename_i unused
    have nothing : place.find? ledger = (none : Option Int).map (·, none) := kept
    rw [Counter.next_of_permanent now nothing, unused]
    rfl
  · have counted : place.find? ledger =
      (some (min (count : Int) place.greatest)).map (·, none) := kept
    rw [Counter.next_of_permanent now counted, Option.getD_some]
    omega

section OneSide

variable {count : Nat}

theorem live?_near
    (kept : (sides.nearPlace key).find? ledger = keptCount LocalCounter.greatestCount count)
    (now : Instant) :
    (ledger.localCounter sides.id).live? key now =
      if count = 0 then none else some (min count LocalCounter.greatestCount) := by
  rw [LocalCounter.live?]
  rcases kept_cases kept with ⟨unused, found⟩ | ⟨used, stored, found, value, never⟩
  · rw [if_pos unused, found]
  · rw [if_neg used, found]
    simp only [isExpired, never, Option.any_none, Bool.false_eq_true, if_false]
    exact congrArg some (by omega)

theorem live?_far
    (kept : (sides.farPlace key).find? ledger = keptCount CounterStore.greatestValue count)
    {store : CounterStore} (same : store.counts = (ledger.store sides.store).counts)
    (now : Instant) :
    store.live? (sides.start ++ key) now =
      if count = 0 then none else some (min (count : Int) CounterStore.greatestValue) := by
  rw [CounterStore.live?, same]
  rcases kept_cases kept with ⟨unused, found⟩ | ⟨used, stored, found, value, never⟩
  · rw [if_pos unused, found]
  · rw [if_neg used, found]
    simp only [isExpired, never, Option.any_none, Bool.false_eq_true, if_false, value]

theorem increment_near
    (kept : (sides.nearPlace key).find? ledger = keptCount LocalCounter.greatestCount count)
    (operation : String) (now : Instant) :
    sides.Answers key operation false ledger (min (count + 1) LocalCounter.greatestCount)
      (sides.near.increment key now ledger) := by
  have raised : Counter.Raised (.ok (sides.nearPlace key, none)) now ledger
      (sides.near.increment key now ledger) := Counter.increment_raised sides.near key ledger
  refine ⟨?_, rfl, rfl⟩
  rw [raised.answer, Except.map, next_of_keptCount kept now, nearPlace, Place.greatest]
  exact congrArg Except.ok (by omega)

theorem increment_far
    (kept : (sides.farPlace key).find? ledger = keptCount CounterStore.greatestValue count)
    (now : Instant) :
    sides.Heard ledger (min (count + 1) CounterStore.greatestValue.toNat)
      (sides.far.increment key now ledger) := by
  refine heard_served ledger _ _ (fun _ => rfl) _ fun store same => ?_
  have positive : (0 : Int) < CounterStore.greatestValue := by decide
  rw [live?_far kept same, Counter.nonNegative]
  dsimp only
  split
  · rename_i unused
    rw [unused, Option.getD_none]
    omega
  · rw [Option.getD_some]
    omega

theorem count_near
    (kept : (sides.nearPlace key).find? ledger = keptCount LocalCounter.greatestCount count)
    (operation : String) (now : Instant) :
    sides.Answers key operation false ledger (min count LocalCounter.greatestCount)
      (sides.near.count key now ledger) := by
  refine ⟨congrArg Except.ok ?_, rfl, rfl⟩
  rw [LocalCounter.count, live?_near kept]
  split
  · rename_i unused
    rw [unused, Nat.zero_min, Option.getD_none]
  · rfl

theorem count_far
    (kept : (sides.farPlace key).find? ledger = keptCount CounterStore.greatestValue count)
    (now : Instant) :
    sides.Heard ledger (min count CounterStore.greatestValue.toNat)
      (sides.far.count key now ledger) := by
  refine heard_served ledger _ _ (fun _ => rfl) _ fun store same => ?_
  rw [live?_far kept same]
  split
  · rename_i unused
    rw [unused, Nat.zero_min]
    rfl
  · simp only [Option.map_some, Option.getD_some, Counter.nonNegative]
    omega

theorem contains_near
    (kept : (sides.nearPlace key).find? ledger = keptCount LocalCounter.greatestCount count)
    (now : Instant) :
    sides.near.contains key now ledger = ⟨.ok (decide (0 < count)), ledger, []⟩ := by
  rw [Sides.near, Counter.contains, LocalCounter.contains, live?_near kept]
  split <;> simp_all [Nat.pos_iff_ne_zero]

theorem contains_far
    (kept : (sides.farPlace key).find? ledger = keptCount CounterStore.greatestValue count)
    (now : Instant) :
    sides.Heard ledger (decide (0 < count)) (sides.far.contains key now ledger) := by
  refine heard_served ledger _ _ (fun _ => rfl) _ fun store same => ?_
  rw [live?_far kept same]
  split <;> simp_all [Nat.pos_iff_ne_zero]

theorem reset_far (ledger : Ledger) (key : String) (now : Instant) :
    sides.Heard ledger () (sides.far.reset key now ledger) :=
  heard_served ledger _ _ (fun _ => rfl) _ fun _ _ => rfl

end OneSide

/-! ### What the hybrid counter answers -/

namespace Shows

theorem increment (shows : sides.Shows isOpen near far ledger) (key : String) (now : Instant) :
    sides.Answers key "increment" (sides.route.isShared key) ledger
      (seen (sides.reaches isOpen key) (near key + 1) (far key + 1))
      (sides.counter.increment key now ledger) := by
  rw [counter, Counter.increment, reaches]
  cases sides.route.isShared key with
  | true =>
    have same : (sides.nearPlace key).find? (sides.far.increment key now ledger).ledger =
      keptCount LocalCounter.greatestCount (near key) := shows.near key
    have answers := (increment_far (shows.far key) now).orElse Counter.isTtlFailure rfl
      (sides.near.increment key now) (increment_near same "increment" now)
    rw [shows.isOpen] at answers
    exact answers
  | false => exact increment_near (shows.near key) "increment" now

theorem count (shows : sides.Shows isOpen near far ledger) (key : String) (now : Instant) :
    sides.Answers key "get" (sides.route.isShared key) ledger
      (seen (sides.reaches isOpen key) (near key) (far key))
      (sides.counter.count key now ledger) := by
  rw [counter, Counter.count, reaches]
  cases sides.route.isShared key with
  | true =>
    have same : (sides.nearPlace key).find? (sides.far.count key now ledger).ledger =
      keptCount LocalCounter.greatestCount (near key) := shows.near key
    have answers := (count_far (shows.far key) now).orElse (fun _ => false) rfl
      (sides.near.count key now) (count_near same "get" now)
    rw [shows.isOpen] at answers
    exact answers
  | false => exact count_near (shows.near key) "get" now

theorem contains (shows : sides.Shows isOpen near far ledger) (key : String) (now : Instant) :
    sides.Answers key "exists" (decide (near key = 0)) ledger
      (decide (0 < near key) || isOpen && decide (0 < far key))
      (sides.counter.contains key now ledger) := by
  rw [counter, Counter.contains, contains_near (shows.near key) now]
  by_cases unused : near key = 0
  · obtain ⟨answer, requests, fallbacks⟩ := contains_far (shows.far key) now
    rw [shows.isOpen] at answer
    rw [unused]
    cases isOpen with
    | true =>
      simp only [answer, Nat.lt_irrefl, decide_false, if_true, fallbacks]
      exact ⟨by simp, requests, by rw [shows.isOpen]; rfl⟩
    | false =>
      simp only [answer, Nat.lt_irrefl, decide_false, Bool.false_eq_true, if_false, fallbacks,
        if_true]
      exact ⟨by simp, requests, by rw [shows.isOpen]; rfl⟩
  · have used : 0 < near key := Nat.pos_of_ne_zero unused
    simp only [used, decide_true, unused, decide_false]
    exact ⟨by simp, rfl, rfl⟩

theorem reset (shows : sides.Shows isOpen near far ledger) (key : String) (now : Instant) :
    sides.Answers key "reset" true ledger () (sides.counter.reset key now ledger) := by
  obtain ⟨answer, requests, fallbacks⟩ :=
    sides.reset_far (sides.near.reset key now ledger).ledger key now
  -- the counts in the process are reset first, which leaves the store as it is
  have still : ((sides.near.reset key now ledger).ledger.store sides.store).available = isOpen :=
    shows.isOpen
  rw [still] at answer
  rw [counter, Counter.reset]
  cases isOpen with
  | true =>
    simp only [answer, if_true, fallbacks]
    exact ⟨rfl, requests, by rw [shows.isOpen]; rfl⟩
  | false =>
    simp only [answer, Bool.false_eq_true, if_false, if_true, fallbacks]
    exact ⟨rfl, requests, by rw [shows.isOpen]; rfl⟩

/-! ### What a request changes -/

/-- The store hears a request that changes no count. -/
theorem heard {α β : Type} (shows : sides.Shows isOpen near far ledger) (present : α → β)
    (answer : CounterStore → α × CounterStore) (quiet : ∀ store, (answer store).2 = store) :
    sides.Shows isOpen near far
      (Counter.served ledger sides.store present
        ((ledger.store sides.store).request answer)).ledger := by
  have differs := Counter.differs_served ledger sides.store present answer quiet
  refine ⟨(congrFun differs.available sides.store).trans shows.isOpen, fun key => ?_, fun key => ?_⟩
  · rw [differs.find? (sides.nearPlace key) nofun, shows.near key]
  · rw [differs.find? (sides.farPlace key) nofun, shows.far key]

theorem after_count (shows : sides.Shows isOpen near far ledger) (key : String) (now : Instant) :
    sides.Shows isOpen near far (sides.counter.count key now ledger).ledger := by
  rw [counter, Counter.count]
  split
  · rw [Counter.ledger_orElse _ _ _ _ _ _ fun _ => rfl]
    exact shows.heard _ _ fun _ => rfl
  · exact shows

theorem after_contains (shows : sides.Shows isOpen near far ledger) (key : String)
    (now : Instant) :
    sides.Shows isOpen near far (sides.counter.contains key now ledger).ledger := by
  have asked : sides.Shows isOpen near far (sides.far.contains key now ledger).ledger :=
    shows.heard _ _ fun _ => rfl
  rw [counter, Counter.contains, contains_near (shows.near key) now]
  dsimp only
  split
  · split
    · exact asked
    · exact asked
  · exact shows

theorem after_setAvailable (shows : sides.Shows isOpen near far ledger) (available : Bool) :
    sides.Shows available near far
      (ledger.setStore sides.store ((ledger.store sides.store).setAvailable available)) := by
  refine ⟨?_, shows.near, fun key => ?_⟩
  · rw [Ledger.store_setStore_self]
    rfl
  · rw [← shows.far key, farPlace, Place.find?, Ledger.store_setStore_self, Place.find?]
    rfl

/-- Sweepers leave what does not expire. -/
theorem elapse (shows : sides.Shows isOpen near far ledger) (before after : Instant) :
    sides.Shows isOpen near far (ledger.elapse before after) := by
  refine ⟨shows.isOpen, fun key => ?_, shows.far⟩
  rw [Place.find?_elapse _ before after, shows.near key]
  rw [shows.near key, keptCount]
  split
  · exact fun _ => nofun
  · rintro kept ⟨⟩
    rfl

/-- The place that serves an increment. -/
theorem locate (shows : sides.Shows isOpen near far ledger) (key : String) :
    sides.counter.locate ledger.isAvailable key =
      .ok (if sides.reaches isOpen key then sides.farPlace key else sides.nearPlace key, none) := by
  have reached : ledger.isAvailable sides.store = isOpen := shows.isOpen
  rw [counter, Counter.locate, reaches]
  cases sides.route.isShared key with
  | false => rfl
  | true =>
    have far : sides.far.locate ledger.isAvailable key =
        if isOpen then .ok (sides.farPlace key, none) else .error CounterStore.outage := by
      rw [← reached]
      rfl
    rw [far]
    cases isOpen <;> rfl

theorem after_increment (shows : sides.Shows isOpen near far ledger) (key : String)
    (now : Instant) :
    sides.Shows isOpen
      (fun other => near other + if key = other ∧ sides.reaches isOpen other = false then 1 else 0)
      (fun other => far other + if key = other ∧ sides.reaches isOpen other = true then 1 else 0)
      (sides.counter.increment key now ledger).ledger := by
  -- one place is raised, and which one it is decides about both sides and about all keys
  obtain ⟨differs, -, kept⟩ : Counter.Raised _ now ledger _ :=
    Counter.increment_raised sides.counter key ledger
  rw [shows.locate key] at differs kept
  have raised := kept _ none rfl
  refine ⟨?_, fun other => ?_, fun other => ?_⟩
  · exact (congrFun differs.available sides.store).trans shows.isOpen
  · by_cases here : key = other ∧ sides.reaches isOpen other = false
    · obtain ⟨rfl, missed⟩ := here
      rw [missed, if_neg Bool.false_ne_true, next_of_keptCount (shows.near key)] at raised
      rw [raised, if_pos ⟨rfl, missed⟩]
      rfl
    · rw [if_neg here]
      refine (differs.find? _ fun same => here ?_).trans (shows.near other)
      cases reached : sides.reaches isOpen key <;> rw [reached] at same
      · obtain rfl : key = other := (Place.inProcess.inj (Option.some.inj same)).2
        exact ⟨rfl, reached⟩
      · cases same
  · by_cases here : key = other ∧ sides.reaches isOpen other = true
    · obtain ⟨rfl, reached⟩ := here
      rw [reached, if_pos rfl, next_of_keptCount (shows.far key)] at raised
      rw [raised, if_pos ⟨rfl, reached⟩]
      rfl
    · rw [if_neg here]
      refine (differs.find? _ fun same => here ?_).trans (shows.far other)
      cases reached : sides.reaches isOpen key <;> rw [reached] at same
      · cases same
      · obtain rfl : key = other :=
          (String.append_right_inj sides.start).1 (Place.inStore.inj (Option.some.inj same)).2
        exact ⟨rfl, reached⟩

theorem after_reset (shows : sides.Shows isOpen near far ledger) (key : String) (now : Instant) :
    sides.Shows isOpen (fun other => if key = other then 0 else near other)
      (fun other => if key = other ∧ isOpen = true then 0 else far other)
      (sides.counter.reset key now ledger).ledger := by
  obtain ⟨available, others, emptied⟩ := sides.counter.reset_effect key now ledger
  have used : sides.counter.places key = [sides.nearPlace key, sides.farPlace key] := rfl
  rw [used] at others emptied
  refine ⟨(congrFun available sides.store).trans shows.isOpen, fun other => ?_, fun other => ?_⟩
  · by_cases here : key = other
    · subst here
      rw [if_pos rfl, emptied _ (by simp) rfl]
      rfl
    · rw [if_neg here, others _ ?_, shows.near other]
      rw [List.mem_pair]
      rintro (same | same)
      · exact here (Place.inProcess.inj same).2.symm
      · cases same
  · by_cases here : key = other
    · subst here
      cases isOpen with
      | true =>
        rw [if_pos ⟨rfl, rfl⟩, emptied (sides.farPlace key) (by simp) shows.isOpen]
        rfl
      | false =>
        -- the store has not heard of the reset
        have missed : (ledger.store sides.store).available = false := shows.isOpen
        have still : (sides.near.reset key now ledger).ledger.store sides.store =
          ledger.store sides.store := rfl
        rw [if_neg nofun, ← shows.far key, counter, Counter.reset_hybrid, Sides.far,
          Counter.reset, Counter.served, still]
        simp [farPlace, Place.find?, CounterStore.delete, CounterStore.request, missed]
    · rw [if_neg fun reset => here reset.1, others _ ?_, shows.far other]
      rw [List.mem_pair]
      rintro (same | same)
      · cases same
      · exact here
          ((String.append_right_inj sides.start).1 (Place.inStore.inj same).2).symm

/-- A request keeps both sides in step with the history. -/
theorem perform
    (shows : sides.Shows (isOpenAfter initially earlier) (sides.nearCount initially · earlier)
      (sides.farCount initially · earlier) ledger) (now : Instant) (request : SideRequest) :
    sides.Shows (isOpenAfter initially (⟨now, request⟩ :: earlier))
      (sides.nearCount initially · (⟨now, request⟩ :: earlier))
      (sides.farCount initially · (⟨now, request⟩ :: earlier))
      (sides.perform now ledger request) := by
  cases request with
  | increment key => exact shows.after_increment key now
  | count key => exact shows.after_count key now
  | contains key => exact shows.after_contains key now
  | reset key => exact shows.after_reset key now
  | setAvailable available => exact shows.after_setAvailable available
  | wait => exact shows

end Shows

/-- After a history, both sides have what it tells. -/
theorem shows_after (begun : Instant) (ledger : Ledger)
    (unusedNear : (ledger.localCounter sides.id).counts = {})
    (unusedFar : (ledger.store sides.store).counts = {}) (history : List (Timed SideRequest)) :
    sides.Shows (isOpenAfter (ledger.store sides.store).available history)
      (sides.nearCount (ledger.store sides.store).available · history)
      (sides.farCount (ledger.store sides.store).available · history)
      (sides.after begun ledger history) := by
  induction history with
  | nil =>
    refine ⟨rfl, fun key => ?_, fun key => ?_⟩
    · rw [nearPlace, Place.find?, after, unusedNear]
      rfl
    · rw [farPlace, Place.find?, after, unusedFar]
      rfl
  | cons last earlier shows => exact (shows.elapse _ _).perform last.instant last.request

/-- An increment is counted on one side only, and nothing else is counted. -/
theorem nearCount_add_farCount_le (initially : Bool) (key : String) (history : List (Timed SideRequest)) :
    sides.nearCount initially key history + sides.farCount initially key history ≤
      history.length := by
  induction history with
  | nil => exact Nat.le_refl 0
  | cons last earlier shorter =>
    obtain ⟨instant, request⟩ := last
    rw [List.length_cons]
    cases request with
    | increment other =>
      simp only [nearCount, farCount]
      cases sides.reaches (isOpenAfter initially earlier) key with
      | true =>
        rw [if_neg fun missed => nomatch missed.2]
        split <;> omega
      | false =>
        rw [if_neg (c := other = key ∧ false = true) fun reached => nomatch reached.2]
        split <;> omega
    | reset other =>
      simp only [nearCount, farCount]
      split <;> split <;> omega
    | count | contains | setAvailable | wait => exact Nat.le_succ_of_le shorter

/-- A side shows all increments that fit a count of the store. -/
theorem seen_of_le {near far : Nat} (nearFits : near ≤ CounterStore.greatestValue.toNat)
    (farFits : far ≤ CounterStore.greatestValue.toNat) (reached : Bool) :
    seen reached near far = if reached then far else near := by
  have larger : CounterStore.greatestValue.toNat ≤ LocalCounter.greatestCount := by decide
  cases reached with
  | true => exact Nat.min_eq_left farFits
  | false => exact Nat.min_eq_left (Nat.le_trans nearFits larger)

/-- What the hybrid counter answers for a key with some counts on its two sides. -/
structure Serves (sides : Sides) (key : String) (isOpen : Bool) (near far : Nat) (now : Instant)
    (before : Ledger) : Prop where
  increment : sides.Answers key "increment" (sides.route.isShared key) before
    (seen (sides.reaches isOpen key) (near + 1) (far + 1)) (sides.counter.increment key now before)
  count : sides.Answers key "get" (sides.route.isShared key) before
    (seen (sides.reaches isOpen key) near far) (sides.counter.count key now before)
  contains : sides.Answers key "exists" (decide (near = 0)) before
    (decide (0 < near) || isOpen && decide (0 < far)) (sides.counter.contains key now before)
  reset : sides.Answers key "reset" true before () (sides.counter.reset key now before)

/-- Whatever has been asked of a hybrid counter whose sides were unused, both sides keep what has
been counted there since their last reset, and the next request is answered from that: an increment
and the count of a key by the store if the route tells so and it is available, and else by the
process; whether there is a count by either side that can be reached. No request fails, and one that
reaches the store in vain reports one fallback. A side shows all its increments as long as they fit
a count of the store. -/
theorem serves_after (sides : Sides) (begun now : Instant) (ledger : Ledger)
    (unusedNear : (ledger.localCounter sides.id).counts = {})
    (unusedFar : (ledger.store sides.store).counts = {}) (history : List (Timed SideRequest)) :
    let isOpen := isOpenAfter (ledger.store sides.store).available history
    let near := (sides.nearCount (ledger.store sides.store).available · history)
    let far := (sides.farCount (ledger.store sides.store).available · history)
    let before := (sides.after begun ledger history).elapse (latestInstant begun history) now
    sides.Shows isOpen near far before ∧
      (∀ key, sides.Serves key isOpen (near key) (far key) now before) ∧
      (history.length < CounterStore.greatestValue.toNat → ∀ key reached,
        seen reached (near key) (far key) = (if reached then far key else near key) ∧
          seen reached (near key + 1) (far key + 1) =
            (if reached then far key else near key) + 1) := by
  intro isOpen near far before
  have shows : sides.Shows isOpen near far before :=
    (shows_after begun ledger unusedNear unusedFar history).elapse _ now
  refine ⟨shows, fun key => ?_, fun short key reached => ?_⟩
  · exact ⟨shows.increment key now, shows.count key now, shows.contains key now,
      shows.reset key now⟩
  · have fits : near key + far key ≤ history.length := nearCount_add_farCount_le _ key history
    rw [seen_of_le (by omega) (by omega), seen_of_le (by omega) (by omega)]
    exact ⟨rfl, by split <;> rfl⟩

/-- A key that has been counted on both sides of an outage, which still lasts. -/
theorem serves_after_outage :
    let sides : Sides := ⟨"counts", .ofSeconds 60, "store", "retry:", .allShared⟩
    let history : List (Timed SideRequest) :=
      [⟨3, .increment "key"⟩, ⟨2, .setAvailable false⟩, ⟨1, .increment "key"⟩]
    (({} : Ledger).localCounter sides.id).counts = {} ∧
      (({} : Ledger).store sides.store).counts = {} ∧
      sides.Serves "key" false 1 1 4
        ((sides.after 0 {} history).elapse (latestInstant 0 history) 4) := by
  intro sides history
  exact ⟨rfl, rfl, (serves_after sides 0 4 {} rfl rfl history).2.1 "key"⟩

end Sides

end Resilience
