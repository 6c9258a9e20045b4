import Resilience.Counter.Basic
import Mathlib.Data.List.Basic

/-!
# Where counts are kept

However a counter is composed, the count of a key is kept at one place at a time: a key of a counter
in the process or a key of a store. Which place serves an increment depends on the route, on the time
to live and on which stores are available, and on nothing else. All other places stay as they are.

## Main definitions

* `Place`, `Place.find?` — a place of a ledger and what is kept there
* `Counter.places` — the places that a counter uses for a key
* `Counter.locate` — the place that serves an increment
* `Place.Holds` — a count that does not expire is kept at a place

## Main statements

* `Counter.increment_raised`, `Counter.reset_effect` — what requests do
* `Counter.increment_of_holds`, `Counter.reset_holds`, `Place.Holds.elapse` — counts that do not
  expire
-/

namespace Resilience

/-- A key of a counter in the process or of a store. -/
inductive Place where
  | inProcess (id key : String)
  | inStore (name key : String)
  deriving DecidableEq

/-- Which stores are available. -/
def Ledger.isAvailable (ledger : Ledger) (name : String) : Bool := (ledger.store name).available

namespace Place

/-- What is kept at a place: a value and its expiry. -/
def find? (ledger : Ledger) : Place → Option (Int × Option Instant)
  | inProcess id key =>
    ((ledger.localCounter id).counts.find? key).map fun count => (count.value, count.expiresAt)
  | inStore name key =>
    ((ledger.store name).counts.find? key).map fun count => (count.value, count.expiresAt)

/-- Whether requests reach a place. -/
def isOpen (available : String → Bool) : Place → Bool
  | inProcess .. => true
  | inStore name _ => available name

/-- The greatest value that is kept at a place. -/
def greatest : Place → Int
  | inProcess .. => LocalCounter.greatestCount
  | inStore .. => CounterStore.greatestValue

/-- The value after the next increment; a value that has expired does not count. -/
def next (place : Place) (now : Instant) (ledger : Ledger) : Int :=
  let value := match place.find? ledger with
    | none => 0
    | some (value, expiresAt) => if isExpired expiresAt now then 0 else value
  min (value + 1) place.greatest

end Place

/-- Two ledgers that differ at one place only, or nowhere. -/
structure Ledger.Differs (at? : Option Place) (before after : Ledger) : Prop where
  available : after.isAvailable = before.isAvailable
  find? : ∀ place, at? ≠ some place → place.find? after = place.find? before

namespace Ledger

variable {ledger : Ledger}

theorem Differs.refl (at? : Option Place) (ledger : Ledger) : Differs at? ledger ledger :=
  ⟨rfl, fun _ _ => rfl⟩

@[simp] theorem localCounter_setLocal_self (id : String) (counter : LocalCounter) :
    (ledger.setLocal id counter).localCounter id = counter := by
  simp [localCounter, setLocal]

@[simp] theorem store_setStore_self (name : String) (store : CounterStore) :
    (ledger.setStore name store).store name = store := by
  simp [Ledger.store, setStore]

theorem localCounter_setLocal_ne {id other : String} (counter : LocalCounter) (apart : other ≠ id) :
    (ledger.setLocal id counter).localCounter other = ledger.localCounter other := by
  rw [localCounter, setLocal, Table.find?_insert_ne _ _ apart, localCounter]

theorem store_setStore_ne {name other : String} (store : CounterStore) (apart : other ≠ name) :
    (ledger.setStore name store).store other = ledger.store other := by
  rw [Ledger.store, setStore, Table.find?_insert_ne _ _ apart, Ledger.store]

/-- The sweepers work on every counter by itself. -/
theorem localCounter_elapse (before after : Instant) (id : String) :
    (ledger.elapse before after).localCounter id =
      (ledger.localCounter id).elapse before after := by
  have mapped := ledger.locals.find?_mapValues (·.elapse before after) id
  rw [localCounter, elapse, mapped, localCounter]
  cases ledger.locals.find? id <;> rfl

/-- A changed counter in the process. -/
theorem differs_setLocal {id : String} {counter : LocalCounter} (at? : Option Place)
    (others : ∀ key, at? ≠ some (.inProcess id key) → counter.counts.find? key =
      (ledger.localCounter id).counts.find? key) :
    Differs at? ledger (ledger.setLocal id counter) := by
  refine ⟨rfl, fun place apart => ?_⟩
  cases place with
  | inStore name key => rfl
  | inProcess id' key =>
    by_cases same : id' = id
    · subst same
      simp only [Place.find?, localCounter_setLocal_self, others key apart]
    · simp only [Place.find?, localCounter_setLocal_ne _ same]

/-- A changed store. -/
theorem differs_setStore {name : String} {store : CounterStore} (at? : Option Place)
    (available : store.available = (ledger.store name).available)
    (others : ∀ key, at? ≠ some (.inStore name key) →
      store.counts.find? key = (ledger.store name).counts.find? key) :
    Differs at? ledger (ledger.setStore name store) := by
  constructor
  · funext name'
    by_cases same : name' = name
    · subst same
      rw [isAvailable, store_setStore_self, available, isAvailable]
    · rw [isAvailable, store_setStore_ne _ same, isAvailable]
  · intro place apart
    cases place with
    | inProcess id key => rfl
    | inStore name' key =>
      by_cases same : name' = name
      · subst same
        simp only [Place.find?, store_setStore_self, others key apart]
      · simp only [Place.find?, store_setStore_ne _ same]

/-- Being asked changes no count. -/
theorem differs_asked (ledger : Ledger) (name : String) (requests : Nat) :
    Differs none ledger (ledger.setStore name { ledger.store name with requests }) :=
  differs_setStore none rfl fun _ _ => rfl

end Ledger

namespace Counter

/-- The places that a counter uses for a key. -/
def places (key : String) : Counter → List Place
  | inProcess id _ => [.inProcess id key]
  | shared name start _ => [.inStore name (start ++ key)]
  | hybrid near far _ _ => near.places key ++ far.places key
  | plain inner => inner.places key

/-- The far side of a hybrid counter, or the near side after a failure that may fall back. -/
def farOrNear {α : Type} (fallsBack : Bool) (far near : Except Failure α) : Except Failure α :=
  match far with
  | .ok found => .ok found
  | .error failure => if isTtlFailure failure || !fallsBack then .error failure else near

/-- The place that serves an increment with a time to live, and the time to live; or why none
does. -/
def locateFor (available : String → Bool) (key : String) (ttl : Option Duration) :
    Counter → Except Failure (Place × Option Duration)
  | inProcess id _ => (checkTtl ttl).map fun _ => (.inProcess id key, ttl)
  | shared name start _ =>
    (checkTtl ttl).bind fun _ =>
      if available name then .ok (.inStore name (start ++ key), ttl)
      else .error CounterStore.outage
  | hybrid near far route fallsBack =>
    if route.isShared key then
      farOrNear fallsBack (far.locateFor available key ttl) (near.locateFor available key ttl)
    else near.locateFor available key ttl
  | plain inner => inner.locateFor available key ttl

/-- The place that serves an increment, with the default time to live of the side that does. -/
def locate (available : String → Bool) (key : String) :
    Counter → Except Failure (Place × Option Duration)
  | hybrid near far route fallsBack =>
    if route.isShared key then
      farOrNear fallsBack (far.locate available key) (near.locate available key)
    else near.locate available key
  | counter => counter.locateFor available key counter.defaultTtl

/-- An increment at a place, or a failure that leaves all counts as they are. -/
structure Raised (found : Except Failure (Place × Option Duration)) (now : Instant)
    (ledger : Ledger) (served : Served Nat) : Prop where
  differs : Ledger.Differs (found.toOption.map (·.1)) ledger served.ledger
  answer : served.answer = found.map fun found => (found.1.next now ledger).toNat
  kept : ∀ place ttl, found = .ok (place, ttl) → place.find? served.ledger =
    some (place.next now ledger, ttl.map fun ttl => now + ttl.nanos)

variable {now : Instant} {ledger : Ledger}

theorem Raised.failed (failure : Failure) {served : Served Nat}
    (answer : served.answer = .error failure) (differs : Ledger.Differs none ledger served.ledger) :
    Raised (.error failure) now ledger served :=
  ⟨differs, answer, nofun⟩

/-- The value after an increment of a counter in the process. -/
theorem next_inProcess (id key : String) (ttl : Option Duration) :
    (Place.inProcess id key).next now ledger =
      (((ledger.localCounter id).increment key ttl now).1 : Int) := by
  rw [Place.next, Place.find?, LocalCounter.increment]
  cases (ledger.localCounter id).counts.find? key with
  | none => rfl
  | some count =>
    simp only [Option.map_some, Place.greatest]
    split <;> omega

theorem raised_inProcess (id key : String) (ttl : Option Duration) :
    Raised (.ok (.inProcess id key, ttl)) now ledger
      ⟨.ok ((ledger.localCounter id).increment key ttl now).1,
        ledger.setLocal id ((ledger.localCounter id).increment key ttl now).2, []⟩ where
  differs := Ledger.differs_setLocal _ fun other apart =>
    Table.find?_insert_ne _ _ fun same => apart (by rw [same]; rfl)
  answer := by
    simp only [Except.map, next_inProcess id key ttl, Int.toNat_natCast]
  kept := by
    rintro place ttl ⟨⟩
    rw [next_inProcess id key ttl]
    simp [Place.find?, LocalCounter.increment]

/-- The value after an increment of a store that is available. -/
theorem next_inStore (name key : String) :
    (Place.inStore name key).next now ledger =
      min (((ledger.store name).live? key now).getD 0 + 1) CounterStore.greatestValue := by
  rw [Place.next, Place.find?, CounterStore.live?]
  cases (ledger.store name).counts.find? key with
  | none => rfl
  | some count =>
    simp only [Option.map_some, Place.greatest]
    split <;> rfl

theorem raised_inStore (name key : String) (ttl : Option Duration)
    (isOpen : ledger.isAvailable name = true) :
    Raised (.ok (.inStore name key, ttl)) now ledger
      (served ledger name nonNegative ((ledger.store name).increment key ttl now)) := by
  have reaches : (ledger.store name).available = true := isOpen
  have value := @next_inStore now ledger name key
  simp only [CounterStore.increment, CounterStore.request, reaches, if_true, served]
  refine ⟨Ledger.differs_setStore _ reaches.symm fun other apart =>
    Table.find?_insert_ne _ _ fun same => apart (by rw [same]; rfl), ?_, ?_⟩
  · simp only [Except.map, value]
    rfl
  · rintro place ttl ⟨⟩
    rw [value]
    simp [Place.find?, CounterStore.live?]

theorem failed_inStore (name key : String) (ttl : Option Duration)
    (closed : ledger.isAvailable name = false) :
    Raised (.error CounterStore.outage) now ledger
      (served ledger name nonNegative ((ledger.store name).increment key ttl now)) := by
  have missed : (ledger.store name).available = false := closed
  simp only [CounterStore.increment, CounterStore.request, missed, served]
  exact .failed _ rfl (Ledger.differs_setStore none missed.symm fun other _ => rfl)

/-- Ledgers with the same counts make no difference to an increment. -/
theorem Raised.of_same {found : Except Failure (Place × Option Duration)} {between : Ledger}
    {served : Served Nat} (same : Ledger.Differs none ledger between)
    (raised : Raised found now between served) : Raised found now ledger served := by
  have next (place : Place) : place.next now between = place.next now ledger := by
    rw [Place.next, same.find? place nofun, Place.next]
  refine ⟨⟨raised.differs.available.trans same.available, fun place apart =>
    (raised.differs.find? place apart).trans (same.find? place nofun)⟩, ?_, ?_⟩
  · simp only [raised.answer, next]
  · intro place ttl served
    rw [raised.kept place ttl served, next]

/-- The near side of a hybrid counter answers after a failure of the far side. -/
theorem raised_orElse (key : String) (far : Counter) (fallsBack : Bool)
    {there : Except Failure (Place × Option Duration)}
    (here : (String → Bool) → Except Failure (Place × Option Duration)) {first : Served Nat}
    {second : Ledger → Served Nat} (raisedThere : Raised there now ledger first)
    (raisedHere : ∀ between : Ledger,
      Raised (here between.isAvailable) now between (second between)) :
    Raised (farOrNear fallsBack there (here ledger.isAvailable)) now ledger
      (orElse key "increment" far fallsBack isTtlFailure first second) := by
  cases there with
  | ok found =>
    have answer := raisedThere.answer
    simp only [Except.map] at answer
    simp only [orElse, answer]
    exact raisedThere
  | error failure =>
    have answer := raisedThere.answer
    simp only [Except.map] at answer
    simp only [orElse, answer, farOrNear]
    split
    · exact raisedThere
    · have raised := (raisedHere first.ledger).of_same raisedThere.differs
      rw [raisedThere.differs.available] at raised
      exact ⟨raised.differs, raised.answer, raised.kept⟩

/-- The side to which a key is routed is the one that is raised. -/
theorem raised_hybrid (key : String) (far : Counter) (route : KeyRoute) (fallsBack : Bool)
    {there : Except Failure (Place × Option Duration)}
    (here : (String → Bool) → Except Failure (Place × Option Duration)) {first : Served Nat}
    {second : Ledger → Served Nat} (raisedThere : Raised there now ledger first)
    (raisedHere : ∀ between : Ledger,
      Raised (here between.isAvailable) now between (second between)) :
    Raised
      (if route.isShared key then farOrNear fallsBack there (here ledger.isAvailable)
        else here ledger.isAvailable)
      now ledger
      (if route.isShared key then orElse key "increment" far fallsBack isTtlFailure first second
        else second ledger) := by
  split
  · exact raised_orElse key far fallsBack here raisedThere raisedHere
  · exact raisedHere ledger

/-- What an increment with a time to live does. -/
theorem incrementFor_raised (counter : Counter) (key : String) (ttl : Option Duration)
    (ledger : Ledger) :
    Raised (counter.locateFor ledger.isAvailable key ttl) now ledger
      (counter.incrementFor key ttl now ledger) := by
  induction counter generalizing ledger with
  | inProcess id config =>
    rw [locateFor, incrementFor]
    cases checkTtl ttl with
    | error failure => exact .failed failure rfl (.refl none ledger)
    | ok _ => exact raised_inProcess id key ttl
  | shared name start defaultTtl =>
    rw [locateFor, incrementFor]
    cases checkTtl ttl with
    | error failure => exact .failed failure rfl (.refl none ledger)
    | ok _ =>
      simp only [Except.bind]
      cases reaches : ledger.isAvailable name with
      | true => exact raised_inStore name (start ++ key) ttl reaches
      | false => exact failed_inStore name (start ++ key) ttl reaches
  | hybrid near far route fallsBack near_raised far_raised =>
    rw [locateFor, incrementFor]
    exact raised_hybrid key far route fallsBack (near.locateFor · key ttl) (far_raised ledger)
      near_raised
  | plain inner raised => exact raised ledger

/-- What an increment does. -/
theorem increment_raised (counter : Counter) (key : String) (ledger : Ledger) :
    Raised (counter.locate ledger.isAvailable key) now ledger
      (counter.increment key now ledger) := by
  induction counter generalizing ledger with
  | hybrid near far route fallsBack near_raised far_raised =>
    rw [locate, increment]
    exact raised_hybrid key far route fallsBack (near.locate · key) (far_raised ledger) near_raised
  | inProcess | shared | plain => exact incrementFor_raised _ key _ ledger

/-! ### Requests that change no count -/

/-- A request that only reads a store changes no count. -/
theorem differs_served {α β : Type} (ledger : Ledger) (name : String) (present : α → β)
    (answer : CounterStore → α × CounterStore) (quiet : ∀ store, (answer store).2 = store) :
    Ledger.Differs none ledger
      (served ledger name present ((ledger.store name).request answer)).ledger := by
  have asked : ((ledger.store name).request answer).2 =
      { ledger.store name with requests := (ledger.store name).requests + 1 } := by
    rw [CounterStore.request]
    split
    · exact quiet _
    · rfl
  rw [served, asked]
  exact Ledger.differs_asked ledger name _

/-- If the near side changes nothing, then only the far side does. -/
theorem ledger_orElse {α : Type} (key operation : String) (far : Counter) (fallsBack : Bool)
    (final : Failure → Bool) (first : Served α) {second : Ledger → Served α}
    (still : ∀ between, (second between).ledger = between) :
    (orElse key operation far fallsBack final first second).ledger = first.ledger := by
  rw [orElse]
  split
  · rfl
  · split
    · rfl
    · exact still first.ledger

/-! ### The places in use -/

theorem of_farOrNear {α : Type} {fallsBack : Bool} {far near : Except Failure α} {found : α}
    (served : farOrNear fallsBack far near = .ok found) : far = .ok found ∨ near = .ok found := by
  unfold farOrNear at served
  split at served
  · exact .inl served
  · split at served
    · cases served
    · exact .inr served

/-- What is found for a key is found on one of the sides to which it may be routed. -/
theorem of_routed {α : Type} {isShared fallsBack : Bool} {far near : Except Failure α} {found : α}
    (served : (if isShared then farOrNear fallsBack far near else near) = .ok found) :
    far = .ok found ∨ near = .ok found := by
  split at served
  · exact of_farOrNear served
  · exact .inr served

theorem mem_places_of_locateFor {counter : Counter} {available : String → Bool} {key : String}
    {ttl ttl' : Option Duration} {place : Place}
    (found : counter.locateFor available key ttl = .ok (place, ttl')) :
    place ∈ counter.places key ∧ place.isOpen available = true := by
  induction counter with
  | inProcess id config =>
    rw [locateFor] at found
    cases checked : checkTtl ttl <;> rw [checked] at found <;> cases found
    exact ⟨List.mem_singleton_self _, rfl⟩
  | shared name start defaultTtl =>
    rw [locateFor] at found
    cases checked : checkTtl ttl <;> rw [checked] at found
    · cases found
    · simp only [Except.bind] at found
      split at found <;> cases found
      exact ⟨List.mem_singleton_self _, ‹_›⟩
  | hybrid near far route fallsBack near_found far_found =>
    rw [locateFor] at found
    rcases of_routed found with found | found
    · exact (far_found found).imp_left (List.mem_append_right _)
    · exact (near_found found).imp_left (List.mem_append_left _)
  | plain inner inner_found => exact inner_found found

/-- The place that serves an increment is one of those in use, and requests reach it. -/
theorem mem_places_of_locate {counter : Counter} {available : String → Bool} {key : String}
    {ttl : Option Duration} {place : Place}
    (found : counter.locate available key = .ok (place, ttl)) :
    place ∈ counter.places key ∧ place.isOpen available = true := by
  induction counter with
  | hybrid near far route fallsBack near_found far_found =>
    rw [locate] at found
    rcases of_routed found with found | found
    · exact (far_found found).imp_left (List.mem_append_right _)
    · exact (near_found found).imp_left (List.mem_append_left _)
  | inProcess | shared | plain => exact mem_places_of_locateFor found

/-- An increment changes nothing but places in use. -/
theorem increment_elsewhere (counter : Counter) (key : String) (now : Instant) (ledger : Ledger) :
    (counter.increment key now ledger).ledger.isAvailable = ledger.isAvailable ∧
      ∀ place ∉ counter.places key,
        place.find? (counter.increment key now ledger).ledger = place.find? ledger := by
  obtain ⟨⟨available, others⟩, -, -⟩ : Raised _ now ledger _ := increment_raised counter key ledger
  refine ⟨available, fun place apart => others place fun same => ?_⟩
  cases found : counter.locate ledger.isAvailable key with
  | error failure =>
    rw [found] at same
    cases same
  | ok pair =>
    rw [found] at same
    cases same
    exact apart (mem_places_of_locate found).1

/-! ### Resets -/

theorem reset_hybrid (near far : Counter) (route : KeyRoute) (fallsBack : Bool) (key : String)
    (now : Instant) (ledger : Ledger) :
    (reset (.hybrid near far route fallsBack) key now ledger).ledger =
      (far.reset key now (near.reset key now ledger).ledger).ledger := by
  rw [reset]
  split
  · rfl
  · split <;> rfl

/-- A request that empties one place and leaves everything else as it is. -/
theorem empties_of_differs {place : Place} {after : Ledger}
    (differs : Ledger.Differs (some place) ledger after) (emptied : place.find? after = none) :
    after.isAvailable = ledger.isAvailable ∧
      (∀ other ∉ [place], other.find? after = other.find? ledger) ∧
      ∀ other ∈ [place], other.isOpen ledger.isAvailable = true → other.find? after = none := by
  refine ⟨differs.available, fun other apart => differs.find? other fun same => ?_,
    fun other used _ => ?_⟩
  · exact apart (List.mem_singleton.2 (Option.some.inj same).symm)
  · rw [List.mem_singleton.1 used, emptied]

/-- What a reset does: the places in use that requests reach are emptied. -/
theorem reset_effect (counter : Counter) (key : String) (now : Instant) (ledger : Ledger) :
    (counter.reset key now ledger).ledger.isAvailable = ledger.isAvailable ∧
      (∀ place ∉ counter.places key,
        place.find? (counter.reset key now ledger).ledger = place.find? ledger) ∧
      ∀ place ∈ counter.places key, place.isOpen ledger.isAvailable = true →
        place.find? (counter.reset key now ledger).ledger = none := by
  induction counter generalizing ledger with
  | inProcess id config =>
    have differs : Ledger.Differs (some (.inProcess id key)) ledger
        (reset (.inProcess id config) key now ledger).ledger :=
      Ledger.differs_setLocal _ fun other apart =>
        Table.find?_erase_ne _ fun same => apart (by rw [same])
    exact empties_of_differs differs (by simp [Place.find?, reset, LocalCounter.reset])
  | shared name start ttl =>
    have effect (at? : Option Place) (others : ∀ other,
        at? ≠ some (.inStore name other) → ((ledger.store name).delete (start ++ key)).2.counts.find?
          other = (ledger.store name).counts.find? other) :
        Ledger.Differs at? ledger (reset (.shared name start ttl) key now ledger).ledger := by
      refine Ledger.differs_setStore at? ?_ others
      rw [CounterStore.delete, CounterStore.request]
      split <;> rfl
    -- a store out of reach keeps its counts, but then its place is not open
    cases reaches : (ledger.store name).available with
    | true =>
      have differs := effect (some (.inStore name (start ++ key))) fun other apart => by
        simp only [CounterStore.delete, CounterStore.request, reaches, if_true]
        exact Table.find?_erase_ne _ fun same => apart (by rw [same])
      refine empties_of_differs differs ?_
      simp [Place.find?, reset, served, CounterStore.delete, CounterStore.request, reaches]
    | false =>
      have differs := effect none fun other _ => by
        simp only [CounterStore.delete, CounterStore.request, reaches]
        rfl
      refine ⟨differs.available, fun place _ => differs.find? place nofun, fun place used opened => ?_⟩
      cases List.mem_singleton.1 used
      exact absurd (reaches.symm.trans opened) nofun
  | hybrid near far route fallsBack near_reset far_reset =>
    obtain ⟨available, others, emptied⟩ := near_reset ledger
    obtain ⟨available', others', emptied'⟩ := far_reset (near.reset key now ledger).ledger
    rw [reset_hybrid]
    refine ⟨available'.trans available, fun place apart => ?_, fun place used opened => ?_⟩
    · obtain ⟨notNear, notFar⟩ := not_or.1 (mt List.mem_append.2 apart)
      exact (others' place notFar).trans (others place notNear)
    -- the far counter is reset last, and leaves alone what only the near one uses
    · by_cases usedFar : place ∈ far.places key
      · exact emptied' place usedFar (available ▸ opened)
      · rw [others' place usedFar]
        exact emptied place ((List.mem_append.1 used).resolve_right usedFar) opened
  | plain inner inner_reset => exact inner_reset ledger

end Counter

/-! ## Counts that do not expire -/

namespace Place

/-- A place keeps a count that does not expire; nothing is kept for zero, or zero itself. -/
def Holds (place : Place) (count : Nat) (ledger : Ledger) : Prop :=
  place.find? ledger = some ((count : Int), none) ∨ count = 0 ∧ place.find? ledger = none

variable {place : Place} {count : Nat} {before after : Ledger}

theorem Holds.of_same (holds : place.Holds count before)
    (same : place.find? after = place.find? before) : place.Holds count after := by
  rwa [Holds, same]

theorem next_of_holds (holds : place.Holds count before) (small : count < 2 ^ 32)
    (now : Instant) : place.next now before = count + 1 := by
  have roomy : (2 : Int) ^ 32 ≤ place.greatest := by
    cases place <;> simp only [greatest] <;> decide
  rcases holds with kept | ⟨rfl, kept⟩
  · rw [next, kept]
    simp only [isExpired, Option.any_none, Bool.false_eq_true, if_false]
    omega
  · rw [next, kept]
    simp only
    omega

/-- Sweepers leave what does not expire, and put nothing where nothing is kept. -/
theorem find?_elapse (permanent : ∀ kept ∈ place.find? before, kept.2 = none)
    (earlier later : Instant) : place.find? (before.elapse earlier later) = place.find? before := by
  cases place with
  | inStore name key => rfl
  | inProcess id key =>
    simp only [find?, Ledger.localCounter_elapse] at permanent ⊢
    rw [LocalCounter.elapse]
    split
    · rfl
    · split
      · rw [LocalCounter.sweep]
        cases found : (before.localCounter id).counts.find? key with
        | none => rw [Table.find?_keepWhere_of_none _ found]
        | some count =>
          rw [found] at permanent
          have never : count.expiresAt = none := permanent _ rfl
          rw [Table.find?_keepWhere_of_some found]
          rw [isExpired, never]
          rfl
      · rfl

theorem Holds.elapse (holds : place.Holds count before) (earlier later : Instant) :
    place.Holds count (before.elapse earlier later) := by
  refine holds.of_same (find?_elapse (fun kept found => ?_) earlier later)
  rcases holds with present | ⟨-, absent⟩
  · rw [present] at found
    exact congrArg Prod.snd (Option.some.inj found).symm
  · rw [absent] at found
    cases found

end Place

namespace Counter

variable {counter : Counter} {key : String} {ttl : Option Duration} {place : Place} {count : Nat}
  {ledger : Ledger}

/-- An increment of a count that does not expire gives the next number, and it is kept. -/
theorem increment_of_holds (found : counter.locate ledger.isAvailable key = .ok (place, none))
    (holds : place.Holds count ledger) (small : count < 2 ^ 32) (now : Instant) :
    (counter.increment key now ledger).answer = .ok (count + 1) ∧
      place.Holds (count + 1) (counter.increment key now ledger).ledger := by
  obtain ⟨-, answer, kept⟩ : Raised _ now ledger _ := increment_raised counter key ledger
  have next := Place.next_of_holds holds small now
  constructor
  · rw [answer, found]
    simp only [Except.map, next]
    rfl
  · left
    rw [kept place none found, next]
    rfl

/-- A reset leaves no count. -/
theorem reset_holds (found : counter.locate ledger.isAvailable key = .ok (place, ttl))
    (now : Instant) : place.Holds 0 (counter.reset key now ledger).ledger := by
  obtain ⟨used, opened⟩ := mem_places_of_locate found
  exact .inr ⟨rfl, (counter.reset_effect key now ledger).2.2 place used opened⟩

end Counter

/-! ## Values that are not negative -/

/-- No negative value is kept at some places. A store keeps whatever value is put into it. -/
def Ledger.NonNegative (ledger : Ledger) (places : List Place) : Prop :=
  ∀ place ∈ places, ∀ kept ∈ place.find? ledger, 0 ≤ kept.1

namespace Ledger.NonNegative

variable {ledger later : Ledger} {places : List Place}

theorem of_kept_or_removed (sound : ledger.NonNegative places)
    (same : ∀ place : Place,
      place.find? later = place.find? ledger ∨ place.find? later = none) :
    later.NonNegative places := by
  intro place member kept found
  rcases same place with same | removed
  · exact sound place member kept (same ▸ found)
  · rw [removed] at found
    cases found

/-- A counter in the process keeps no negative value. -/
theorem nonneg_inProcess {id key : String} {kept : Int × Option Instant}
    (found : kept ∈ (Place.inProcess id key).find? ledger) : 0 ≤ kept.1 := by
  obtain ⟨count, -, rfl⟩ := Option.map_eq_some_iff.1 found
  exact Int.natCast_nonneg count.value

theorem elapse (sound : ledger.NonNegative places) (before after : Instant) :
    (ledger.elapse before after).NonNegative places := by
  intro place member kept found
  cases place with
  | inProcess id key => exact nonneg_inProcess found
  | inStore name key => exact sound (.inStore name key) member kept found

/-- The value after an increment is positive. -/
theorem next_pos (sound : ledger.NonNegative places) {place : Place} (member : place ∈ places)
    (now : Instant) : 1 ≤ place.next now ledger := by
  have roomy : 1 ≤ place.greatest := by
    cases place <;> simp only [Place.greatest] <;> decide
  rw [Place.next]
  cases found : place.find? ledger with
  | none =>
    dsimp only
    omega
  | some kept =>
    have positive := sound place member kept found
    dsimp only
    split <;> omega

theorem increment (sound : ledger.NonNegative places) (counter : Counter) (key : String)
    (now : Instant) : (counter.increment key now ledger).ledger.NonNegative places := by
  obtain ⟨⟨-, others⟩, -, raised⟩ : Counter.Raised _ now ledger _ :=
    Counter.increment_raised counter key ledger
  intro place member kept found
  by_cases here : ((counter.locate ledger.isAvailable key).toOption.map (·.1)) = some place
  · obtain ⟨⟨located, ttl⟩, served, rfl⟩ := Option.map_eq_some_iff.1 here
    have value := raised located ttl (by
      cases answer : counter.locate ledger.isAvailable key <;> rw [answer] at served <;>
        cases served
      rfl)
    cases value.symm.trans found
    exact Int.le_trans (Int.zero_le_ofNat 1) (sound.next_pos member now)
  · exact sound place member kept (others place here ▸ found)

/-- A count that is served is positive. -/
theorem one_le_count {counter : Counter} {key : String} {now : Instant} {count : Nat}
    (sound : ledger.NonNegative (counter.places key))
    (served : (counter.increment key now ledger).answer = .ok count) : 1 ≤ count := by
  obtain ⟨-, answer, -⟩ : Counter.Raised _ now ledger _ :=
    Counter.increment_raised counter key ledger
  rw [answer] at served
  cases located : counter.locate ledger.isAvailable key with
  | error failure =>
    rw [located] at served
    cases served
  | ok found =>
    rw [located] at served
    cases served
    exact Int.toNat_le_toNat (sound.next_pos (Counter.mem_places_of_locate located).1 now)

/-- A reset removes values, or leaves them. -/
theorem reset (sound : ledger.NonNegative places) (counter : Counter) (key : String)
    (now : Instant) : (counter.reset key now ledger).ledger.NonNegative places := by
  induction counter generalizing ledger with
  | hybrid near far route fallsBack near_reset far_reset =>
    rw [Counter.reset_hybrid]
    exact far_reset (near_reset sound)
  | plain inner inner_reset => exact inner_reset sound
  | inProcess id config =>
    obtain ⟨-, others, removed⟩ := Counter.reset_effect (.inProcess id config) key now ledger
    refine sound.of_kept_or_removed fun place => ?_
    by_cases used : place ∈ Counter.places key (.inProcess id config)
    · cases List.mem_singleton.1 used
      exact .inr (removed _ used rfl)
    · exact .inl (others place used)
  | shared name start ttl =>
    obtain ⟨-, others, removed⟩ := Counter.reset_effect (.shared name start ttl) key now ledger
    refine sound.of_kept_or_removed fun place => ?_
    by_cases used : place ∈ Counter.places key (.shared name start ttl)
    · cases List.mem_singleton.1 used
      cases reaches : ledger.isAvailable name with
      | true => exact .inr (removed _ used reaches)
      | false =>
        have missed : (ledger.store name).available = false := reaches
        refine .inl ?_
        simp [Place.find?, Counter.reset, Counter.served, CounterStore.delete,
          CounterStore.request, missed]
    · exact .inl (others place used)

end Ledger.NonNegative

end Resilience
