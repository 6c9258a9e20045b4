import Resilience.Proofs.Counter.Places

/-!
# Available counters

A counter is available for a key if requests reach all of its places for the key. The route then
tells at which place the key is counted, its home: the increments and the answers are about that
place, and a reset leaves nothing anywhere.

## Main definitions

* `Counter.home` — the place where a key is counted, with the time to live it gets there
* `Counter.IsAvailable` — requests reach all places of a key

## Main statements

* `Counter.increment_of_isAvailable`, `count_of_isAvailable` — a count at home that does not expire
* `Counter.isEmpty_reset`, `contains_of_isEmpty` — a reset leaves nothing
-/

namespace Resilience

namespace Counter

/-- The place where an available counter counts a key, with the time to live of its increments. -/
def home (key : String) : Counter → Place × Option Duration
  | inProcess id config => (.inProcess id key, config.defaultTtl)
  | shared name start ttl => (.inStore name (start ++ key), ttl)
  | hybrid near far route _ => if route.isShared key then far.home key else near.home key
  | plain inner => ((inner.home key).1, none)

/-- Requests reach all places that a counter uses for a key. -/
def IsAvailable (counter : Counter) (key : String) (ledger : Ledger) : Prop :=
  ∀ place ∈ counter.places key, place.isOpen ledger.isAvailable = true

instance (counter : Counter) (key : String) (ledger : Ledger) :
    Decidable (counter.IsAvailable key ledger) :=
  inferInstanceAs (Decidable (∀ place ∈ counter.places key, place.isOpen ledger.isAvailable = true))

/-- Nothing is kept for a key. -/
def IsEmpty (counter : Counter) (key : String) (ledger : Ledger) : Prop :=
  ∀ place ∈ counter.places key, place.find? ledger = none

variable {counter : Counter} {key : String} {ledger later : Ledger}

theorem home_mem_places (counter : Counter) (key : String) :
    (counter.home key).1 ∈ counter.places key := by
  induction counter with
  | inProcess | shared => exact List.mem_singleton_self _
  | hybrid near far route fallsBack near_mem far_mem =>
    rw [home, places]
    split
    · exact List.mem_append_right _ far_mem
    · exact List.mem_append_left _ near_mem
  | plain inner inner_mem => exact inner_mem

namespace IsAvailable

theorem of_same (available : counter.IsAvailable key ledger)
    (same : later.isAvailable = ledger.isAvailable) : counter.IsAvailable key later := by
  intro place used
  rw [same]
  exact available place used

variable {here there : Counter} {route : KeyRoute} {fallsBack : Bool}

theorem near (available : (hybrid here there route fallsBack).IsAvailable key ledger) :
    here.IsAvailable key ledger :=
  fun place used => available place (List.mem_append_left _ used)

theorem far (available : (hybrid here there route fallsBack).IsAvailable key ledger) :
    there.IsAvailable key ledger :=
  fun place used => available place (List.mem_append_right _ used)

theorem store {name start : String} {ttl : Option Duration}
    (available : (shared name start ttl).IsAvailable key ledger) :
    (ledger.store name).available = true :=
  available (.inStore name (start ++ key)) (List.mem_singleton_self _)

end IsAvailable

/-! ## Increments -/

theorem locateFor_none (available : counter.IsAvailable key ledger) :
    counter.locateFor ledger.isAvailable key none = .ok ((counter.home key).1, none) := by
  induction counter with
  | inProcess => rfl
  | shared name start ttl => exact if_pos available.store
  | hybrid near far route fallsBack near_located far_located =>
    rw [locateFor, home]
    split
    · rw [far_located available.far]
      rfl
    · exact near_located available.near
  | plain inner inner_located => exact inner_located available

/-- Without a time to live a key is counted at its home. -/
theorem locate_home (available : counter.IsAvailable key ledger)
    (permanent : (counter.home key).2 = none) :
    counter.locate ledger.isAvailable key = .ok ((counter.home key).1, none) := by
  induction counter with
  -- only a hybrid counter leaves the time to live to the side that serves
  | inProcess id config =>
    rw [locate, defaultTtl, show config.defaultTtl = none from permanent]
    · exact locateFor_none available
    · exact fun _ _ _ _ => Counter.noConfusion
  | shared name start ttl =>
    rw [locate, defaultTtl, show ttl = none from permanent]
    · exact locateFor_none available
    · exact fun _ _ _ _ => Counter.noConfusion
  | hybrid near far route fallsBack near_located far_located =>
    rw [home] at permanent
    rw [locate, home]
    split at permanent
    · rename_i isShared
      rw [if_pos isShared, if_pos isShared, far_located available.far permanent]
      rfl
    · rename_i isNear
      rw [if_neg isNear, if_neg isNear]
      exact near_located available.near permanent
  | plain inner => exact locateFor_none available

/-- The value after an increment of a value that does not expire. -/
theorem next_of_permanent {place : Place} {value : Option Int} (now : Instant)
    (kept : place.find? ledger = value.map (·, none)) :
    place.next now ledger = min (value.getD 0 + 1) place.greatest := by
  rw [Place.next, kept]
  cases value <;> rfl

/-- An increment counts on from what is kept at home. -/
theorem increment_of_isAvailable {value : Option Int} (available : counter.IsAvailable key ledger)
    (permanent : (counter.home key).2 = none)
    (kept : (counter.home key).1.find? ledger = value.map (·, none)) (now : Instant) :
    (counter.increment key now ledger).answer =
        .ok (min (value.getD 0 + 1) (counter.home key).1.greatest).toNat ∧
      (counter.home key).1.find? (counter.increment key now ledger).ledger =
        some (min (value.getD 0 + 1) (counter.home key).1.greatest, none) := by
  obtain ⟨-, answer, raised⟩ : Raised _ now ledger _ := increment_raised counter key ledger
  rw [locate_home available permanent] at answer raised
  rw [answer, raised _ _ rfl, ← next_of_permanent now kept]
  exact ⟨rfl, rfl⟩

/-! ## Answers -/

/-- The count of a key is what is kept at its home; a negative value counts as zero. -/
theorem count_of_isAvailable {value : Option Int} (available : counter.IsAvailable key ledger)
    (kept : (counter.home key).1.find? ledger = value.map (·, none)) (now : Instant) :
    (counter.count key now ledger).answer = .ok (value.getD 0).toNat := by
  induction counter with
  | inProcess id config =>
    rw [home, Place.find?] at kept
    rw [count, LocalCounter.count, LocalCounter.live?]
    cases found : (ledger.localCounter id).counts.find? key with
    | none =>
      rw [found] at kept
      cases value <;> cases kept
      rfl
    | some stored =>
      rw [found] at kept
      obtain ⟨_, rfl, same⟩ := Option.map_eq_some_iff.1 kept.symm
      obtain ⟨rfl, permanent⟩ := Prod.mk.inj same
      simp [isExpired, ← permanent]
  | shared name start ttl =>
    rw [home, Place.find?] at kept
    simp only [count, served, CounterStore.get, CounterStore.request, available.store, if_true,
      CounterStore.live?]
    cases found : (ledger.store name).counts.find? (start ++ key) with
    | none =>
      rw [found] at kept
      cases value <;> cases kept
      rfl
    | some stored =>
      rw [found] at kept
      obtain ⟨_, rfl, same⟩ := Option.map_eq_some_iff.1 kept.symm
      obtain ⟨rfl, permanent⟩ := Prod.mk.inj same
      simp only [isExpired, ← permanent]
      rfl
  | hybrid near far route fallsBack near_counted far_counted =>
    rw [home] at kept
    rw [count]
    split
    -- an available far counter answers, so that it does not matter whether there is a fallback
    · rename_i isShared
      rw [if_pos isShared] at kept
      have answered := far_counted available.far kept
      simp only [orElse, answered]
    · rename_i isNear
      rw [if_neg isNear] at kept
      exact near_counted available.near kept
  | plain inner inner_counted => exact inner_counted available kept

/-- Where nothing is kept, no count of the key holds. Looking for one changes no count. -/
theorem contains_of_isEmpty (available : counter.IsAvailable key ledger)
    (empty : counter.IsEmpty key ledger) (now : Instant) :
    (counter.contains key now ledger).answer = .ok false ∧
      Ledger.Differs none ledger (counter.contains key now ledger).ledger := by
  induction counter generalizing ledger with
  | inProcess id config =>
    have absent : (ledger.localCounter id).counts.find? key = none :=
      Option.map_eq_none_iff.1 (empty (.inProcess id key) (List.mem_singleton_self _))
    refine ⟨?_, .refl none ledger⟩
    rw [contains, LocalCounter.contains, LocalCounter.live?, absent]
    rfl
  | shared name start ttl =>
    have absent : (ledger.store name).counts.find? (start ++ key) = none :=
      Option.map_eq_none_iff.1 (empty (.inStore name (start ++ key)) (List.mem_singleton_self _))
    simp only [contains, served, CounterStore.contains, CounterStore.request, available.store,
      if_true, CounterStore.live?, absent]
    exact ⟨rfl, Ledger.differs_setStore none available.store.symm fun _ _ => rfl⟩
  | hybrid near far route fallsBack near_contains far_contains =>
    -- both sides are asked, and asking the near one leaves the far one as it is
    obtain ⟨first, same⟩ := near_contains available.near
      fun place used => empty place (List.mem_append_left _ used)
    have emptyFar : far.IsEmpty key (near.contains key now ledger).ledger := by
      intro place used
      rw [same.find? place (Option.some_ne_none place).symm]
      exact empty place (List.mem_append_right _ used)
    obtain ⟨second, still⟩ := far_contains (available.far.of_same same.available) emptyFar
    simp only [contains, first, second, true_and]
    exact ⟨still.available.trans same.available, fun place apart =>
      (still.find? place apart).trans (same.find? place apart)⟩
  | plain inner inner_contains => exact inner_contains available empty

/-! ## Resets -/

/-- A reset leaves nothing. -/
theorem isEmpty_reset (available : counter.IsAvailable key ledger) (now : Instant) :
    counter.IsEmpty key (counter.reset key now ledger).ledger := fun place used =>
  (counter.reset_effect key now ledger).2.2 place used (available place used)

end Counter

end Resilience
