import Resilience.Proofs.Counter.Chains
import Resilience.Proofs.Counter.Home

/-!
# Counts that still hold

An expired count stays where it is until a sweeper or the next increment of its key takes it away,
and no request can tell whether that has happened. So all that the requests for a key depend on is
what still holds at its place, and whether they reach the place. For a counter in the process or in
a store, which counts every key at one place only, this part of the ledger is changed by the
requests for the key and by nothing else.

## Main definitions

* `Place.live?` — what is kept at a place and has not expired
* `Ledger.IsSound` — in the process every key occurs once
* `Counter.isDirect` — counters that are not composed of others
* `Counter.sight` — what the requests for a key depend on

## Main statements

* `Place.live?_elapse` — sweepers take away nothing that holds
* `Counter.increment_of_sight`, `Counter.sight_reset` — requests depend on the sight of their key
-/

namespace Resilience

namespace Place

/-- What is kept at a place and has not expired: a value and its expiry. -/
def live? (place : Place) (now : Instant) (ledger : Ledger) : Option (Int × Option Instant) :=
  (place.find? ledger).filter fun kept => !isExpired kept.2 now

variable {place : Place} {ledger : Ledger} {now later : Instant}

/-- The next increment counts on from what still holds. -/
theorem next_eq_live? (place : Place) (now : Instant) (ledger : Ledger) :
    place.next now ledger =
      min (((place.live? now ledger).map (·.1)).getD 0 + 1) place.greatest := by
  rw [next, live?]
  cases place.find? ledger with
  | none => rfl
  | some kept =>
    dsimp only
    rw [Option.filter_some]
    cases isExpired kept.2 now <;> rfl

/-- What holds later is what holds now, unless it expires in between. -/
theorem live?_of_le (passed : now ≤ later) :
    place.live? later ledger =
      (place.live? now ledger).filter fun kept => !isExpired kept.2 later := by
  rw [live?, live?]
  cases place.find? ledger with
  | none => rfl
  | some kept =>
    cases expired : isExpired kept.2 now with
    | false => rw [Option.filter_some, Option.filter_some, expired]; rfl
    | true =>
      rw [Option.filter_some, Option.filter_some, expired, isExpired_mono expired passed]
      rfl

end Place

/-- What a store shows of a key depends on its counts only. -/
theorem CounterStore.live?_congr {store other : CounterStore} (same : store.counts = other.counts)
    (key : String) (now : Instant) : store.live? key now = other.live? key now := by
  rw [live?, same, live?]

/-- In the process every key occurs once. -/
def Ledger.IsSound (ledger : Ledger) : Prop :=
  ∀ id, (ledger.localCounter id).counts.keys.Nodup

namespace Ledger.IsSound

variable {ledger : Ledger}

theorem setLocal (sound : ledger.IsSound) {id : String} {counter : LocalCounter}
    (distinct : counter.counts.keys.Nodup) : (ledger.setLocal id counter).IsSound := by
  intro other
  by_cases same : other = id
  · subst same
    rw [localCounter_setLocal_self]
    exact distinct
  · rw [localCounter_setLocal_ne _ same]
    exact sound other

theorem setStore (sound : ledger.IsSound) (name : String) (store : CounterStore) :
    (ledger.setStore name store).IsSound := sound

theorem elapse (sound : ledger.IsSound) (before after : Instant) :
    (ledger.elapse before after).IsSound := by
  intro id
  rw [localCounter_elapse, LocalCounter.elapse]
  split
  · exact sound id
  · split
    · exact Table.nodup_keys_keepWhere (sound id) _
    · exact sound id

theorem orElse {α : Type} {key operation : String} {far : Counter} {fallsBack : Bool}
    {final : Failure → Bool} {first : Served α} {second : Ledger → Served α}
    (sound : first.ledger.IsSound)
    (goesOn : ∀ between : Ledger, between.IsSound → (second between).ledger.IsSound) :
    (Counter.orElse key operation far fallsBack final first second).ledger.IsSound := by
  rw [Counter.orElse]
  split
  · exact sound
  · split
    · exact sound
    · exact goesOn _ sound

theorem incrementFor (sound : ledger.IsSound) (counter : Counter) (key : String)
    (ttl : Option Duration) (now : Instant) :
    (counter.incrementFor key ttl now ledger).ledger.IsSound := by
  induction counter generalizing ledger with
  | inProcess id config =>
    rw [Counter.incrementFor]
    split
    · exact sound
    · exact sound.setLocal (Table.nodup_keys_insert (sound id) _ _)
  | shared name start defaultTtl =>
    rw [Counter.incrementFor]
    split
    · exact sound
    · exact sound.setStore _ _
  | hybrid near far route fallsBack near_sound far_sound =>
    rw [Counter.incrementFor]
    split
    · exact orElse (far_sound sound) fun _ between => near_sound between
    · exact near_sound sound
  | plain inner inner_sound => exact inner_sound sound

theorem increment (sound : ledger.IsSound) (counter : Counter) (key : String) (now : Instant) :
    (counter.increment key now ledger).ledger.IsSound := by
  induction counter generalizing ledger with
  | hybrid near far route fallsBack near_sound far_sound =>
    rw [Counter.increment]
    split
    · exact orElse (far_sound sound) fun _ between => near_sound between
    · exact near_sound sound
  | inProcess | shared | plain => exact sound.incrementFor _ key _ now

theorem reset (sound : ledger.IsSound) (counter : Counter) (key : String) (now : Instant) :
    (counter.reset key now ledger).ledger.IsSound := by
  induction counter generalizing ledger with
  | inProcess id config => exact sound.setLocal (Table.nodup_keys_erase (sound id) key)
  | shared name start ttl => exact sound.setStore _ _
  | hybrid near far route fallsBack near_sound far_sound =>
    rw [Counter.reset_hybrid]
    exact far_sound (near_sound sound)
  | plain inner inner_sound => exact inner_sound sound

end Ledger.IsSound

namespace Place

variable {id : String} {first second : Ledger} {tick now : Instant}

/-- A sweep takes away nothing that holds then or later. -/
theorem live?_of_sweep (distinct : (first.localCounter id).counts.keys.Nodup)
    (swept : second.localCounter id = (first.localCounter id).sweep tick) (passed : tick ≤ now)
    (key : String) :
    (Place.inProcess id key).live? now second = (Place.inProcess id key).live? now first := by
  simp only [live?, find?, swept, LocalCounter.sweep]
  cases found : (first.localCounter id).counts.find? key with
  | none => rw [Table.find?_keepWhere_of_none _ found]
  | some count =>
    cases expired : isExpired count.expiresAt tick with
    | false => rw [Table.find?_keepWhere_of_some found (by simp [expired])]
    | true =>
      -- swept away, but it would not hold any more either
      rw [Table.find?_keepWhere_of_dropped distinct found (by simp [expired]),
        Option.map_some, Option.filter_some, isExpired_mono expired passed]
      rfl

/-- A sweeper takes away nothing that holds. -/
theorem live?_inProcess_elapse (distinct : (first.localCounter id).counts.keys.Nodup)
    (before : Instant) (after : Nat) (key : String) :
    (Place.inProcess id key).live? (Instant.ofMillis after)
        (first.elapse before (Instant.ofMillis after)) =
      (Place.inProcess id key).live? (Instant.ofMillis after) first := by
  have elapsed := first.localCounter_elapse before (Instant.ofMillis after) id
  rw [LocalCounter.elapse] at elapsed
  split at elapsed
  · simp only [live?, find?, elapsed]
  · rename_i tick last
    obtain ⟨sweeper, -, ticked⟩ := Option.bind_eq_some_iff.1 last
    split at elapsed
    · exact live?_of_sweep distinct elapsed (Sweeper.lastTick?_le ticked) key
    · simp only [live?, find?, elapsed]

/-- Sweepers take away nothing that holds. -/
theorem live?_elapse {ledger : Ledger} (sound : ledger.IsSound) (place : Place)
    (before : Instant) (after : Nat) :
    place.live? (Instant.ofMillis after) (ledger.elapse before (Instant.ofMillis after)) =
      place.live? (Instant.ofMillis after) ledger := by
  cases place with
  | inStore name key => rfl
  | inProcess id key => exact live?_inProcess_elapse (sound id) before after key

end Place

/-! ## Counters with one place for each key -/

namespace Counter

/-- Whether a counter keeps its counts in the process or in a store, and is not composed of other
counters. -/
def isDirect : Counter → Bool
  | inProcess .. | shared .. => true
  | hybrid .. | plain _ => false

/-- What the requests for a key depend on: whether they reach its place, and what holds there. -/
def sight (counter : Counter) (key : String) (now : Instant) (ledger : Ledger) :
    Bool × Option (Int × Option Instant) :=
  ((counter.home key).1.isOpen ledger.isAvailable, (counter.home key).1.live? now ledger)

variable {counter : Counter} {key other : String} {now later : Instant}
  {ledger first second : Ledger}

theorem places_of_isDirect (direct : counter.isDirect = true) (key : String) :
    counter.places key = [(counter.home key).1] := by
  cases counter with
  | inProcess | shared => rfl
  | hybrid | plain => cases direct

/-- Different keys have different places. -/
theorem home_notMem_places (direct : counter.isDirect = true) (apart : other ≠ key) :
    (counter.home key).1 ∉ counter.places other := by
  rw [places_of_isDirect direct, List.mem_singleton]
  cases counter with
  | inProcess id config =>
    intro same
    exact apart (Place.inProcess.inj same).2.symm
  | shared name start ttl =>
    intro same
    exact apart (String.append_right_inj start |>.1 (Place.inStore.inj same).2).symm
  | hybrid | plain => cases direct

/-- An increment is served at home, unless its time to live is refused or its store is down. -/
theorem locate_of_isDirect (direct : counter.isDirect = true) (available : String → Bool)
    (key : String) :
    counter.locate available key = (checkTtl (counter.home key).2).bind fun _ =>
      if (counter.home key).1.isOpen available then .ok (counter.home key)
      else .error CounterStore.outage := by
  cases counter with
  | inProcess id config =>
    simp only [locate, locateFor, defaultTtl, home]
    cases checkTtl config.defaultTtl <;> rfl
  | shared => rfl
  | hybrid | plain => cases direct

/-- A request that does not reach its place changes nothing there. -/
theorem find?_reset_of_not_isOpen (direct : counter.isDirect = true)
    (missed : (counter.home key).1.isOpen ledger.isAvailable = false) (now : Instant) :
    (counter.home key).1.find? (counter.reset key now ledger).ledger =
      (counter.home key).1.find? ledger := by
  cases counter with
  | inProcess => cases missed
  | shared name start ttl =>
    have down : (ledger.store name).available = false := missed
    simp [home, Place.find?, reset, served, CounterStore.delete, CounterStore.request, down]
  | hybrid | plain => cases direct

/-- Counts at other places are out of sight. -/
theorem sight_of_elsewhere (available : second.isAvailable = first.isAvailable)
    (same : (counter.home key).1.find? second = (counter.home key).1.find? first) :
    counter.sight key now second = counter.sight key now first := by
  rw [sight, sight, available, Place.live?, same, Place.live?]

/-- What can be seen later depends on what can be seen now. -/
theorem sight_of_le (same : counter.sight key now first = counter.sight key now second)
    (passed : now ≤ later) : counter.sight key later first = counter.sight key later second := by
  obtain ⟨reaches, live⟩ := Prod.mk.inj same
  rw [sight, sight, reaches, Place.live?_of_le passed, live, ← Place.live?_of_le passed]

theorem sight_elapse (sound : ledger.IsSound) (before : Instant) (after : Nat) :
    counter.sight key (Instant.ofMillis after) (ledger.elapse before (Instant.ofMillis after)) =
      counter.sight key (Instant.ofMillis after) ledger := by
  rw [sight, sight, Place.live?_elapse sound]
  rfl

/-- An increment depends on the sight of its key: the answer, and what can be seen afterwards. -/
theorem increment_of_sight (direct : counter.isDirect = true)
    (same : counter.sight key now first = counter.sight key now second) :
    (counter.increment key now first).answer = (counter.increment key now second).answer ∧
      counter.sight key now (counter.increment key now first).ledger =
        counter.sight key now (counter.increment key now second).ledger := by
  obtain ⟨reaches, live⟩ := Prod.mk.inj same
  obtain ⟨firstDiffers, firstAnswer, firstKept⟩ : Raised _ now first _ :=
    increment_raised counter key first
  obtain ⟨secondDiffers, secondAnswer, secondKept⟩ : Raised _ now second _ :=
    increment_raised counter key second
  have located : counter.locate first.isAvailable key = counter.locate second.isAvailable key := by
    rw [locate_of_isDirect direct, reaches, ← locate_of_isDirect direct]
  have next : (counter.home key).1.next now first = (counter.home key).1.next now second := by
    rw [Place.next_eq_live?, live, ← Place.next_eq_live?]
  rw [located] at firstDiffers firstAnswer firstKept
  have place := locate_of_isDirect direct second.isAvailable key
  rw [sight, sight, firstDiffers.available, secondDiffers.available, reaches]
  cases found : counter.locate second.isAvailable key with
  | error failure =>
    rw [found] at firstDiffers firstAnswer secondDiffers secondAnswer
    have firstSame := firstDiffers.find? (counter.home key).1 (Option.some_ne_none _).symm
    have secondSame := secondDiffers.find? (counter.home key).1 (Option.some_ne_none _).symm
    refine ⟨firstAnswer.trans secondAnswer.symm, ?_⟩
    rw [Place.live?, Place.live?, firstSame, secondSame, ← Place.live?, ← Place.live?, live]
  | ok served =>
    -- whatever serves the increment does so at home
    have athome : served = counter.home key := by
      rw [found] at place
      cases checked : checkTtl (counter.home key).2 with
      | error failure =>
        rw [checked] at place
        cases place
      | ok _ =>
        rw [checked] at place
        simp only [Except.bind] at place
        split at place <;> cases place
        rfl
    subst athome
    rw [found] at firstAnswer secondAnswer
    constructor
    · rw [firstAnswer, secondAnswer]
      exact congrArg (fun value : Int => Except.ok value.toNat) next
    · rw [Place.live?, Place.live?, firstKept _ _ found, secondKept _ _ found, next]

/-- What can be seen after a reset depends on what could be seen before. -/
theorem sight_reset (direct : counter.isDirect = true)
    (same : counter.sight key now first = counter.sight key now second) :
    counter.sight key now (counter.reset key now first).ledger =
      counter.sight key now (counter.reset key now second).ledger := by
  obtain ⟨reaches, live⟩ := Prod.mk.inj same
  obtain ⟨firstAvailable, -, firstEmptied⟩ := counter.reset_effect key now first
  obtain ⟨secondAvailable, -, secondEmptied⟩ := counter.reset_effect key now second
  have used := counter.home_mem_places key
  rw [sight, sight, firstAvailable, secondAvailable, reaches, Place.live?, Place.live?]
  -- a reset that reaches the place empties it, and one that does not leaves it alone
  cases isOpen : (counter.home key).1.isOpen second.isAvailable with
  | true => rw [firstEmptied _ used (reaches.trans isOpen), secondEmptied _ used isOpen]
  | false =>
    rw [find?_reset_of_not_isOpen direct (reaches.trans isOpen),
      find?_reset_of_not_isOpen direct isOpen, ← Place.live?, ← Place.live?, live]

end Counter

end Resilience
