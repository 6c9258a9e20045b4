import Resilience.Proofs.Counter.Histories
import Resilience.Proofs.Counter.Places
import Mathlib.Data.List.Basic

/-!
# Chains of increments

What a counter in the process answers for a key is told by the increments of the key since its last
reset. Each of them sets the instant from which its count no longer holds; one that comes too late
for the count before it begins a new chain. The count is the length of the latest chain, as long as
its last increment holds.

Sweeps remove only what has expired, so they change no answer: neither those of the sweeper,
whatever its interval, nor those that somebody asks for. Requests about other keys change none
either.

## Main definitions

* `CountRequest`, `Ledger.afterCounts` — what is asked of a counter in the process, and what becomes
  of the ledger
* `Increment`, `increments` — the increments of a key since its last reset
* `chain`, `chainCount` — the latest chain, and its length while it holds
* `LocalCounter.Follows` — a counter that shows the chains of all keys
* `Sweeper.latest` — the latest tick up to an instant, or the start

## Main statements

* `LocalCounter.live?_sweep` — sweeps change no answer
* `Ledger.perform_cases` — everything that a request can do
* `Ledger.follows_afterCounts` — a counter shows the chains of its history
* `Ledger.answers_of_chains` — the answers of a counter in the process
-/

namespace Resilience

/-- What is asked of a counter in the process. -/
inductive CountRequest where
  /-- An increment with the default time to live. -/
  | increment (key : String)
  | incrementFor (key : String) (ttl : Option Duration)
  | count (key : String)
  | contains (key : String)
  | reset (key : String)
  /-- A sweep that somebody asks for. -/
  | purge
  /-- The end of the sweeper. -/
  | close
  /-- Time passes, and nothing is asked. -/
  | wait
  deriving DecidableEq

/-- Whether a time to live is short enough. -/
def isAccepted (ttl : Option Duration) : Bool := ttl.all (· ≤ greatestTtl)

namespace CountRequest

/-- The time to live of an increment of a key, unless it is refused. -/
def ttlFor? (config : LocalConfig) (key : String) : CountRequest → Option (Option Duration)
  | increment other =>
    if other = key ∧ isAccepted config.defaultTtl then some config.defaultTtl else none
  | incrementFor other ttl => if other = key ∧ isAccepted ttl then some ttl else none
  | count _ | contains _ | reset _ | purge | close | wait => none

def isIncrement : CountRequest → Bool
  | increment _ | incrementFor .. => true
  | count _ | contains _ | reset _ | purge | close | wait => false

/-- Whether a request changes what is kept for a key. -/
def concerns (key : String) : CountRequest → Bool
  | increment other | incrementFor other _ | reset other => other = key
  | count _ | contains _ | purge | close | wait => false

/-- What a request does to the ledger. -/
def perform (id : String) (config : LocalConfig) (now : Instant) (ledger : Ledger) :
    CountRequest → Ledger
  | increment key => ((Counter.inProcess id config).increment key now ledger).ledger
  | incrementFor key ttl => ((Counter.inProcess id config).incrementFor key ttl now ledger).ledger
  | count key => ((Counter.inProcess id config).count key now ledger).ledger
  | contains key => ((Counter.inProcess id config).contains key now ledger).ledger
  | reset key => ((Counter.inProcess id config).reset key now ledger).ledger
  | purge => ledger.setLocal id ((ledger.localCounter id).purge now).2
  | close => ((Counter.inProcess id config).close ledger).ledger
  | wait => ledger

end CountRequest

/-- The ledger after a history; the sweepers do their work while time passes. -/
def Ledger.afterCounts (id : String) (config : LocalConfig) (begun : Instant) (ledger : Ledger) :
    List (Timed CountRequest) → Ledger
  | [] => ledger
  | ⟨now, request⟩ :: earlier =>
    request.perform id config now
      ((ledger.afterCounts id config begun earlier).awaiting (latestInstant begun earlier) now)

/-! ## Chains -/

/-- An increment, with the instant from which its count no longer holds. -/
structure Increment where
  instant : Instant
  expiresAt : Option Instant

/-- The increment at an instant with a time to live. -/
def Increment.at (now : Instant) (ttl : Option Duration) : Increment :=
  ⟨now, ttl.map (now + ·.nanos)⟩

/-- Whether the count of an increment holds at an instant. -/
def Increment.Holds (increment : Increment) (now : Instant) : Prop :=
  ∀ expiry ∈ increment.expiresAt, now < expiry

instance (increment : Increment) (now : Instant) : Decidable (increment.Holds now) :=
  inferInstanceAs (Decidable (∀ expiry ∈ increment.expiresAt, now < expiry))

/-- The increments of a key since its last reset, after one more request. -/
def CountRequest.extend (config : LocalConfig) (key : String) (now : Instant)
    (request : CountRequest) (earlier : List Increment) : List Increment :=
  if request = .reset key then []
  else ((request.ttlFor? config key).map (.at now)).toList ++ earlier

/-- The increments of a key since its last reset, the latest one first. -/
def increments (config : LocalConfig) (key : String) : List (Timed CountRequest) → List Increment
  | [] => []
  | ⟨now, request⟩ :: earlier => request.extend config key now (increments config key earlier)

/-- The latest chain among some increments, the latest one first: it goes back as long as each
increment comes while the one before it holds. -/
def chain : List Increment → List Increment
  | [] => []
  | [first] => [first]
  | last :: previous :: earlier =>
    if previous.Holds last.instant then last :: chain (previous :: earlier) else [last]

/-- The length of the latest chain while it holds. -/
def chainCount (increments : List Increment) (now : Instant) : Nat :=
  match increments with
  | [] => 0
  | last :: _ => if last.Holds now then (chain increments).length else 0

variable {config : LocalConfig} {id key other : String} {now later : Instant}

theorem length_chain_le (increments : List Increment) :
    (chain increments).length ≤ increments.length := by
  fun_induction chain increments with
  | case1 => exact Nat.le_refl _
  | case2 => exact Nat.le_refl _
  | case3 last previous earlier holds ih => exact Nat.succ_le_succ ih
  | case4 last previous earlier gone => exact Nat.succ_le_succ (Nat.zero_le _)

theorem chain_ne_nil (last : Increment) (earlier : List Increment) :
    chain (last :: earlier) ≠ [] := by
  cases earlier with
  | nil => exact List.cons_ne_nil _ _
  | cons previous earlier =>
    rw [chain]
    split <;> exact List.cons_ne_nil _ _

/-- An increment makes the chain longer by one, or begins a new one. -/
theorem length_chain_cons (last : Increment) (earlier : List Increment) :
    (chain (last :: earlier)).length = chainCount earlier last.instant + 1 := by
  cases earlier with
  | nil => rfl
  | cons previous earlier =>
    rw [chain, chainCount]
    split <;> rfl

theorem chainCount_le (increments : List Increment) (now : Instant) :
    chainCount increments now ≤ increments.length := by
  rw [chainCount.eq_def]
  split
  · exact Nat.zero_le _
  · split
    · exact length_chain_le _
    · exact Nat.zero_le _

/-- A request that does not concern a key does not matter to its increments. -/
theorem CountRequest.extend_of_apart {request : CountRequest}
    (apart : request.concerns key = false) (earlier : List Increment) :
    request.extend config key now earlier = earlier := by
  have notReset : request ≠ .reset key := by
    rintro rfl
    exact absurd apart (by simp [concerns])
  have notCounted : request.ttlFor? config key = none := by
    cases request with
    | count | contains | reset | purge | close | wait => rfl
    | increment other => exact if_neg fun both => of_decide_eq_false apart both.1
    | incrementFor other ttl => exact if_neg fun both => of_decide_eq_false apart both.1
  rw [extend, if_neg notReset, notCounted]
  rfl

/-- Only the requests that concern a key matter to its increments. -/
theorem increments_filter (config : LocalConfig) (key : String) (history : List (Timed CountRequest)) :
    increments config key (history.filter (·.request.concerns key)) =
      increments config key history := by
  induction history with
  | nil => rfl
  | cons timed earlier ih =>
    cases concerned : timed.request.concerns key with
    | true => rw [List.filter_cons, if_pos concerned, increments, increments, ih]
    | false =>
      rw [List.filter_cons, if_neg (ne_true_of_eq_false concerned), ih, increments,
        CountRequest.extend_of_apart concerned]

theorem CountRequest.length_extend_le (request : CountRequest) (earlier : List Increment) :
    (request.extend config key now earlier).length ≤
      earlier.length + if request.isIncrement then 1 else 0 := by
  rw [extend]
  split
  · exact Nat.zero_le _
  · rw [List.length_append, Nat.add_comm]
    refine Nat.add_le_add_left ?_ _
    cases request with
    | count | contains | reset | purge | close | wait => exact Nat.le_refl _
    | increment | incrementFor => exact Option.length_toList_le

theorem length_increments_le (config : LocalConfig) (key : String) (history : List (Timed CountRequest)) :
    (increments config key history).length ≤ history.countP (·.request.isIncrement) := by
  induction history with
  | nil => exact Nat.le_refl _
  | cons timed earlier ih =>
    rw [List.countP_cons]
    exact Nat.le_trans (CountRequest.length_extend_le timed.request _) (Nat.add_le_add_right ih _)

/-! ## Counters in the process -/

theorem isExpired_iff (expiresAt : Option Instant) (now : Instant) :
    isExpired expiresAt now = true ↔ ∃ expiry ∈ expiresAt, expiry ≤ now := by
  cases expiresAt <;> simp [isExpired]

/-- What has expired stays expired. -/
theorem isExpired_mono {expiresAt : Option Instant} (expired : isExpired expiresAt now = true)
    (passed : now ≤ later) : isExpired expiresAt later = true := by
  obtain ⟨expiry, set, reached⟩ := (isExpired_iff _ _).1 expired
  exact (isExpired_iff _ _).2 ⟨expiry, set, Nat.le_trans reached passed⟩

theorem Increment.holds_iff (increment : Increment) (now : Instant) :
    increment.Holds now ↔ isExpired increment.expiresAt now = false := by
  rw [Increment.Holds, Bool.eq_false_iff, Ne, isExpired_iff]
  cases increment.expiresAt <;> simp

theorem checkTtl_of_isAccepted {ttl : Option Duration} (accepted : isAccepted ttl = true) :
    checkTtl ttl = .ok () := by
  cases ttl with
  | none => rfl
  | some ttl =>
    have short : ttl.nanos ≤ greatestTtl.nanos := of_decide_eq_true accepted
    exact if_neg (Nat.not_lt_of_le short)

theorem checkTtl_of_not_isAccepted {ttl : Option Duration} (refused : ¬ isAccepted ttl = true) :
    ∃ failure, checkTtl ttl = .error failure := by
  cases ttl with
  | none => exact absurd rfl refused
  | some ttl =>
    have long : ¬ ttl.nanos ≤ greatestTtl.nanos := fun short => refused (decide_eq_true short)
    exact ⟨.ttlTooLong ttl greatestTtl, if_pos (Nat.lt_of_not_le long)⟩

namespace LocalCounter

variable {counter : LocalCounter}

theorem live?_eq (counter : LocalCounter) (key : String) (now : Instant) :
    counter.live? key now =
      (counter.counts.find? key).bind fun count =>
        if isExpired count.expiresAt now then none else some count.value := by
  rw [live?]
  cases counter.counts.find? key <;> rfl

theorem find?_increment_self (counter : LocalCounter) (key : String) (ttl : Option Duration)
    (now : Instant) :
    (counter.increment key ttl now).2.counts.find? key =
      some ⟨(counter.increment key ttl now).1, (Increment.at now ttl).expiresAt⟩ :=
  Table.find?_insert_self _ _ _

theorem find?_increment_ne (counter : LocalCounter) {key other : String} (apart : other ≠ key)
    (ttl : Option Duration) (now : Instant) :
    (counter.increment key ttl now).2.counts.find? other = counter.counts.find? other :=
  Table.find?_insert_ne _ _ apart

theorem find?_reset_self (counter : LocalCounter) (key : String) :
    (counter.reset key).counts.find? key = none :=
  Table.find?_erase_self _ _

theorem find?_reset_ne (counter : LocalCounter) {key other : String} (apart : other ≠ key) :
    (counter.reset key).counts.find? other = counter.counts.find? other :=
  Table.find?_erase_ne _ apart

/-- An increment counts on from the count that holds. -/
theorem increment_fst (counter : LocalCounter) (key : String) (ttl : Option Duration)
    (now : Instant) :
    (counter.increment key ttl now).1 = min (counter.count key now + 1) greatestCount := by
  rw [increment, count, live?_eq]
  cases counter.counts.find? key with
  | none => rfl
  | some found =>
    dsimp only [Option.bind_some]
    split <;> rfl

/-- A sweep changes no later answer. -/
theorem live?_sweep (distinct : counter.counts.keys.Nodup) (passed : now ≤ later) (key : String) :
    (counter.sweep now).live? key later = counter.live? key later := by
  rw [live?_eq, live?_eq, sweep]
  cases found : counter.counts.find? key with
  | none => rw [Table.find?_keepWhere_of_none _ found]
  | some count =>
    by_cases expired : isExpired count.expiresAt now = true
    · -- what is swept away would not hold later either
      rw [Table.find?_keepWhere_of_dropped distinct found (by simp [expired])]
      simp [isExpired_mono expired passed]
    · rw [Table.find?_keepWhere_of_some found (by simpa using expired)]

/-- A counter whose keys are distinct and that shows the chains of all keys, now and later. -/
structure Follows (counter : LocalCounter) (past : String → List Increment) (now : Instant) :
    Prop where
  distinct : counter.counts.keys.Nodup
  shows (key : String) (later : Instant) : now ≤ later →
    counter.live? key later =
      if chainCount (past key) later = 0 then none else some (chainCount (past key) later)

namespace Follows

variable {past : String → List Increment}

theorem mono (follows : counter.Follows past now) (passed : now ≤ later) :
    counter.Follows past later :=
  ⟨follows.distinct, fun key latest after => follows.shows key latest (Nat.le_trans passed after)⟩

theorem count (follows : counter.Follows past now) (key : String) :
    counter.count key now = chainCount (past key) now := by
  rw [LocalCounter.count, follows.shows key now (Nat.le_refl _)]
  split
  · exact Eq.symm ‹_›
  · rfl

theorem contains (follows : counter.Follows past now) (key : String) :
    counter.contains key now = decide (0 < chainCount (past key) now) := by
  rw [LocalCounter.contains, follows.shows key now (Nat.le_refl _)]
  split
  · simp [*]
  · rename_i some
    simpa using Nat.pos_of_ne_zero some

theorem sweep {tick : Instant} (follows : counter.Follows past now) (upTo : tick ≤ now) :
    (counter.sweep tick).Follows past now where
  distinct := Table.nodup_keys_keepWhere follows.distinct _
  shows key later after := by
    rw [live?_sweep follows.distinct (Nat.le_trans upTo after), follows.shows key later after]

theorem close (follows : counter.Follows past now) : counter.close.Follows past now :=
  ⟨follows.distinct, follows.shows⟩

/-- A reset of a key ends its chain. -/
theorem reset (follows : counter.Follows past now) (key : String) :
    (counter.reset key).Follows (Function.update past key []) now where
  distinct := Table.nodup_keys_erase follows.distinct key
  shows other later after := by
    by_cases same : other = key
    · subst same
      rw [live?_eq, find?_reset_self, Function.update_self]
      rfl
    · rw [Function.update_of_ne same, ← follows.shows other later after, live?_eq, live?_eq,
        find?_reset_ne _ same]

/-- The value that an increment gives is the length of the chain with it. -/
theorem increment_value (follows : counter.Follows past now) (ttl : Option Duration)
    (few : (past key).length < greatestCount) :
    (counter.increment key ttl now).1 = (chain (.at now ttl :: past key)).length := by
  have bound := chainCount_le (past key) now
  rw [increment_fst, follows.count, length_chain_cons, Increment.at]
  exact Nat.min_eq_left (by omega)

/-- An increment of a key goes on with its chain, or begins a new one. -/
theorem increment (follows : counter.Follows past now) (ttl : Option Duration)
    (few : (past key).length < greatestCount) :
    (counter.increment key ttl now).2.Follows
      (Function.update past key (.at now ttl :: past key)) now where
  distinct := Table.nodup_keys_insert follows.distinct key _
  shows other later after := by
    have value := follows.increment_value ttl few
    by_cases same : other = key
    · subst same
      have nonempty := chain_ne_nil (.at now ttl) (past other)
      rw [live?_eq, find?_increment_self, Function.update_self, value, chainCount,
        Option.bind_some]
      by_cases holds : (Increment.at now ttl).Holds later
      · rw [if_pos holds, if_neg (mt List.length_eq_zero_iff.1 nonempty),
          (Increment.holds_iff _ _).1 holds]
        rfl
      · rw [if_neg holds, if_pos rfl,
          Bool.of_not_eq_false (mt (Increment.holds_iff _ _).2 holds)]
        rfl
    · rw [Function.update_of_ne same, ← follows.shows other later after, live?_eq, live?_eq,
        find?_increment_ne _ same]

end Follows

end LocalCounter

/-! ## Histories -/

theorem CountRequest.extend_of_ttlFor? {request : CountRequest} {ttl : Option Duration}
    (counted : request.ttlFor? config key = some ttl) (earlier : List Increment) :
    request.extend config key now earlier = .at now ttl :: earlier := by
  have notReset : request ≠ .reset key := by
    rintro rfl
    cases counted
  rw [extend, if_neg notReset, counted]
  rfl

theorem Duration.ceilMillis_le {nanos time : Nat} (reached : nanos ≤ Instant.ofMillis time) :
    (Duration.mk nanos).ceilMillis ≤ time := by
  simp only [Instant.ofMillis, Duration.ceilMillis, Duration.nanosPerMilli] at *
  omega

namespace Sweeper

variable {sweeper : Sweeper}

/-- The latest tick up to an instant, or the start of the sweeper before its first tick. -/
def latest (sweeper : Sweeper) (now : Instant) : Instant :=
  sweeper.startedAt + (now - sweeper.startedAt) / sweeper.period.nanos * sweeper.period.nanos

theorem latest_le (started : sweeper.startedAt ≤ now) : sweeper.latest now ≤ now := by
  have ticked := Nat.div_mul_le_self (now - sweeper.startedAt) sweeper.period.nanos
  exact Nat.le_trans (Nat.add_le_add_left ticked _) (Nat.le_of_eq (Nat.add_sub_cancel' started))

/-- The sweeper ticks at readings of the clock, none of which is later than now. -/
theorem lastTick?_le {time : Nat} {tick : Instant}
    (last : sweeper.lastTick? (Instant.ofMillis time) = some tick) :
    tick ≤ Instant.ofMillis time := by
  rw [lastTick?] at last
  dsimp only at last
  split at last
  · cases last
  · rename_i ticked
    obtain rfl := Option.some.inj last
    -- before its start the sweeper has not ticked at all
    have started : sweeper.startedAt ≤ Instant.ofMillis time := by
      refine Nat.le_of_not_le fun early => ticked ?_
      rw [Nat.sub_eq_zero_of_le early, Nat.zero_div]
    exact Nat.mul_le_mul_right _ (Duration.ceilMillis_le (latest_le started))

end Sweeper

namespace Ledger

variable {ledger : Ledger} {past : String → List Increment}

/-- While time passes, the sweeper changes no answer. -/
theorem follows_awaiting (follows : (ledger.localCounter id).Follows past now)
    (passed : now ≤ later) :
    ((ledger.awaiting now later).localCounter id).Follows past later := by
  have mono := follows.mono passed
  rw [awaiting, localCounter_elapse, LocalCounter.elapse]
  split
  · exact mono
  · rename_i tick ticked
    obtain ⟨sweeper, -, last⟩ := Option.bind_eq_some_iff.1 ticked
    split
    · -- the sweeper has ticked by the last whole millisecond
      exact mono.sweep (Nat.le_trans (Sweeper.lastTick?_le last) later.wholeMillis_le)
    · exact mono

/-- An increment with an accepted time to live is counted. -/
theorem incrementFor_of_accepted {ttl : Option Duration} (accepted : isAccepted ttl = true) :
    (Counter.inProcess id config).incrementFor key ttl now ledger =
      ⟨.ok ((ledger.localCounter id).increment key ttl now).1,
        ledger.setLocal id ((ledger.localCounter id).increment key ttl now).2, []⟩ := by
  rw [Counter.incrementFor, checkTtl_of_isAccepted accepted]

/-- An increment with any other time to live is refused and changes nothing. -/
theorem incrementFor_of_refused {ttl : Option Duration} (refused : ¬ isAccepted ttl = true) :
    ((Counter.inProcess id config).incrementFor key ttl now ledger).ledger = ledger := by
  obtain ⟨failure, checked⟩ := checkTtl_of_not_isAccepted refused
  rw [Counter.incrementFor, checked]

/-- What an increment with a time to live does to the counts in the process and to the increments of
all keys since their last resets: it is counted, or refused. -/
theorem incrementFor_cases (id : String) (config : LocalConfig) (key : String)
    (ttl : Option Duration) (now : Instant) (ledger : Ledger) (past : String → List Increment) :
    let after := ((Counter.inProcess id config).incrementFor key ttl now ledger).ledger
    let extended other := (CountRequest.incrementFor key ttl).extend config other now (past other)
    (after.localCounter id = ((ledger.localCounter id).increment key ttl now).2 ∧
        extended = Function.update past key (.at now ttl :: past key)) ∨
      (after.localCounter id = ledger.localCounter id ∧ extended = past) := by
  intro after extended
  by_cases accepted : isAccepted ttl = true
  · refine .inl ⟨?_, ?_⟩
    · simp only [after, incrementFor_of_accepted accepted, localCounter_setLocal_self]
    · -- the increments of the key itself go on, and those of other keys stay as they are
      funext other
      by_cases same : other = key
      · subst same
        rw [Function.update_self]
        have counted : (CountRequest.incrementFor other ttl).ttlFor? config other = some ttl :=
          if_pos ⟨rfl, accepted⟩
        exact CountRequest.extend_of_ttlFor? counted _
      · have apart : (CountRequest.incrementFor key ttl).concerns other = false :=
          decide_eq_false (Ne.symm same)
        rw [Function.update_of_ne same]
        exact CountRequest.extend_of_apart apart _
  · refine .inr ⟨?_, ?_⟩
    · simp only [after, incrementFor_of_refused accepted]
    · funext other
      simp only [extended]
      rw [CountRequest.extend, if_neg nofun, CountRequest.ttlFor?,
        if_neg fun both => accepted both.2]
      rfl

/-- Everything that a request can do to the counts in the process, and to the increments of all keys
since their last resets. -/
theorem perform_cases (id : String) (config : LocalConfig) (now : Instant) (ledger : Ledger)
    (past : String → List Increment) (request : CountRequest) :
    let after := (request.perform id config now ledger).localCounter id
    let extended key := request.extend config key now (past key)
    (∃ key ttl, request.isIncrement = true ∧
        after = ((ledger.localCounter id).increment key ttl now).2 ∧
        extended = Function.update past key (.at now ttl :: past key)) ∨
      (∃ key, request = .reset key ∧ after = (ledger.localCounter id).reset key ∧
        extended = Function.update past key []) ∨
      (request = .purge ∧ after = (ledger.localCounter id).sweep now ∧ extended = past) ∨
      (request = .close ∧ after = (ledger.localCounter id).close ∧ extended = past) ∨
      (after = ledger.localCounter id ∧ extended = past) := by
  intro after extended
  -- a request that concerns no key leaves the past of all keys
  have same (quiet : ∀ key, request.concerns key = false) : extended = past :=
    funext fun key => CountRequest.extend_of_apart (quiet key) _
  cases request with
  | increment key =>
    rcases incrementFor_cases id config key config.defaultTtl now ledger past with
      ⟨counted, further⟩ | ⟨refused, still⟩
    · exact .inl ⟨key, config.defaultTtl, rfl, counted, further⟩
    · exact .inr (.inr (.inr (.inr ⟨refused, still⟩)))
  | incrementFor key ttl =>
    rcases incrementFor_cases id config key ttl now ledger past with
      ⟨counted, further⟩ | ⟨refused, still⟩
    · exact .inl ⟨key, ttl, rfl, counted, further⟩
    · exact .inr (.inr (.inr (.inr ⟨refused, still⟩)))
  | count | contains | wait => exact .inr (.inr (.inr (.inr ⟨rfl, same fun _ => rfl⟩)))
  | reset key =>
    refine .inr (.inl ⟨key, rfl, localCounter_setLocal_self _ _, funext fun other => ?_⟩)
    by_cases own : other = key
    · subst own
      rw [Function.update_self]
      exact if_pos rfl
    · have apart : (CountRequest.reset key).concerns other = false :=
        decide_eq_false (Ne.symm own)
      rw [Function.update_of_ne own]
      exact CountRequest.extend_of_apart apart _
  | purge =>
    exact .inr (.inr (.inl ⟨rfl, localCounter_setLocal_self _ _, same fun _ => rfl⟩))
  | close =>
    exact .inr (.inr (.inr (.inl ⟨rfl, localCounter_setLocal_self _ _, same fun _ => rfl⟩)))

/-- Every request keeps a counter in step with the chains of all keys. -/
theorem follows_perform (follows : (ledger.localCounter id).Follows past now)
    (request : CountRequest)
    (few : request.isIncrement = true → ∀ key, (past key).length < LocalCounter.greatestCount) :
    ((request.perform id config now ledger).localCounter id).Follows
      (fun key => request.extend config key now (past key)) now := by
  rcases perform_cases id config now ledger past request with
    ⟨key, ttl, counted, after, extended⟩ | ⟨key, -, after, extended⟩ | ⟨-, after, extended⟩ |
      ⟨-, after, extended⟩ | ⟨after, extended⟩
  all_goals rw [after, extended]
  · exact follows.increment ttl (few counted key)
  · exact follows.reset key
  · exact follows.sweep (Nat.le_refl _)
  · exact follows.close
  · exact follows

/-- A counter shows the chains of its history. -/
theorem follows_afterCounts {begun : Instant} (empty : (ledger.localCounter id).counts = {})
    {history : List (Timed CountRequest)} (onward : Onward begun history)
    (few : history.countP (·.request.isIncrement) ≤ LocalCounter.greatestCount) :
    ((ledger.afterCounts id config begun history).localCounter id).Follows
      (fun key => increments config key history) (latestInstant begun history) := by
  induction history with
  | nil =>
    refine ⟨?_, fun key later _ => ?_⟩
    · rw [afterCounts, empty]
      exact List.nodup_nil
    · rw [afterCounts, LocalCounter.live?_eq, empty]
      rfl
  | cons timed earlier ih =>
    obtain ⟨passed, onward⟩ := onward
    rw [List.countP_cons] at few
    -- first the time since the request before passes, and then the request is served
    have before := follows_awaiting (ih onward (Nat.le_trans (Nat.le_add_right _ _) few)) passed
    refine follows_perform before timed.request fun counted key => ?_
    rw [if_pos counted] at few
    exact Nat.lt_of_le_of_lt (length_increments_le config key earlier) few

/-- What a counter in the process answers after any history, told by the increments of the key since
its last reset: an increment gives the length of the chain with it, the count is the length of the
latest chain while it holds, and a key is there if its count is positive. An increment with too long
a time to live is refused and changes nothing. Requests about other keys, sweeps and the sweeper do
not matter to any of this. -/
theorem answers_of_chains (id : String) (config : LocalConfig) (begun now : Instant)
    (ledger : Ledger) (history : List (Timed CountRequest)) (key : String)
    (empty : (ledger.localCounter id).counts = {})
    (onward : Onward begun (⟨now, .wait⟩ :: history))
    (few : history.countP (·.request.isIncrement) < 2 ^ 64) :
    let counter : Counter := .inProcess id config
    let before := ledger.afterCounts id config begun (⟨now, .wait⟩ :: history)
    let past := increments config key history
    (∀ ttl, (∀ lasts ∈ ttl, lasts ≤ greatestTtl) →
      history.countP (·.request.isIncrement) + 1 < 2 ^ 64 →
      (counter.incrementFor key ttl now before).answer = .ok (chain (.at now ttl :: past)).length) ∧
    counter.increment key now before = counter.incrementFor key config.defaultTtl now before ∧
    (counter.count key now before).answer = .ok (chainCount past now) ∧
    (counter.contains key now before).answer = .ok (decide (0 < chainCount past now)) ∧
    (∀ lasts, greatestTtl < lasts → counter.incrementFor key (some lasts) now before =
      ⟨.error (.ttlTooLong lasts greatestTtl), before, []⟩) ∧
    past = increments config key (history.filter (·.request.concerns key)) := by
  intro counter before past
  have noMore : (Timed.mk now .wait :: history).countP (·.request.isIncrement) ≤
      LocalCounter.greatestCount := Nat.le_of_lt_succ few
  have follows : (before.localCounter id).Follows _ now := follows_afterCounts empty onward noMore
  refine ⟨fun ttl short fewer => ?_, rfl, ?_, ?_, fun lasts long => ?_, ?_⟩
  · have accepted : isAccepted ttl = true := by
      rw [isAccepted, Option.all_eq_true]
      exact fun lasts mem => decide_eq_true (short lasts mem)
    have bound : past.length < LocalCounter.greatestCount :=
      Nat.lt_of_le_of_lt (length_increments_le config key history) (Nat.lt_of_succ_lt_succ fewer)
    rw [incrementFor_of_accepted accepted]
    exact congrArg _ (follows.increment_value ttl bound)
  · exact congrArg _ (follows.count key)
  · exact congrArg _ (follows.contains key)
  · rw [Counter.incrementFor, checkTtl, if_pos long]
  · exact (increments_filter config key history).symm

/-- Counts hold for ten milliseconds, and the sweeper ticks every seven. The third increment comes at
the very nanosecond from which the count before it no longer holds and begins a new chain, and the
fourth one goes on with that, whatever is swept meanwhile. The count shows until the last nanosecond
of its ten milliseconds. -/
theorem answers_of_chains_two :
    let config : LocalConfig := ⟨some (.ofMillis 10), .ofMillis 7⟩
    let ledger : Ledger := { locals := ⟨[("c", { sweeper := some ⟨0, .ofMillis 7⟩ })]⟩ }
    let history : List (Timed CountRequest) :=
      [⟨25000000, .increment "k"⟩, ⟨19999999, .increment "k"⟩, ⟨14000000, .purge⟩,
        ⟨12000000, .increment "other"⟩, ⟨9999999, .increment "k"⟩, ⟨0, .increment "k"⟩]
    let before := ledger.afterCounts "c" config 0 (⟨34999999, .wait⟩ :: history)
    let counter : Counter := .inProcess "c" config
    (ledger.localCounter "c").counts = {} ∧ Onward 0 (⟨34999999, .wait⟩ :: history) ∧
      history.countP (·.request.isIncrement) + 1 < 2 ^ 64 ∧
      (counter.count "k" 34999999 before).answer = .ok 2 ∧
      (counter.incrementFor "k" none 34999999 before).answer = .ok 3 := by
  intro config ledger history before counter
  have empty : (ledger.localCounter "c").counts = {} := rfl
  have onward : Onward 0 (⟨34999999, .wait⟩ :: history) := by decide
  have few : history.countP (·.request.isIncrement) + 1 < 2 ^ 64 := by decide
  obtain ⟨next, -, count, -⟩ := answers_of_chains "c" config 0 34999999 ledger history "k" empty
    onward (Nat.lt_of_succ_lt few)
  have two : chainCount (increments config "k" history) 34999999 = 2 := by decide +kernel
  have three : (chain (.at 34999999 none :: increments config "k" history)).length = 3 := by
    decide +kernel
  have noLimit : ∀ lasts ∈ (none : Option Duration), lasts ≤ greatestTtl := fun _ absent => by
    cases absent
  exact ⟨empty, onward, few, count.trans (congrArg _ two),
    (next none noLimit few).trans (congrArg _ three)⟩

end Ledger

end Resilience
