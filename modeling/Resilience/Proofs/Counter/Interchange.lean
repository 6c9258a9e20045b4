import Resilience.Proofs.Counter.Live

/-!
# A counter in the process and one in a store

The two simple counters are written apart. One keeps its counts in the process, where a sweeper
removes what has expired; the other keeps them in a store under longer keys, and nothing is swept
there. Their greatest counts differ as well. Nevertheless, a program cannot tell whether it uses the
one or the other: if nobody else uses the store and it stays available, both answer every request
alike until a count reaches the greatest value of the store.

Time is exact to the nanosecond here, while the sweeper ticks at whole milliseconds. Somebody may
also ask for a sweep at any instant.

## Main definitions

* `CounterQuery`, `CounterReply` — what is asked of a counter, and the answers
* `Counter.ask`, `Counter.afterQueries`, `Counter.replies` — what a counter makes of a history
* `CounterReply.capped` — a reply of a counter whose counts are bounded
* `Mirrors` — a store and the counts in the process, with the same counts for the same time

## Main statements

* `Mirrors.ask` — a request is answered alike, and leaves both sides alike
* `Counter.replies_of_mirrors` — both counters give the same replies
-/

namespace Resilience

/-- What is asked of a counter. -/
inductive CounterQuery where
  /-- An increment with the default time to live. -/
  | increment (key : String)
  | incrementFor (key : String) (ttl : Option Duration)
  | count (key : String)
  | contains (key : String)
  | reset (key : String)
  /-- What has expired in the process is removed. A store knows nothing of the kind. -/
  | sweep
  deriving DecidableEq

/-- The answer to a query. -/
inductive CounterReply where
  | counted (answer : Except Failure Nat)
  | found (answer : Except Failure Bool)
  | removed (answer : Except Failure Unit)
  | swept

/-- A reply with its count cut off at the greatest value that a store keeps. -/
def CounterReply.capped : CounterReply → CounterReply
  | counted answer => counted (answer.map (min · CounterStore.greatestValue.toNat))
  | found answer => found answer
  | removed answer => removed answer
  | swept => swept

namespace Counter

/-- The ledger after a sweep. -/
def sweep (counter : Counter) (now : Instant) (ledger : Ledger) : Ledger :=
  match counter.local? with
  | some (id, _) => ledger.setLocal id ((ledger.localCounter id).purge now).2
  | none => ledger

/-- The reply to a query, and the ledger that it leaves. -/
def ask (counter : Counter) (now : Instant) (ledger : Ledger) :
    CounterQuery → CounterReply × Ledger
  | .increment key =>
    let served := counter.increment key now ledger
    (.counted served.answer, served.ledger)
  | .incrementFor key ttl =>
    let served := counter.incrementFor key ttl now ledger
    (.counted served.answer, served.ledger)
  | .count key =>
    let served := counter.count key now ledger
    (.counted served.answer, served.ledger)
  | .contains key =>
    let served := counter.contains key now ledger
    (.found served.answer, served.ledger)
  | .reset key =>
    let served := counter.reset key now ledger
    (.removed served.answer, served.ledger)
  | .sweep => (.swept, counter.sweep now ledger)

/-- The ledger after a history. -/
def afterQueries (counter : Counter) (begun : Instant) (ledger : Ledger) :
    List (Timed CounterQuery) → Ledger
  | [] => ledger
  | ⟨now, query⟩ :: earlier =>
    (counter.ask now (Ledger.awaiting (latestInstant begun earlier) now
      (counter.afterQueries begun ledger earlier)) query).2

/-- The replies to the queries of a history, the latest one first. -/
def replies (counter : Counter) (begun : Instant) (ledger : Ledger) :
    List (Timed CounterQuery) → List CounterReply
  | [] => []
  | ⟨now, query⟩ :: earlier =>
    (counter.ask now (Ledger.awaiting (latestInstant begun earlier) now
      (counter.afterQueries begun ledger earlier)) query).1 ::
      counter.replies begun ledger earlier

end Counter

/-- What is kept, with its value cut off at the greatest one of a store. -/
def cappedCount (kept : Int × Option Instant) : Int × Option Instant :=
  (min kept.1 CounterStore.greatestValue, kept.2)

/-- The store of one ledger keeps the counts that hold in the process of the other: for every key
the same count for the same time, up to the greatest value of a store. -/
structure Mirrors (id name start : String) (now : Instant) (here there : Ledger) : Prop where
  distinct : (here.localCounter id).counts.keys.Nodup
  available : there.isAvailable name = true
  same (key : String) : (Place.inStore name (start ++ key)).live? now there =
    ((Place.inProcess id key).live? now here).map cappedCount

/-! ## What is read of a place -/

section Places

variable {name key : String} {now : Instant} {ledger : Ledger}

theorem live?_localCounter (ledger : Ledger) (id key : String) (now : Instant) :
    (ledger.localCounter id).live? key now =
      ((Place.inProcess id key).live? now ledger).map (·.1.toNat) := by
  rw [LocalCounter.live?_eq, Place.live?, Place.find?]
  cases (ledger.localCounter id).counts.find? key with
  | none => rfl
  | some count =>
    rw [Option.bind_some, Option.map_some, Option.filter_some]
    cases isExpired count.expiresAt now <;> rfl

theorem live?_store (ledger : Ledger) (name key : String) (now : Instant) :
    (ledger.store name).live? key now =
      ((Place.inStore name key).live? now ledger).map (·.1) := by
  rw [CounterStore.live?, Place.live?, Place.find?]
  cases (ledger.store name).counts.find? key with
  | none => rfl
  | some count =>
    rw [Option.map_some, Option.filter_some]
    cases expired : isExpired count.expiresAt now <;> simp [expired]

/-- A store that is available answers, and keeps a note that it was asked. -/
theorem served_of_isAvailable {α β : Type} (reaches : ledger.isAvailable name = true)
    (present : α → β) (answer : CounterStore → α × CounterStore) :
    Counter.served ledger name present ((ledger.store name).request answer) =
      let asked := { ledger.store name with requests := (ledger.store name).requests + 1 }
      ⟨.ok (present (answer asked).1), ledger.setStore name (answer asked).2, []⟩ := by
  have available : (ledger.store name).available = true := reaches
  simp only [Counter.served, CounterStore.request, available, if_true]
  rfl

/-- A value that is cut off expires when the value itself does. -/
theorem filter_cappedCount (kept? : Option (Int × Option Instant)) (now : Instant) :
    ((kept?.map cappedCount).filter fun kept => !isExpired kept.2 now) =
      (kept?.filter fun kept => !isExpired kept.2 now).map cappedCount := by
  cases kept? with
  | none => rfl
  | some kept =>
    rw [Option.map_some, Option.filter_some, Option.filter_some]
    cases expired : isExpired kept.2 now <;> simp [cappedCount, expired]

end Places

/-! ## One request -/

namespace Mirrors

variable {id name start key : String} {now later : Instant} {here there here' there' : Ledger}

/-- A count expires on both sides at the same instant. -/
theorem mono (mirrors : Mirrors id name start now here there) (passed : now ≤ later) :
    Mirrors id name start later here there where
  distinct := mirrors.distinct
  available := mirrors.available
  same key := by
    rw [Place.live?_of_le passed, Place.live?_of_le passed, mirrors.same key, filter_cappedCount]

/-- Ledgers in which the same counts are kept. -/
theorem of_same (mirrors : Mirrors id name start now here there)
    (distinct : (here'.localCounter id).counts.keys.Nodup)
    (available : there'.isAvailable = there.isAvailable)
    (near : ∀ key, (Place.inProcess id key).live? now here' =
      (Place.inProcess id key).live? now here)
    (far : ∀ key, (Place.inStore name key).find? there' = (Place.inStore name key).find? there) :
    Mirrors id name start now here' there' where
  distinct := distinct
  available := by rw [available]; exact mirrors.available
  same key := by rw [near, ← mirrors.same, Place.live?, far, Place.live?]

/-- While time passes, the sweepers change nothing that holds. -/
theorem awaiting (mirrors : Mirrors id name start now here there) (passed : now ≤ later) :
    Mirrors id name start later (Ledger.awaiting now later here)
      (Ledger.awaiting now later there) := by
  refine (mirrors.mono passed).of_same ?_ rfl (fun key => ?_) fun key => rfl
  · rw [Ledger.awaiting, Ledger.localCounter_elapse, LocalCounter.elapse]
    split
    · exact mirrors.distinct
    · split
      · exact Table.nodup_keys_keepWhere mirrors.distinct _
      · exact mirrors.distinct
  · -- at the last whole millisecond nothing that held was gone, and so nothing is gone now
    rw [Place.live?_of_le later.wholeMillis_le, Ledger.awaiting, Instant.wholeMillis,
      Place.live?_inProcess_elapse mirrors.distinct]
    exact (Place.live?_of_le later.wholeMillis_le).symm

/-- The next count is the same on both sides, up to the greatest value of a store. -/
theorem next (mirrors : Mirrors id name start now here there) (key : String) :
    (Place.inStore name (start ++ key)).next now there =
      min ((Place.inProcess id key).next now here) CounterStore.greatestValue := by
  rw [Place.next_eq_live?, Place.next_eq_live?, mirrors.same key]
  simp only [Place.greatest, LocalCounter.greatestCount, CounterStore.greatestValue]
  cases (Place.inProcess id key).live? now here with
  | none => rfl
  | some kept =>
    simp only [Option.map_some, Option.getD_some, cappedCount, CounterStore.greatestValue]
    omega

/-- Two places that are written at once keep the same count for the same time. -/
theorem write (mirrors : Mirrors id name start now here there)
    {kept? : Option (Int × Option Instant)}
    (distinct : (here'.localCounter id).counts.keys.Nodup)
    (near : Ledger.Differs (some (.inProcess id key)) here here')
    (far : Ledger.Differs (some (.inStore name (start ++ key))) there there')
    (keptHere : (Place.inProcess id key).find? here' = kept?)
    (keptThere : (Place.inStore name (start ++ key)).find? there' = kept?.map cappedCount) :
    Mirrors id name start now here' there' where
  distinct := distinct
  available := by rw [far.available]; exact mirrors.available
  same other := by
    by_cases own : other = key
    · subst own
      rw [Place.live?, Place.live?, keptHere, keptThere, filter_cappedCount]
    · have apartHere : (some (Place.inProcess id key) : Option Place) ≠
          some (.inProcess id other) := fun met => own (by cases met; rfl)
      have apartThere : (some (Place.inStore name (start ++ key)) : Option Place) ≠
          some (.inStore name (start ++ other)) := fun met =>
        own (String.append_right_inj start |>.1 (Place.inStore.inj (Option.some.inj met)).2).symm
      have same := mirrors.same other
      rw [Place.live?, Place.live?] at same ⊢
      rw [near.find? _ apartHere, far.find? _ apartThere, same]

/-- An increment is answered alike, also if its time to live is refused. -/
theorem incrementFor (mirrors : Mirrors id name start now here there) (config : LocalConfig)
    (defaultTtl : Option Duration) (key : String) (ttl : Option Duration) :
    let near := (Counter.inProcess id config).incrementFor key ttl now here
    let far := (Counter.shared name start defaultTtl).incrementFor key ttl now there
    far.answer = near.answer.map (min · CounterStore.greatestValue.toNat) ∧
      Mirrors id name start now near.ledger far.ledger := by
  cases checked : checkTtl ttl with
  | error failure =>
    simp only [Counter.incrementFor, checked]
    exact ⟨rfl, mirrors⟩
  | ok _ =>
    simp only [Counter.incrementFor, checked]
    obtain ⟨nearDiffers, -, nearKept⟩ : Counter.Raised (.ok (.inProcess id key, ttl)) now here _ :=
      Counter.raised_inProcess id key ttl
    obtain ⟨farDiffers, farAnswer, farKept⟩ :
        Counter.Raised (.ok (.inStore name (start ++ key), ttl)) now there _ :=
      Counter.raised_inStore name (start ++ key) ttl mirrors.available
    -- both count on from values that mirror each other
    have next := mirrors.next key
    constructor
    · rw [farAnswer, Except.map, next, Counter.next_inProcess id key ttl]
      exact congrArg Except.ok (by simp only [CounterStore.greatestValue]; omega)
    · refine mirrors.write ?_ nearDiffers farDiffers (nearKept _ _ rfl) ?_
      · rw [Ledger.localCounter_setLocal_self]
        exact Table.nodup_keys_insert mirrors.distinct _ _
      · rw [farKept _ _ rfl, next]
        rfl

/-- What a store shows of a key is what the counts in the process show of it. -/
theorem live?_eq (mirrors : Mirrors id name start now here there) (key : String) :
    ((there.store name).live? (start ++ key) now).map Counter.nonNegative =
      ((here.localCounter id).live? key now).map (min · CounterStore.greatestValue.toNat) := by
  rw [live?_store, mirrors.same key, live?_localCounter]
  cases (Place.inProcess id key).live? now here with
  | none => rfl
  | some kept =>
    simp only [Option.map_some, cappedCount, Counter.nonNegative, CounterStore.greatestValue]
    exact congrArg some (by omega)

/-- Reading a store leaves all counts as they are. -/
theorem asked (mirrors : Mirrors id name start now here there) (requests : Nat) :
    Mirrors id name start now here
      (there.setStore name { there.store name with requests }) :=
  have differs := Ledger.differs_asked there name requests
  mirrors.of_same mirrors.distinct differs.available (fun _ => rfl) fun _ => differs.find? _ nofun

theorem count (mirrors : Mirrors id name start now here there) (config : LocalConfig)
    (defaultTtl : Option Duration) (key : String) :
    let near := (Counter.inProcess id config).count key now here
    let far := (Counter.shared name start defaultTtl).count key now there
    far.answer = near.answer.map (min · CounterStore.greatestValue.toNat) ∧
      Mirrors id name start now near.ledger far.ledger := by
  simp only [Counter.count, CounterStore.get, served_of_isAvailable mirrors.available]
  refine ⟨congrArg Except.ok ?_, mirrors.asked _⟩
  refine (congrArg (·.getD 0) (mirrors.live?_eq key)).trans ?_
  rw [LocalCounter.count]
  cases (here.localCounter id).live? key now <;> simp

theorem contains (mirrors : Mirrors id name start now here there) (config : LocalConfig)
    (defaultTtl : Option Duration) (key : String) :
    let near := (Counter.inProcess id config).contains key now here
    let far := (Counter.shared name start defaultTtl).contains key now there
    far.answer = near.answer ∧ Mirrors id name start now near.ledger far.ledger := by
  simp only [Counter.contains, CounterStore.contains, served_of_isAvailable mirrors.available]
  refine ⟨congrArg Except.ok ?_, mirrors.asked _⟩
  have shown := congrArg Option.isSome (mirrors.live?_eq key)
  rw [Option.isSome_map, Option.isSome_map] at shown
  exact shown

theorem reset (mirrors : Mirrors id name start now here there) (config : LocalConfig)
    (defaultTtl : Option Duration) (key : String) :
    let near := (Counter.inProcess id config).reset key now here
    let far := (Counter.shared name start defaultTtl).reset key now there
    far.answer = near.answer ∧ Mirrors id name start now near.ledger far.ledger := by
  intro near far
  obtain ⟨nearAvailable, nearOthers, nearEmptied⟩ :=
    Counter.reset_effect (.inProcess id config) key now here
  obtain ⟨farAvailable, farOthers, farEmptied⟩ :=
    Counter.reset_effect (.shared name start defaultTtl) key now there
  refine ⟨?_, mirrors.write ?_ ⟨nearAvailable, fun place apart => nearOthers place ?_⟩
    ⟨farAvailable, fun place apart => farOthers place ?_⟩
    (nearEmptied _ (List.mem_singleton_self _) rfl)
    (farEmptied _ (List.mem_singleton_self _) mirrors.available)⟩
  · simp only [far, Counter.reset, CounterStore.delete, served_of_isAvailable mirrors.available]
    rfl
  · simp only [near, Counter.reset, Ledger.localCounter_setLocal_self]
    exact Table.nodup_keys_erase mirrors.distinct key
  · exact fun used => apart (congrArg some (List.mem_singleton.1 used).symm)
  · exact fun used => apart (congrArg some (List.mem_singleton.1 used).symm)

/-- A sweep removes nothing that a store would still show. -/
theorem sweep (mirrors : Mirrors id name start now here there) (config : LocalConfig)
    (defaultTtl : Option Duration) :
    Mirrors id name start now ((Counter.inProcess id config).sweep now here)
      ((Counter.shared name start defaultTtl).sweep now there) := by
  have swept : ((Counter.inProcess id config).sweep now here).localCounter id =
      (here.localCounter id).sweep now := Ledger.localCounter_setLocal_self ..
  refine mirrors.of_same ?_ rfl
    (Place.live?_of_sweep mirrors.distinct swept (Nat.le_refl now)) fun _ => rfl
  rw [swept]
  exact Table.nodup_keys_keepWhere mirrors.distinct _

/-- A query is answered alike and leaves both sides alike. -/
theorem ask (mirrors : Mirrors id name start now here there) (config : LocalConfig)
    (query : CounterQuery) :
    let near := (Counter.inProcess id config).ask now here query
    let far := (Counter.shared name start config.defaultTtl).ask now there query
    far.1 = near.1.capped ∧ Mirrors id name start now near.2 far.2 := by
  cases query with
  | increment key =>
    exact (mirrors.incrementFor config config.defaultTtl key config.defaultTtl).imp_left
      (congrArg CounterReply.counted)
  | incrementFor key ttl =>
    exact (mirrors.incrementFor config config.defaultTtl key ttl).imp_left
      (congrArg CounterReply.counted)
  | count key =>
    exact (mirrors.count config config.defaultTtl key).imp_left (congrArg CounterReply.counted)
  | contains key =>
    exact (mirrors.contains config config.defaultTtl key).imp_left (congrArg CounterReply.found)
  | reset key =>
    exact (mirrors.reset config config.defaultTtl key).imp_left (congrArg CounterReply.removed)
  | sweep => exact ⟨rfl, mirrors.sweep config config.defaultTtl⟩

/-- Two ledgers without counts. -/
theorem of_empty (now : Instant) (start : String)
    (emptyHere : (here.localCounter id).counts = {}) (emptyThere : (there.store name).counts = {})
    (available : there.isAvailable name = true) : Mirrors id name start now here there where
  distinct := by
    rw [emptyHere]
    exact List.nodup_nil
  available := available
  same key := by
    rw [Place.live?, Place.live?, Place.find?, Place.find?, emptyHere, emptyThere]
    rfl

end Mirrors

/-! ## Histories -/

namespace Counter

variable {id name start : String} {config : LocalConfig} {begun : Instant} {here there : Ledger}
  {history : List (Timed CounterQuery)}

theorem mirrors_afterQueries (config : LocalConfig)
    (mirrors : Mirrors id name start begun here there) (onward : Onward begun history) :
    Mirrors id name start (latestInstant begun history)
      ((inProcess id config).afterQueries begun here history)
      ((shared name start config.defaultTtl).afterQueries begun there history) := by
  induction history with
  | nil => exact mirrors
  | cons last earlier ih => exact (((ih onward.2).awaiting onward.1).ask config last.request).2

/-- Both counters give the same replies, up to the greatest value of the store. -/
theorem replies_of_mirrors (mirrors : Mirrors id name start begun here there)
    (onward : Onward begun history) :
    (shared name start config.defaultTtl).replies begun there history =
      ((inProcess id config).replies begun here history).map (·.capped) := by
  induction history with
  | nil => rfl
  | cons last earlier ih =>
    have before := mirrors_afterQueries config mirrors onward.2
    rw [replies, replies, List.map_cons, ih onward.2]
    exact congrArg (· :: _) ((before.awaiting onward.1).ask config last.request).1

/-- A count below the greatest value of a store is not cut off. -/
theorem capped_eq_self {reply : CounterReply}
    (small : ∀ count, reply = .counted (.ok count) → count < 2 ^ 63) : reply.capped = reply := by
  cases reply with
  | found | removed | swept => rfl
  | counted answer =>
    cases answer with
    | error failure => rfl
    | ok count =>
      have bound := small count rfl
      refine congrArg (CounterReply.counted ∘ Except.ok) (Nat.min_eq_left ?_)
      exact Nat.le_sub_one_of_lt bound

/-- Too long a time to live is refused, and no other is refused for its length. -/
theorem incrementFor_refused_iff (counter : Counter) (direct : counter.isDirect = true)
    (key : String) (lasts : Duration) (now : Instant) (ledger : Ledger) :
    (counter.incrementFor key (some lasts) now ledger).answer =
      .error (.ttlTooLong lasts greatestTtl) ↔ greatestTtl < lasts := by
  obtain ⟨-, answer, -⟩ : Raised _ now ledger _ :=
    incrementFor_raised counter key (some lasts) ledger
  rw [answer]
  by_cases long : greatestTtl < lasts
  · have refused : checkTtl (some lasts) = .error (.ttlTooLong lasts greatestTtl) := if_pos long
    cases counter with
    | inProcess | shared =>
      rw [locateFor, refused]
      exact iff_of_true rfl long
    | hybrid | plain => cases direct
  · have accepted : checkTtl (some lasts) = .ok () := if_neg long
    -- neither a count nor an outage is a refusal
    cases counter with
    | inProcess =>
      rw [locateFor, accepted]
      exact iff_of_false (fun same => by cases same) long
    | shared =>
      rw [locateFor, accepted]
      simp only [Except.bind]
      split <;> exact iff_of_false (fun same => by cases same) long
    | hybrid | plain => cases direct

/-- A counter in the process and one over a store of its own, both without counts at first and with
the same default time to live, give the same replies to every history, as long as no count reaches
`2 ^ 63`; from then on the store shows its greatest value. Both refuse the same times to live, and
for both the same counts have expired at every later instant. -/
theorem replies_interchangeable (id name start : String) (config : LocalConfig) (begun : Instant)
    (here there : Ledger) (history : List (Timed CounterQuery))
    (emptyHere : (here.localCounter id).counts = {}) (emptyThere : (there.store name).counts = {})
    (available : there.isAvailable name = true) (onward : Onward begun history) :
    let near := inProcess id config
    let far := shared name start config.defaultTtl
    let nearReplies := near.replies begun here history
    let farReplies := far.replies begun there history
    ((∀ count, .counted (.ok count) ∈ nearReplies → count < 2 ^ 63) → farReplies = nearReplies) ∧
      farReplies = nearReplies.map (·.capped) ∧
      (∀ key lasts now ledger, ∀ counter ∈ [near, far],
        (counter.incrementFor key (some lasts) now ledger).answer =
          .error (.ttlTooLong lasts greatestTtl) ↔ greatestTtl < lasts) ∧
      ∀ key later, latestInstant begun history ≤ later →
        (far.contains key later (Ledger.awaiting (latestInstant begun history) later
          (far.afterQueries begun there history))).answer =
        (near.contains key later (Ledger.awaiting (latestInstant begun history) later
          (near.afterQueries begun here history))).answer := by
  intro near far nearReplies farReplies
  have mirrors : Mirrors id name start begun here there :=
    .of_empty begun start emptyHere emptyThere available
  have capped : farReplies = nearReplies.map (·.capped) := replies_of_mirrors mirrors onward
  refine ⟨fun small => ?_, capped, fun key lasts now ledger counter member => ?_,
    fun key later passed => ?_⟩
  · have uncut : ∀ reply ∈ nearReplies, reply.capped = reply := fun reply member =>
      capped_eq_self fun count counted => small count (counted ▸ member)
    rw [capped]
    exact (List.map_congr_left uncut).trans (List.map_id' _)
  · rcases List.mem_pair.1 member with rfl | rfl
    · exact incrementFor_refused_iff _ rfl key lasts now ledger
    · exact incrementFor_refused_iff _ rfl key lasts now ledger
  · have after := (mirrors_afterQueries config mirrors onward).awaiting passed
    exact (after.contains config config.defaultTtl key).1

/-- Counts hold for ten milliseconds, and the sweeper ticks every seven. The count of the increment
at 0 still shows one nanosecond before it expires, and neither counter shows it afterwards. -/
theorem replies_interchangeable_expiry :
    let config : LocalConfig := ⟨some (.ofMillis 10), .ofMillis 7⟩
    let here : Ledger := { locals := ⟨[("c", { sweeper := some ⟨0, .ofMillis 7⟩ })]⟩ }
    let history : List (Timed CounterQuery) :=
      [⟨12000000, .increment "k"⟩, ⟨10000000, .count "k"⟩, ⟨9999999, .count "k"⟩,
        ⟨0, .increment "k"⟩]
    let nearReplies := (inProcess "c" config).replies 0 here history
    (here.localCounter "c").counts = {} ∧ (Ledger.store {} "s").counts = {} ∧
      Ledger.isAvailable {} "s" = true ∧ Onward 0 history ∧
      nearReplies =
        [.counted (.ok 1), .counted (.ok 0), .counted (.ok 1), .counted (.ok 1)] ∧
      (shared "s" "retry:" config.defaultTtl).replies 0 {} history = nearReplies := by
  intro config here history nearReplies
  have emptyHere : (here.localCounter "c").counts = {} := rfl
  have emptyThere : (Ledger.store {} "s").counts = {} := rfl
  have available : Ledger.isAvailable {} "s" = true := rfl
  have onward : Onward 0 history := by decide
  have replies : nearReplies =
      [.counted (.ok 1), .counted (.ok 0), .counted (.ok 1), .counted (.ok 1)] := rfl
  obtain ⟨alike, -⟩ := replies_interchangeable "c" "s" "retry:" config 0 here {} history
    emptyHere emptyThere available onward
  refine ⟨emptyHere, emptyThere, available, onward, replies, alike fun count member => ?_⟩
  have counted : CounterReply.counted (.ok count) ∈ nearReplies := member
  rw [replies] at counted
  simp only [List.mem_cons, CounterReply.counted.injEq, Except.ok.injEq, List.not_mem_nil,
    or_false] at counted
  omega

end Counter

end Resilience
