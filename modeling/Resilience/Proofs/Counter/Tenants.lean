import Resilience.Proofs.Counter.Interchange
import Resilience.Text.Search

/-!
# Counters that share a store

Several counters can use one store, each with a text of its own before every key. Nothing but these
texts keeps them apart: a key of a counter is kept under the text and the key in one, without
anything in between. Hence two counters never mean the same unless one text starts with the other
one, and then neither of them learns anything of what the other one does. If one text does start
with the other one, then the longer one gives a key to the counter with the shorter text for each
key of the other counter, and both keys are one and the same.

## Main definitions

* `Tenant`, `Tenant.counter` — a counter of a store
* `StoreEvent`, `Tenant.after`, `Tenant.replies` — what happens to a store, and what a tenant is
  told meanwhile
* `Tenant.without` — a history in which one tenant does nothing
* `CounterQuery.serve` — what a query makes of what is kept for its key
* `Ledger.Agree` — ledgers in which a store keeps the same under some keys

## Main statements

* `Tenant.ask_serves` — a query depends on what is kept for its key, and changes nothing else
* `Tenant.overlaps_of_append_eq` — when two counters can mean the same
* `Tenant.isolated_exactly` — who learns of whom
-/

namespace Resilience

/-- What is told apart of the counters of a store: the text before every key, and the default time
to live. -/
structure Tenant where
  start : String
  defaultTtl : Option Duration

/-- What happens to a store: one of its counters is asked something or closed, or the store goes
away or comes back. -/
inductive StoreEvent (ι : Type) where
  | asked (tenant : ι) (query : CounterQuery)
  | closed (tenant : ι)
  | setAvailable (available : Bool)

/-- What a counter of a store is told. -/
inductive TenantReply where
  | asked (reply : CounterReply)
  | closed (answer : Except Failure Unit)

/-- The key of a query. -/
def CounterQuery.key : CounterQuery → String
  | increment key | incrementFor key _ | count key | contains key | reset key => key
  | sweep => ""

/-- The value that holds of what is kept in a store. -/
def valueOf (kept? : Option (Int × Option Instant)) (now : Instant) : Option Int :=
  (kept?.filter fun kept => !isExpired kept.2 now).map (·.1)

/-- What an increment makes of what is kept for its key in a store, after its reply. -/
def raiseKept (ttl : Option Duration) (now : Instant) (isOpen : Bool)
    (kept? : Option (Int × Option Instant)) : CounterReply × Option (Int × Option Instant) :=
  match checkTtl ttl with
  | .error failure => (.counted (.error failure), kept?)
  | .ok () =>
    if isOpen then
      let value := min ((valueOf kept? now).getD 0 + 1) CounterStore.greatestValue
      (.counted (.ok (Counter.nonNegative value)), some (value, ttl.map fun ttl => now + ttl.nanos))
    else (.counted (.error CounterStore.outage), kept?)

/-- The answer of a store that is available or not. -/
def answerIf {α : Type} (isOpen : Bool) (found : α) : Except Failure α :=
  if isOpen then .ok found else .error CounterStore.outage

/-- What a query makes of what is kept for its key in a store, after its reply. -/
def CounterQuery.serve (defaultTtl : Option Duration) (now : Instant) (isOpen : Bool)
    (kept? : Option (Int × Option Instant)) :
    CounterQuery → CounterReply × Option (Int × Option Instant)
  | .increment _ => raiseKept defaultTtl now isOpen kept?
  | .incrementFor _ ttl => raiseKept ttl now isOpen kept?
  | .count _ =>
    (.counted (answerIf isOpen (((valueOf kept? now).map Counter.nonNegative).getD 0)), kept?)
  | .contains _ => (.found (answerIf isOpen (valueOf kept? now).isSome), kept?)
  | .reset _ => (.removed (answerIf isOpen ()), if isOpen then none else kept?)
  | .sweep => (.swept, kept?)

namespace Tenant

variable {ι : Type} {tenant : Tenant} {store : String} {now : Instant} {ledger : Ledger}

def counter (tenant : Tenant) (store : String) : Counter :=
  .shared store tenant.start tenant.defaultTtl

/-- Where the key of a query is kept. -/
def place (tenant : Tenant) (store : String) (query : CounterQuery) : Place :=
  .inStore store (tenant.start ++ query.key)

/-- One text starts with the other one. -/
def Overlaps (one other : Tenant) : Prop :=
  Text.startsWith one.start other.start = true ∨ Text.startsWith other.start one.start = true

instance (one other : Tenant) : Decidable (one.Overlaps other) :=
  inferInstanceAs (Decidable (_ ∨ _))

/-! ### One key by itself -/

theorem live?_eq_valueOf (ledger : Ledger) (store key : String) (now : Instant) :
    (ledger.store store).live? key now =
      valueOf ((Place.inStore store key).find? ledger) now := by
  rw [live?_store, Place.live?, valueOf]

/-- The answer of a store to a request that only reads it. -/
theorem answer_served {α β : Type} (ledger : Ledger) (store : String) (present : α → β)
    (answer : CounterStore → α × CounterStore) (found : α)
    (finds : ∀ asked : CounterStore, asked.counts = (ledger.store store).counts →
      (answer asked).1 = found) :
    (Counter.served ledger store present ((ledger.store store).request answer)).answer =
      answerIf (ledger.isAvailable store) (present found) := by
  rw [Counter.served, CounterStore.request, Ledger.isAvailable, answerIf]
  cases (ledger.store store).available with
  | true => exact congrArg (fun found => Except.ok (present found)) (finds _ rfl)
  | false => rfl

/-- A query as a store serves it: the reply and what is kept afterwards for its key depend on what
was kept there before, and all else stays as it was. -/
structure Serves (tenant : Tenant) (store : String) (now : Instant) (ledger : Ledger)
    (query : CounterQuery) (asked : CounterReply × Ledger) : Prop where
  reply : asked.1 = (query.serve tenant.defaultTtl now (ledger.isAvailable store)
    ((tenant.place store query).find? ledger)).1
  kept : (tenant.place store query).find? asked.2 = (query.serve tenant.defaultTtl now
    (ledger.isAvailable store) ((tenant.place store query).find? ledger)).2
  available : asked.2.isAvailable = ledger.isAvailable
  others : ∀ place, place ≠ tenant.place store query → place.find? asked.2 = place.find? ledger

/-- A query that only reads, or is not served, changes nothing that is kept. -/
theorem serves_of_differs {query : CounterQuery} {asked : CounterReply × Ledger}
    (reads : (query.serve tenant.defaultTtl now (ledger.isAvailable store)
      ((tenant.place store query).find? ledger)).2 = (tenant.place store query).find? ledger)
    (reply : asked.1 = (query.serve tenant.defaultTtl now (ledger.isAvailable store)
      ((tenant.place store query).find? ledger)).1)
    (differs : Ledger.Differs none ledger asked.2) :
    tenant.Serves store now ledger query asked where
  reply := reply
  kept := (differs.find? _ nofun).trans reads.symm
  available := differs.available
  others place _ := differs.find? place nofun

theorem serves_incrementFor (tenant : Tenant) (store key : String) (ttl : Option Duration)
    (now : Instant) (ledger : Ledger) :
    let raised := (tenant.counter store).incrementFor key ttl now ledger
    tenant.Serves store now ledger (.incrementFor key ttl)
      (.counted raised.answer, raised.ledger) := by
  intro raised
  obtain ⟨differs, answer, kept⟩ : Counter.Raised _ now ledger raised :=
    Counter.incrementFor_raised (tenant.counter store) key ttl ledger
  rw [counter, Counter.locateFor] at differs answer kept
  have next := @Counter.next_inStore now ledger store (tenant.start ++ key)
  rw [live?_eq_valueOf] at next
  -- the time to live is checked before the store is asked
  cases checked : checkTtl ttl with
  | error failure =>
    rw [checked] at differs answer
    refine serves_of_differs ?_ ?_ differs
    · simp only [CounterQuery.serve, raiseKept, checked]
    · simp only [answer, CounterQuery.serve, raiseKept, checked]
      rfl
  | ok _ =>
    rw [checked] at differs answer kept
    cases reaches : ledger.isAvailable store with
    | true =>
      simp only [Except.bind, reaches, if_true] at differs answer kept
      refine ⟨?_, ?_, differs.available, fun place apart => differs.find? place fun same => ?_⟩
      · simp only [answer, CounterQuery.serve, raiseKept, checked, reaches, if_true, Except.map,
          next]
        rfl
      · rw [place, CounterQuery.key, kept _ _ rfl, next]
        simp only [CounterQuery.serve, raiseKept, checked, reaches, if_true]
      · exact apart (Option.some.inj same).symm
    | false =>
      simp only [Except.bind, reaches, Bool.false_eq_true, if_false] at differs answer
      refine serves_of_differs ?_ ?_ differs
      · simp only [CounterQuery.serve, raiseKept, checked, reaches]
        rfl
      · simp only [answer, CounterQuery.serve, raiseKept, checked, reaches]
        rfl

/-- A store serves every query from what it keeps for its key. -/
theorem ask_serves (tenant : Tenant) (store : String) (now : Instant) (ledger : Ledger)
    (query : CounterQuery) :
    tenant.Serves store now ledger query ((tenant.counter store).ask now ledger query) := by
  cases query with
  | increment key =>
    obtain ⟨reply, kept, available, others⟩ :=
      tenant.serves_incrementFor store key tenant.defaultTtl now ledger
    exact ⟨reply, kept, available, others⟩
  | incrementFor key ttl => exact tenant.serves_incrementFor store key ttl now ledger
  | count key =>
    -- reading changes no count, whether the store is reached or not
    have reads : Ledger.Differs none ledger ((tenant.counter store).count key now ledger).ledger :=
      Counter.differs_served ledger store _ _ fun _ => rfl
    refine serves_of_differs rfl (congrArg CounterReply.counted ?_) reads
    rw [place, CounterQuery.key, ← live?_eq_valueOf]
    exact answer_served ledger store _ _ ((ledger.store store).live? (tenant.start ++ key) now)
      fun asked same => CounterStore.live?_congr same _ now
  | contains key =>
    have reads :
        Ledger.Differs none ledger ((tenant.counter store).contains key now ledger).ledger :=
      Counter.differs_served ledger store _ _ fun _ => rfl
    refine serves_of_differs rfl (congrArg CounterReply.found ?_) reads
    rw [place, CounterQuery.key, ← live?_eq_valueOf]
    exact answer_served ledger store _ _
      ((ledger.store store).live? (tenant.start ++ key) now).isSome fun asked same =>
      congrArg Option.isSome (CounterStore.live?_congr same _ now)
  | reset key =>
    obtain ⟨available, others, emptied⟩ :=
      Counter.reset_effect (tenant.counter store) key now ledger
    refine ⟨congrArg CounterReply.removed ?_, ?_, available, fun place apart => others place ?_⟩
    · exact answer_served ledger store _ _ _ fun _ _ => rfl
    · rw [CounterQuery.serve]
      cases reaches : ledger.isAvailable store with
      | true => exact emptied _ (List.mem_singleton_self _) reaches
      | false =>
        have direct : (tenant.counter store).isDirect = true := rfl
        exact Counter.find?_reset_of_not_isOpen direct reaches now
    · exact fun used => apart (List.mem_singleton.1 used)
  | sweep => exact serves_of_differs rfl rfl (.refl none ledger)

end Tenant

/-! ## Some keys of a store -/

/-- Two ledgers that agree about a store, as far as some of its keys go. -/
structure Ledger.Agree (store : String) (mine : String → Prop) (first second : Ledger) : Prop where
  available : first.isAvailable store = second.isAvailable store
  find? : ∀ key, mine key →
    (Place.inStore store key).find? first = (Place.inStore store key).find? second

namespace Ledger.Agree

variable {store : String} {mine : String → Prop} {first second : Ledger} {tenant : Tenant}
  {query : CounterQuery}

theorem refl (store : String) (mine : String → Prop) (ledger : Ledger) :
    Agree store mine ledger ledger :=
  ⟨rfl, fun _ _ => rfl⟩

/-- A query for one of the keys is answered alike. -/
theorem reply (agree : Agree store mine first second) (own : mine (tenant.start ++ query.key))
    (now : Instant) :
    ((tenant.counter store).ask now first query).1 =
      ((tenant.counter store).ask now second query).1 := by
  rw [(tenant.ask_serves store now first query).reply,
    (tenant.ask_serves store now second query).reply, agree.available, Tenant.place,
    agree.find? _ own]

/-- A query, for whatever key, leaves ledgers that agree. -/
theorem ask (agree : Agree store mine first second) (tenant : Tenant) (now : Instant)
    (query : CounterQuery) :
    Agree store mine ((tenant.counter store).ask now first query).2
      ((tenant.counter store).ask now second query).2 := by
  have there := tenant.ask_serves store now first query
  have here := tenant.ask_serves store now second query
  refine ⟨?_, fun key own => ?_⟩
  · rw [there.available, here.available, agree.available]
  · by_cases asked : tenant.place store query = .inStore store key
    · have same := agree.find? key own
      rw [← asked] at same ⊢
      rw [there.kept, here.kept, agree.available, same]
    · rw [there.others _ (Ne.symm asked), here.others _ (Ne.symm asked), agree.find? key own]

/-- A query for another key can as well be left out. -/
theorem skip (agree : Agree store mine first second)
    (foreign : ¬ mine (tenant.start ++ query.key)) (now : Instant) :
    Agree store mine ((tenant.counter store).ask now first query).2 second := by
  have there := tenant.ask_serves store now first query
  refine ⟨?_, fun key own => ?_⟩
  · rw [there.available, agree.available]
  · have apart : Place.inStore store key ≠ tenant.place store query := by
      intro same
      exact foreign ((Place.inStore.inj same).2 ▸ own)
    rw [there.others _ apart, agree.find? key own]

/-- A store goes away or comes back with all that it keeps. -/
theorem setAvailable (agree : Agree store mine first second) (available : Bool) :
    Agree store mine (first.setStore store ((first.store store).setAvailable available))
      (second.setStore store ((second.store store).setAvailable available)) := by
  refine ⟨?_, fun key own => ?_⟩
  · rw [Ledger.isAvailable, Ledger.isAvailable, Ledger.store_setStore_self,
      Ledger.store_setStore_self]
    rfl
  · have same := agree.find? key own
    rw [Place.find?, Place.find?] at same ⊢
    rw [Ledger.store_setStore_self, Ledger.store_setStore_self]
    exact same

end Ledger.Agree

/-! ## Histories -/

namespace Tenant

variable {ι : Type} {store : String} {ledger first second : Ledger}

/-- The ledger after a history, the latest event first. Nothing happens in a store while time
passes. -/
def after (tenants : ι → Tenant) (store : String) (ledger : Ledger) :
    List (Timed (StoreEvent ι)) → Ledger
  | [] => ledger
  | ⟨now, .asked tenant query⟩ :: earlier =>
    (((tenants tenant).counter store).ask now (after tenants store ledger earlier) query).2
  | ⟨_, .closed tenant⟩ :: earlier =>
    (((tenants tenant).counter store).close (after tenants store ledger earlier)).ledger
  | ⟨_, .setAvailable available⟩ :: earlier =>
    let before := after tenants store ledger earlier
    before.setStore store ((before.store store).setAvailable available)

variable [DecidableEq ι]

/-- The replies to one tenant, the latest one first. -/
def replies (tenants : ι → Tenant) (store : String) (who : ι) (ledger : Ledger) :
    List (Timed (StoreEvent ι)) → List TenantReply
  | [] => []
  | ⟨now, .asked tenant query⟩ :: earlier =>
    if tenant = who then
      let before := after tenants store ledger earlier
      .asked (((tenants tenant).counter store).ask now before query).1 ::
        replies tenants store who ledger earlier
    else replies tenants store who ledger earlier
  | ⟨_, .closed tenant⟩ :: earlier =>
    if tenant = who then
      let before := after tenants store ledger earlier
      .closed (((tenants tenant).counter store).close before).answer ::
        replies tenants store who ledger earlier
    else replies tenants store who ledger earlier
  | ⟨_, .setAvailable _⟩ :: earlier => replies tenants store who ledger earlier

/-- Whether an event is about a tenant. -/
def concerns (who : ι) : StoreEvent ι → Bool
  | .asked tenant _ | .closed tenant => tenant = who
  | .setAvailable _ => false

/-- A history in which one tenant does nothing. -/
def without (who : ι) (history : List (Timed (StoreEvent ι))) : List (Timed (StoreEvent ι)) :=
  history.filter fun event => !concerns who event.request

variable {tenants : ι → Tenant} {one other : ι}

/-- A key of the store that one tenant uses. -/
def IsOf (tenant : Tenant) (key : String) : Prop := ∃ rest, key = tenant.start ++ rest

/-! ### When two counters can mean the same -/

theorem startsWith_iff (text start : String) :
    Text.startsWith text start = true ↔ ∃ rest, text = start ++ rest := by
  rw [Text.startsWith, List.isPrefixOf_iff_prefix]
  constructor
  · rintro ⟨rest, same⟩
    refine ⟨String.ofList rest, String.toList_inj.1 ?_⟩
    rw [String.toList_append, String.toList_ofList, same]
  · rintro ⟨rest, rfl⟩
    exact ⟨rest.toList, String.toList_append.symm⟩

/-- Two counters with a common key in the store overlap. -/
theorem overlaps_of_append_eq {one other : Tenant} {key key' : String}
    (same : one.start ++ key = other.start ++ key') : one.Overlaps other := by
  have both := congrArg String.toList same
  rw [String.toList_append, String.toList_append] at both
  have ofOne : one.start.toList <+: other.start.toList ++ key'.toList := ⟨key.toList, both⟩
  have ofOther : other.start.toList <+: other.start.toList ++ key'.toList := ⟨key'.toList, rfl⟩
  rw [Overlaps, Text.startsWith, Text.startsWith, List.isPrefixOf_iff_prefix,
    List.isPrefixOf_iff_prefix]
  exact (List.prefix_or_prefix_of_prefix ofOne ofOther).symm

/-- The ledgers with and without what another tenant does agree about the keys of the one. -/
theorem agree_without (apart : ¬ (tenants one).Overlaps (tenants other)) (ledger : Ledger)
    (history : List (Timed (StoreEvent ι))) :
    Ledger.Agree store (tenants one).IsOf (after tenants store ledger history)
      (after tenants store ledger (without other history)) := by
  induction history with
  | nil => exact .refl store _ ledger
  | cons last earlier agree =>
    obtain ⟨now, event⟩ := last
    rw [without, List.filter_cons]
    cases event with
    | setAvailable available => exact agree.setAvailable available
    | asked tenant query =>
      by_cases foreign : tenant = other
      · -- whatever key the other tenant names, it is kept under none of the one's
        subst foreign
        rw [concerns, decide_eq_true rfl]
        exact agree.skip (fun ⟨_, same⟩ => apart (overlaps_of_append_eq same.symm)) now
      · -- a third tenant may overlap with both, and still does the same in both ledgers
        rw [concerns, decide_eq_false foreign]
        exact agree.ask (tenants tenant) now query
    | closed tenant =>
      -- nothing runs in the background for such a counter, so that its end leaves no trace
      split <;> exact agree

/-- What another tenant does is answered to nobody else. -/
theorem replies_of_concerns (distinct : one ≠ other) {event : StoreEvent ι}
    (foreign : concerns other event = true) (ledger : Ledger) (now : Instant)
    (earlier : List (Timed (StoreEvent ι))) :
    replies tenants store one ledger (⟨now, event⟩ :: earlier) =
      replies tenants store one ledger earlier := by
  cases event with
  | setAvailable => cases foreign
  | asked tenant | closed tenant =>
    obtain rfl : tenant = other := of_decide_eq_true foreign
    rw [replies, if_neg distinct.symm]

/-- Nobody learns what a tenant does whose text does not overlap with the own one. -/
theorem replies_without (apart : ¬ (tenants one).Overlaps (tenants other)) (ledger : Ledger)
    (history : List (Timed (StoreEvent ι))) :
    replies tenants store one ledger (without other history) =
      replies tenants store one ledger history := by
  have distinct : one ≠ other := by
    rintro rfl
    exact apart (.inl ((startsWith_iff _ _).2 ⟨"", String.append_empty.symm⟩))
  induction history with
  | nil => rfl
  | cons last earlier ih =>
    obtain ⟨now, event⟩ := last
    rw [without, List.filter_cons]
    cases foreign : concerns other event with
    | true =>
      rw [replies_of_concerns distinct foreign]
      exact ih
    | false =>
      rw [Bool.not_false, if_pos rfl]
      cases event with
      | setAvailable available => exact ih
      -- what is kept for the own text is the same with and without the other tenant
      | asked tenant query =>
        rw [replies, replies]
        split
        · rename_i own
          subst own
          refine congrArg₂ List.cons (congrArg TenantReply.asked ?_) ih
          exact ((agree_without apart ledger earlier).reply ⟨_, rfl⟩ now).symm
        · exact ih
      | closed tenant =>
        rw [replies, replies]
        split
        · exact congrArg₂ List.cons rfl ih
        · exact ih

/-! ### When one counter sees the other -/

/-- An increment through one counter shows through another one for ever: whoever saw no count
before sees one afterwards. -/
def Shows (store : String) (one other : Tenant) (key key' : String) : Prop :=
  ∀ ledger now later, ledger.isAvailable store = true →
    let raised := (one.counter store).incrementFor key none now ledger
    ∃ count, raised.answer = .ok count ∧
      ((other.counter store).count key' later raised.ledger).answer = .ok count ∧
      (((other.counter store).contains key' now ledger).answer = .ok false → count = 1)

/-- Counters that keep two keys under the same one see each other's increments. -/
theorem shows_of_append_eq {one other : Tenant} {key key' : String}
    (same : one.start ++ key = other.start ++ key') : Shows store one other key key' := by
  intro ledger now later isOpen raised
  let place : Place := .inStore store (one.start ++ key)
  let value := min ((valueOf (place.find? ledger) now).getD 0 + 1) CounterStore.greatestValue
  have serves := one.ask_serves store now ledger (.incrementFor key none)
  have reads := other.ask_serves store later raised.ledger (.count key')
  have looks := other.ask_serves store now ledger (.contains key')
  -- both counters keep their keys at one place
  have here : other.place store (.count key') = place := congrArg (Place.inStore store) same.symm
  have answer : raised.answer = .ok (Counter.nonNegative value) := by
    have reply := serves.reply
    rw [isOpen] at reply
    exact CounterReply.counted.inj reply
  have kept : place.find? raised.ledger = some (value, none) := by
    have kept := serves.kept
    rw [isOpen] at kept
    exact kept
  have still : raised.ledger.isAvailable store = true :=
    (congrFun serves.available store).trans isOpen
  refine ⟨_, answer, ?_, fun nothing => ?_⟩
  · have reply := reads.reply
    rw [here, kept, still] at reply
    exact CounterReply.counted.inj reply
  · have reply := CounterReply.found.inj looks.reply
    rw [show other.place store (.contains key') = place from here, isOpen] at reply
    have absent : (valueOf (place.find? ledger) now).isSome = false :=
      Except.ok.inj (reply.symm.trans nothing)
    have unused := Option.isNone_iff_eq_none.1 (Option.isSome_eq_false_iff.1 absent)
    simp only [value, unused]
    rfl

theorem Overlaps.symm {one other : Tenant} (overlaps : one.Overlaps other) : other.Overlaps one :=
  Or.symm overlaps

/-- Two counters of a store overlap if the text of one of them starts with that of the other. If
they do not, then neither of them learns anything of the other one: whatever is asked of all
counters of the store, and whenever the store goes away and comes back, each of the two is told the
same as if the other one had done nothing. If they do, then there is a key for each of the two such
that the increments of each show through the other. -/
theorem isolated_exactly (tenants : ι → Tenant) (store : String) (one other : ι) :
    (¬ (tenants one).Overlaps (tenants other) →
        ∀ (ledger : Ledger) (history : List (Timed (StoreEvent ι))),
          replies tenants store one ledger history =
              replies tenants store one ledger (without other history) ∧
            replies tenants store other ledger history =
              replies tenants store other ledger (without one history)) ∧
      ((tenants one).Overlaps (tenants other) →
        ∃ key key', Shows store (tenants one) (tenants other) key key' ∧
          Shows store (tenants other) (tenants one) key' key) := by
  refine ⟨fun apart ledger history => ⟨?_, ?_⟩, fun overlaps => ?_⟩
  · exact (replies_without apart ledger history).symm
  · exact (replies_without (fun overlaps => apart overlaps.symm) ledger history).symm
  · obtain ⟨key, key', same⟩ : ∃ key key',
        (tenants one).start ++ key = (tenants other).start ++ key' := by
      rcases overlaps with longer | longer
      · obtain ⟨rest, same⟩ := (startsWith_iff _ _).1 longer
        exact ⟨"", rest, by rw [same, String.append_empty]⟩
      · obtain ⟨rest, same⟩ := (startsWith_iff _ _).1 longer
        exact ⟨rest, "", by rw [same, String.append_empty]⟩
    exact ⟨key, key', shows_of_append_eq same, shows_of_append_eq same.symm⟩

/-- Of three counters, two overlap, and the third one is on its own. -/
theorem isolated_exactly_three :
    let tenants : String → Tenant := fun start => ⟨start, none⟩
    let history : List (Timed (StoreEvent String)) :=
      [⟨3, .asked "retry:" (.increment "eu:7")⟩, ⟨2, .asked "billing:" (.increment "eu:7")⟩,
        ⟨1, .asked "retry:eu:" (.increment "7")⟩]
    let seen := replies tenants "store" "retry:" {}
    ¬ (tenants "retry:").Overlaps (tenants "billing:") ∧
      (tenants "retry:").Overlaps (tenants "retry:eu:") ∧
      seen history = [.asked (.counted (.ok 2))] ∧
      seen (without "billing:" history) = [.asked (.counted (.ok 2))] ∧
      seen (without "retry:eu:" history) = [.asked (.counted (.ok 1))] ∧
      ∃ key key', Shows "store" (tenants "retry:") (tenants "retry:eu:") key key' := by
  intro tenants history seen
  have apart : ¬ (tenants "retry:").Overlaps (tenants "billing:") := by decide +kernel
  have overlaps : (tenants "retry:").Overlaps (tenants "retry:eu:") := by decide +kernel
  have all : seen history = [.asked (.counted (.ok 2))] := rfl
  obtain ⟨isolated, -⟩ := isolated_exactly tenants "store" "retry:" "billing:"
  obtain ⟨-, shows⟩ := isolated_exactly tenants "store" "retry:" "retry:eu:"
  obtain ⟨key, key', first, -⟩ := shows overlaps
  exact ⟨apart, overlaps, all, (isolated apart {} history).1.symm.trans all, rfl, key, key', first⟩

end Tenant

end Resilience
