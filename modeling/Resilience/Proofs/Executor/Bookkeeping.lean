import Resilience.Proofs.Executor.Admission
import Resilience.Proofs.Executor.Deeds

/-!
# The bookkeeping of a breaker

Any number of executors may put their attempts through one breaker, in the background and in the
foreground, and a shutdown may cut operations off at any time. At every moment the books of the
breaker balance: every invocation is a call of the breaker, or it failed in a way that the filter
does not count, or it has not come to a result; and every rejection ended a lifecycle.

## Main definitions

* `Surroundings.gated` — executors with one breaker, which nobody else uses
* `Scene.inFlight`, `Scene.cutShort`, `Scene.denials` — what a scene shows of open and denied
  attempts

## Main statements

* `Story.books` — the books over the story of a lifecycle
* `Scene.books_of_play` — the books at every moment of a scene
-/

namespace Resilience

/-! ## Books over a story -/

namespace Phase

/-- The number of invocations that are under way in a phase. -/
def underWay : Phase → Nat
  | running .. | calling _ => 1
  | absent | waiting .. | ended _ | cutOff _ => 0

/-- One if a lifecycle has ended because it was not admitted. -/
def denials : Phase → Nat
  | ended result => (isDenial result).toNat
  | absent | waiting .. | running .. | calling _ | cutOff _ => 0

theorem underWay_ofBegun (prior now : Nat) (begun : Begun) :
    (ofBegun prior now begun).underWay = begun.underWay ∧
      (ofBegun prior now begun).denials = begun.denials := by
  cases begun <;> exact ⟨rfl, rfl⟩

theorem underWay_ofEntered (begun : Begun) :
    (ofEntered begun).underWay = begun.underWay ∧ (ofEntered begun).denials = begun.denials := by
  cases begun <;> exact ⟨rfl, rfl⟩

theorem underWay_ofSequel (now : Nat) {sequel : Sequel}
    (undenied : ∀ result, sequel = .done result → isDenial result = false) :
    (ofSequel now sequel).underWay = 0 ∧ (ofSequel now sequel).denials = 0 := by
  cases sequel with
  | done result => exact ⟨rfl, congrArg Bool.toNat (undenied result rfl)⟩
  | retry attempt delay => exact ⟨rfl, rfl⟩

end Phase

/-- Executors that all put their attempts through one breaker. Whatever is changed from outside, the
breaker stays as it is. -/
def Surroundings.gated (id : Nat) : Surroundings where
  mine _ := false
  plays executor _ := executor.breaker = some id
  shuts _ := True
  alters change := ∀ world : World, (change world).breakers.find? id = world.breakers.find? id

/-- A deed that is no attempt and leaves a breaker as it is. -/
def Deed.Spares (id : Nat) : Deed → Prop
  | begin .. | conclude .. => False
  | alter change => (Surroundings.gated id).alters change
  | publish .. | elapse .. | setScheduler .. => True

namespace World.Books

variable {id underWay denied : Nat} {first : Breaker} {world : World}

/-- The books do not change aside from attempts. -/
theorem perform {deed : Deed} (books : world.Books id first underWay denied)
    (spares : deed.Spares id) : (world.perform deed).Books id first underWay denied := by
  obtain ⟨breaker, found, rest⟩ := books
  cases deed with
  | begin | conclude => exact spares.elim
  | publish now handle status =>
    refine ⟨breaker, found, ?_⟩
    rw [World.perform, World.account, World.tale_publish]
    exact rest
  | elapse | setScheduler => exact ⟨breaker, found, rest⟩
  | alter change => exact ⟨breaker, (spares world).trans found, rest⟩

theorem performAll {deeds : List Deed} (books : world.Books id first underWay denied)
    (spare : ∀ deed ∈ deeds, deed.Spares id) :
    (world.performAll deeds).Books id first underWay denied := by
  induction deeds generalizing world with
  | nil => exact books
  | cons deed deeds ih =>
    exact ih (books.perform (spare deed List.mem_cons_self))
      fun other member => spare other (List.mem_cons_of_mem _ member)

end World.Books

/-- The books over the story of a lifecycle that is not cut off. -/
theorem Story.books {executor : Executor} {unit : WorkUnit} {id underWay denied : Nat}
    {first : Breaker} (gated : executor.breaker = some id) {before after : Phase × World}
    (story : Story .nobody executor unit before after) (goesOn : after.1.isCutOff = false)
    (books : before.2.Books id first (underWay + before.1.underWay) (denied + before.1.denials)) :
    after.2.Books id first (underWay + after.1.underWay) (denied + after.1.denials) := by
  -- the phase tells whether a call is under way, until the lifecycle is cut off
  induction story with
  | refl => exact books
  | tail _ step ih =>
    cases step with
    | aside deed aside =>
      refine (ih goesOn).perform ?_
      cases deed with
      | begin | conclude => exact aside.2.elim
      | setScheduler | alter => exact aside.elim
      | publish | elapse => trivial
    | submitted now => exact ih rfl
    | begun prior now =>
      dsimp only
      rw [(Phase.underWay_ofBegun ..).1, (Phase.underWay_ofBegun ..).2]
      exact (ih rfl).begun gated
    | entered now =>
      dsimp only
      rw [(Phase.underWay_ofEntered _).1, (Phase.underWay_ofEntered _).2]
      exact (ih rfl).begun gated
    | concluded prior now outcome | left now outcome =>
      obtain ⟨booked, undenied⟩ := (ih rfl).concluded gated outcome
      dsimp only
      rw [(Phase.underWay_ofSequel _ undenied).1, (Phase.underWay_ofSequel _ undenied).2]
      exact booked
    | refused prior due shut => exact ih rfl
    | cutWaiting | cutRunning => cases goesOn

/-! ## Books of a scene -/

/-- Whether a sign shows an invocation that has not come to a result. -/
def Sign.isUnderWay : Sign → Bool
  | call _ => true
  | handle _ status => status.any (·.isInProgress)
  | task _ | result .. => false

/-- Whether a sign shows a lifecycle that has ended because it was not admitted. -/
def Sign.isDenial : Sign → Bool
  | handle _ status => (status.bind (·.result?)).any Resilience.isDenial
  | result _ given => Resilience.isDenial given
  | task _ | call _ => false

theorem Status.isInProgress_ofResult (result : Except Failure Completion) :
    (ofResult result).isInProgress = false := by
  rcases result with failure | completion
  · rfl
  · cases completion <;> rfl

namespace Sign

/-- Tasks do not show open or denied attempts; handles and calls do. -/
theorem countP_tasks (shows : Sign → Bool) (none : ∀ item, shows (task item) = false)
    (items : Multiset (Appointment Job)) : (items.map task).countP (shows ·) = 0 := by
  refine Multiset.countP_eq_zero.2 fun sign member => ?_
  obtain ⟨item, -, rfl⟩ := Multiset.mem_map.1 member
  exact ne_true_of_eq_false (none item)

theorem countP_singleton (shows : Sign → Bool) (sign : Sign) :
    ({sign} : Multiset Sign).countP (shows ·) = (shows sign).toNat := by
  cases shown : shows sign with
  | true =>
    exact Multiset.countP_eq_card.2 fun other member => by rwa [Multiset.mem_singleton.1 member]
  | false =>
    exact Multiset.countP_eq_zero.2 fun other member => by
      rw [Multiset.mem_singleton.1 member]
      exact ne_true_of_eq_false shown

end Sign

/-- What is seen of a lifecycle tells whether its operation is under way or it was denied. -/
theorem Phase.Shows.countP {executor : Executor} {unit : WorkUnit} {phase : Phase}
    {signs : Multiset Sign} (shows : phase.Shows executor unit signs)
    (regular : phase.isRegular = true) :
    signs.countP (·.isUnderWay) = phase.underWay ∧ signs.countP (·.isDenial) = phase.denials := by
  cases shows with
  | absent | cutOff => cases regular
  | calling outcome => exact ⟨Sign.countP_singleton _ _, Sign.countP_singleton _ _⟩
  | returned result => exact ⟨Sign.countP_singleton _ _, Sign.countP_singleton _ _⟩
  | onHandle handle stands =>
    rename_i items status
    rw [Multiset.countP_add, Multiset.countP_add, Sign.countP_tasks _ (fun _ => rfl),
      Sign.countP_tasks _ (fun _ => rfl), Sign.countP_singleton, Sign.countP_singleton,
      Nat.zero_add, Nat.zero_add]
    -- of the signs on a handle only the status counts
    cases phase with
    | absent | calling | cutOff => exact stands.elim
    | waiting prior due =>
      obtain ⟨-, unfinished, notBegun⟩ := stands
      simp only [Sign.isUnderWay, Sign.isDenial, Option.any_some, notBegun, Option.bind_some,
        Status.result?_eq_none unfinished]
      exact ⟨rfl, rfl⟩
    | running prior outcome due =>
      obtain ⟨-, begun⟩ := stands
      simp only [Sign.isUnderWay, Sign.isDenial, Option.any_some, begun, Option.bind_some,
        Status.result?_eq_none (Status.isTerminal_of_isInProgress begun)]
      exact ⟨rfl, rfl⟩
    | ended result =>
      obtain ⟨-, rfl⟩ := stands
      simp only [Sign.isUnderWay, Sign.isDenial, Option.any_some, Option.bind_some,
        Status.isInProgress_ofResult, Status.result?_ofResult]
      exact ⟨rfl, rfl⟩

namespace Scene

variable {scene next : Scene} {id : Nat} {first : Breaker}

/-- The books of a breaker in a scene. -/
def Books (id : Nat) (first : Breaker) (scene : Scene) : Prop :=
  scene.run.state.Books id first (scene.signs.countP (·.isUnderWay))
    (scene.signs.countP (·.isDenial))

/-- A lifecycle that goes on keeps the books. -/
theorem Acts.books {executor : Executor} {unit : WorkUnit} {before after : Phase}
    {own : Multiset Sign} (acts : Acts executor unit before after own scene next)
    (gated : executor.breaker = some id) (underWay : own.countP (·.isUnderWay) = before.underWay)
    (denied : own.countP (·.isDenial) = before.denials) (books : scene.Books id first) :
    next.Books id first := by
  obtain ⟨shown, rest, here, there, shows, regular, story⟩ := acts
  obtain ⟨open_, denials⟩ := shows.countP regular
  -- the signs that stay are those of everybody else, and their numbers do not change
  rw [Books, there, Multiset.countP_add, Multiset.countP_add, open_, denials, Nat.add_comm,
    Nat.add_comm after.denials]
  refine (story .nobody).books gated (Phase.ne_of_isRegular regular).2 ?_
  rw [← underWay, ← denied, Nat.add_comm, Nat.add_comm _ (own.countP _), ← Multiset.countP_add,
    ← Multiset.countP_add, ← here]
  exact books

/-- A lifecycle whose turn comes shows on its handle whether its operation is under way. -/
theorem Tidy.countP_turned (tidy : scene.Tidy) {item : Appointment Job} {status : Option Status}
    {rest : Multiset Sign}
    (here : scene.signs = {.task item} + {.handle item.body.lifecycle status} + rest) :
    let own : Multiset Sign := {.task item} + {.handle item.body.lifecycle status}
    own.countP (·.isUnderWay) = item.body.isUnderWay.toNat ∧ own.countP (·.isDenial) = 0 := by
  have planned : item ∈ scene.run.loop.agenda := task_mem_signs.1 (by simp [here])
  have shown : scene.run.state.statuses.find? item.body.lifecycle.handle = status :=
    (handle_mem_signs.1 (by simp [here])).2
  obtain ⟨told, found, unfinished, begun⟩ := tidy.told item planned
  cases shown.symm.trans found
  intro own
  rw [Multiset.countP_add, Multiset.countP_add, Sign.countP_singleton, Sign.countP_singleton,
    Sign.countP_singleton, Sign.countP_singleton]
  simp only [Sign.isUnderWay, Sign.isDenial, Option.any_some, begun, Option.bind_some,
    Status.result?_eq_none unfinished]
  exact ⟨Nat.zero_add _, rfl⟩

/-- Every move keeps the books. -/
theorem Passage.books {move : Move} (passage : Passage scene next move) (tidy : scene.Tidy)
    (allowed : move.Allowed (.gated id)) (peopled : scene.Peopled (.gated id))
    (books : scene.Books id first) : next.Books id first := by
  cases passage with
  | quiet gone cut signs deeds asides state =>
    -- nobody makes an attempt, so nobody has to be known
    have spare : ∀ deed ∈ deeds, deed.Spares id := by
      have still : move.Allowed
          ⟨fun _ => true, fun _ _ => False, fun _ => True, (Surroundings.gated id).alters⟩ := by
        cases move with
        | loop | leave => trivial
        | submit | enter => exact fun other => absurd other Bool.noConfusion
        | shutDown => trivial
        | intervene change => exact allowed
      intro deed member
      have aside := asides _ still deed member
      cases deed with
      | begin | conclude => exact aside.2
      | alter change => exact aside
      | publish | elapse | setScheduler => trivial
    have same (shows : Sign → Bool) (none : ∀ item, shows (.task item) = false) :
        next.signs.countP (shows ·) = scene.signs.countP (shows ·) := by
      rw [signs, Multiset.countP_add, Sign.countP_tasks shows none, Nat.zero_add]
    rw [Books, state, same _ fun _ => rfl, same _ fun _ => rfl]
    exact World.Books.performAll books spare
  | started start acts =>
    exact acts.books (allowed.plays start rfl) rfl rfl books
  | turned acts turn performs =>
    rename_i owner body status phase
    have ⟨_, rest, here, _⟩ := acts
    obtain ⟨underWay, denied⟩ := tidy.countP_turned here
    have plays :=
      peopled.plays acts (Multiset.mem_add.2 (.inl (Multiset.mem_singleton_self _))) rfl rfl
    refine acts.books plays ?_ ?_ books
    · rw [underWay]
      cases body <;> rfl
    · rw [denied]
      cases body <;> rfl
  | called acts =>
    have plays := peopled.plays acts (Multiset.mem_singleton_self _) rfl rfl
    exact acts.books plays (Sign.countP_singleton _ _) (Sign.countP_singleton _ _) books

theorem Tidy.books (tidy : scene.Tidy) (peopled : scene.Peopled (.gated id)) (moves : List Move)
    (allowed : ∀ move ∈ moves, move.Allowed (.gated id)) (books : scene.Books id first) :
    (scene.play moves).Books id first := by
  induction moves generalizing scene with
  | nil => exact books
  | cons move moves ih =>
    obtain ⟨tidier, passage⟩ := tidy.after move
    have here := allowed move List.mem_cons_self
    exact ih tidier (passage.peopled here peopled)
      (fun other member => allowed other (List.mem_cons_of_mem _ member))
      (passage.books tidy here peopled books)

/-! ## What a scene shows -/

/-- Whether a handle shows an attempt that has begun. -/
def showsBegun (scene : Scene) (lifecycle : Lifecycle) : Bool :=
  (scene.run.state.statuses.find? lifecycle.handle).any (·.isInProgress)

/-- The number of operations that are running, in the foreground and in the background. -/
def inFlight (scene : Scene) : Nat :=
  scene.visits.length + scene.run.loop.agenda.countP (·.body.isUnderWay)

/-- The number of operations that a shutdown has cut off: their handles show an attempt that has
begun, and nothing is planned for them. -/
def cutShort (scene : Scene) : Nat :=
  scene.handles.countP fun lifecycle =>
    scene.showsBegun lifecycle &&
      decide (lifecycle.handle ∉ scene.run.loop.agenda.map (·.body.lifecycle.handle))

/-- The number of attempts that ended their lifecycles because they were not admitted. -/
def denials (scene : Scene) : Nat :=
  scene.returned.countP (isDenial ·.2) +
    scene.handles.countP fun lifecycle =>
      ((scene.run.state.statuses.find? lifecycle.handle).bind (·.result?)).any isDenial

/-- The operations that run in the background are those whose handles show an attempt that has begun
and has something planned. -/
theorem Tidy.countP_agenda (tidy : scene.Tidy) :
    scene.run.loop.agenda.countP (·.body.isUnderWay) =
      (scene.handles.filter fun lifecycle =>
        lifecycle.handle ∈ scene.run.loop.agenda.map (·.body.lifecycle.handle)).countP
          scene.showsBegun := by
  -- both numbers are those of the lifecycles whose operations run, each of them counted once
  have distinct : (scene.run.loop.agenda.map (·.body.lifecycle)).Nodup := by
    refine .of_map (·.handle) ?_
    rw [Multiset.map_map]
    exact tidy.alone
  have handles : scene.handles.Nodup :=
    .of_map (·.handle) (tidy.numbered ▸ List.nodup_range)
  have same : (scene.run.loop.agenda.filter (·.body.isUnderWay)).map (·.body.lifecycle) =
      ↑((scene.handles.filter fun lifecycle =>
        lifecycle.handle ∈ scene.run.loop.agenda.map (·.body.lifecycle.handle)).filter
          scene.showsBegun) := by
    refine (Multiset.Nodup.ext (Multiset.nodup_of_le
      (Multiset.map_le_map (Multiset.filter_le _ _)) distinct)
      (Multiset.coe_nodup.2 ((handles.filter _).filter _))).2 fun lifecycle => ?_
    simp only [Multiset.mem_map, Multiset.mem_filter, Multiset.mem_coe, List.mem_filter,
      decide_eq_true_eq]
    constructor
    · rintro ⟨item, ⟨planned, underWay⟩, rfl⟩
      obtain ⟨status, found, -, begun⟩ := tidy.told item planned
      refine ⟨⟨tidy.known item planned, item, planned, rfl⟩, ?_⟩
      rw [showsBegun, found, Option.any_some, begun, underWay]
    · rintro ⟨⟨given, item, planned, sameHandle⟩, shown⟩
      have own := tidy.handle_injective (tidy.known item planned) given sameHandle
      obtain ⟨status, found, -, begun⟩ := tidy.told item planned
      rw [showsBegun, ← own, found, Option.any_some, begun] at shown
      exact ⟨item, ⟨planned, shown⟩, own⟩
  have size := congrArg Multiset.card same
  rw [Multiset.card_map, Multiset.coe_card] at size
  rw [Multiset.countP_eq_card_filter, size, List.countP_eq_length_filter]

/-- Calls, handles and returned results are counted one by one. -/
theorem countP_signs (scene : Scene) (shows : Sign → Bool)
    (none : ∀ item, shows (.task item) = false) :
    scene.signs.countP (shows ·) =
      scene.visits.countP (fun visit => shows (.call visit)) +
        scene.handles.countP (fun lifecycle =>
          shows (.handle lifecycle (scene.run.state.statuses.find? lifecycle.handle))) +
        scene.returned.countP fun entry => shows (.result entry.1 entry.2) := by
  have counted {α : Type} (sign : α → Sign) (items : List α) :
      (Multiset.map sign ↑items).countP (shows ·) = items.countP fun item => shows (sign item) := by
    rw [Multiset.map_coe, Multiset.coe_countP, List.countP_map]
    exact List.countP_congr fun _ _ => by simp
  rw [signs, Register.signs, Multiset.countP_add, Multiset.countP_add, Multiset.countP_add,
    Sign.countP_tasks shows none, counted, counted, counted, Nat.zero_add]

/-- The invocations that have not come to a result are running or were cut off. -/
theorem Tidy.countP_isUnderWay (tidy : scene.Tidy) :
    scene.signs.countP (·.isUnderWay) = scene.inFlight + scene.cutShort := by
  have handles := List.countP_eq_countP_filter_add scene.handles scene.showsBegun fun lifecycle =>
    decide (lifecycle.handle ∈ scene.run.loop.agenda.map (·.body.lifecycle.handle))
  have aborted : scene.cutShort = (scene.handles.filter fun lifecycle =>
      !decide (lifecycle.handle ∈ scene.run.loop.agenda.map (·.body.lifecycle.handle))).countP
        scene.showsBegun := by
    rw [List.countP_filter, cutShort]
    exact List.countP_congr fun lifecycle _ => by simp
  -- every call in the foreground is under way; a handle is if its attempt has begun
  have shown : scene.signs.countP (·.isUnderWay) =
      scene.visits.length + scene.handles.countP scene.showsBegun := by
    rw [scene.countP_signs _ fun _ => rfl]
    simp only [Sign.isUnderWay, List.countP_true, List.countP_false, Function.const_apply,
      Nat.add_zero]
    rfl
  rw [shown, handles, inFlight, tidy.countP_agenda, aborted]
  omega

theorem countP_isDenial (scene : Scene) : scene.signs.countP (·.isDenial) = scene.denials := by
  rw [scene.countP_signs _ fun _ => rfl]
  simp only [Sign.isDenial, List.countP_false, Function.const_apply, Nat.zero_add]
  exact Nat.add_comm _ _

end Scene

/-! ## Deeds -/

/-- One if a deed ends an invocation in a way that a filter leaves uncounted. -/
def Deed.overlooked (filter : FaultFilter) (world : World) : Deed → Nat
  | conclude executor unit prior outcome _ =>
    (filter.overlooks prior
      ((world.operation executor.operation).conclude unit outcome)).toNat
  | begin .. | publish .. | elapse .. | setScheduler .. | alter _ => 0

/-- A deed invokes no operation, or it is the first half of an attempt and the breaker admits it at
the same instant. The failed invocations that are not counted are those that a filter overlooks. -/
structure Deed.Booked (id : Nat) (filter : FaultFilter) (world : World) (deed : Deed) : Prop where
  invoked :
    ((world.perform deed).account fun _ => true).invocations =
        (world.account fun _ => true).invocations ∨
      ((world.perform deed).account fun _ => true).invocations =
          (world.account fun _ => true).invocations + 1 ∧
        ∃ executor unit prior now breaker, deed = .begin executor unit prior now ∧
          executor.breaker = some id ∧ world.breakers.find? id = some breaker ∧
          (breaker.acquire (Instant.ofMillis now)).1 = .ok ()
  uncounted :
    ((world.perform deed).account fun _ => true).uncounted filter =
      (world.account fun _ => true).uncounted filter + deed.overlooked filter world

section Deeds

variable {id : Nat} {filter : FaultFilter} {world : World} {deed : Deed} {breaker : Breaker}

theorem Deed.booked (aside : deed.Aside (.gated id))
    (found : world.breakers.find? id = some breaker) :
    deed.Booked id filter world ∧ ∃ after, (world.perform deed).breakers.find? id = some after := by
  -- a deed that is told nowhere is booked as it is
  have quiet (same : (world.perform deed).account (fun _ => true) = world.account fun _ => true)
      (nothing : deed.overlooked filter world = 0) : deed.Booked id filter world := by
    refine ⟨.inl (by rw [same]), ?_⟩
    rw [same, nothing, Nat.add_zero]
  cases deed with
  | publish now handle status =>
    refine ⟨quiet ?_ rfl, breaker, found⟩
    rw [World.perform, World.account, World.tale_publish, World.account]
  | elapse | setScheduler => exact ⟨quiet rfl rfl, breaker, found⟩
  | alter change => exact ⟨quiet rfl rfl, breaker, (aside world).trans found⟩
  | begin executor unit prior now =>
    obtain ⟨after, kept, gate⟩ := @Executor.gate_beginAttempt executor unit prior now id world
      breaker aside.2 found
    obtain ⟨occurrences, opening, tale⟩ := @Executor.tale_beginAttempt_of_mine executor unit prior
      now world (fun _ => true) rfl
    obtain ⟨invocations, uncounted⟩ := opening.invocations filter
    refine ⟨⟨?_, ?_⟩, after, kept⟩
    · rw [World.perform, World.account_of_tale tale, Account.plus]
      dsimp only
      rw [invocations]
      generalize (executor.beginAttempt unit prior now world).1 = begun at gate
      cases gate with
      | denied | unasked => exact .inl rfl
      | admitted passed =>
        exact .inr ⟨rfl, executor, unit, prior, now, breaker, rfl, aside.2, found, passed⟩
    · rw [World.perform, World.account_of_tale tale, Account.uncounted_plus, uncounted]
      rfl
  | conclude executor unit prior outcome now =>
    have kept := @Executor.find?_endAttempt executor unit prior now id world breaker aside.2 found
      outcome
    obtain ⟨occurrences, closing, tale⟩ := @Executor.tale_endAttempt_of_mine executor unit prior now
      world (fun _ => true) rfl outcome
    obtain ⟨invocations, uncounted, -⟩ := closing.uncounted filter
    refine ⟨⟨.inl ?_, ?_⟩, _, kept⟩
    · rw [World.perform, World.account_of_tale tale, Account.plus]
      dsimp only
      rw [invocations, Nat.add_zero]
    · rw [World.perform, World.account_of_tale tale, Account.uncounted_plus, uncounted]
      rfl

/-- Every deed of executors with one breaker is booked. -/
theorem Deed.booked_of_mem (found : world.breakers.find? id = some breaker) (deeds : List Deed)
    (asides : ∀ deed ∈ deeds, deed.Aside (.gated id)) (early late : List Deed)
    (split : deeds = early ++ deed :: late) : deed.Booked id filter (world.performAll early) := by
  subst split
  induction early generalizing world breaker with
  | nil => exact (Deed.booked (asides deed List.mem_cons_self) found).1
  | cons done early ih =>
    obtain ⟨-, after, kept⟩ :=
      @Deed.booked id filter world done breaker (asides done List.mem_cons_self) found
    exact ih kept fun other member => asides other (List.mem_cons_of_mem _ member)

end Deeds

namespace Scene

/-- The bookkeeping of a breaker through which executors put all their attempts, at every moment of
a scene. The invocations are the calls that the breaker has counted, the failed ones that its filter
does not count, and those that are running or were cut off; the rejections are the attempts that
ended their lifecycles unadmitted. Nothing happens but the deeds of the moves; all attempts among
them are made by executors with the breaker, and each invocation comes with an admission at the same
instant. -/
theorem books_of_play (id : Nat) (first : Breaker) (world : World) (now : Nat) (moves : List Move)
    (found : world.breakers.find? id = some first)
    (allowed : ∀ move ∈ moves, move.Allowed (.gated id)) :
    let start := opening world now
    let scene := start.play moves
    scene.run.state.Books id first (scene.inFlight + scene.cutShort) scene.denials ∧
      scene.run.state = start.run.state.performAll (start.allDeeds moves) ∧
      ∀ early deed late, start.allDeeds moves = early ++ deed :: late →
        deed.Aside (.gated id) ∧
          deed.Booked id first.config.filter (start.run.state.performAll early) := by
  intro start scene
  have tidy := tidy_opening world now
  have nobody : start.Peopled (.gated id) :=
    fun sign member => absurd member (Multiset.notMem_zero sign)
  have balanced : start.Books id first := ⟨first, found, rfl, Nat.zero_add _, rfl⟩
  have books := tidy.books nobody moves allowed balanced
  rw [Books, (tidy.play moves).countP_isUnderWay, countP_isDenial] at books
  have asides := tidy.asides nobody (fun _ => rfl) moves allowed
  have present : start.run.state.breakers.find? id = some first := found
  refine ⟨books, start.state_play moves, fun early deed late split => ⟨?_, ?_⟩⟩
  · exact asides deed (split ▸ List.mem_append_right _ List.mem_cons_self)
  · exact Deed.booked_of_mem present _ asides early late split

/-- One operation is slow, and a shutdown cuts it off. Another one fails and opens the circuit, so a
third attempt is denied. -/
theorem books_of_play_cut_short :
    let first := Breaker.start "payments" { minimumCalls := 1, countThreshold := 1 } 0
    let slow : Operation := { name := "slow", respond := fun _ _ => ⟨.ofMillis 50, .ok ()⟩ }
    let down : Operation :=
      { name := "down", respond := fun _ _ => ⟨.zero, .error (.of .timeout "late")⟩ }
    let patient : Executor := { operation := 0, counter := default, breaker := some 7 }
    let hasty : Executor :=
      { operation := 1, counter := default, handler := ⟨.noRetry, none⟩, breaker := some 7 }
    let unit (id : String) : WorkUnit := ⟨id, "deliver", none, .empty⟩
    let world : World :=
      { operations := (Table.insert {} 0 slow).insert 1 down, breakers := Table.insert {} 7 first }
    let moves : List Move :=
      [.submit patient (unit "a"), .loop .turn, .submit hasty (unit "b"), .loop .turn,
        .submit hasty (unit "c"), .loop .turn, .shutDown 0]
    let scene := (opening world 0).play moves
    world.breakers.find? 7 = some first ∧ (∀ move ∈ moves, move.Allowed (.gated 7)) ∧
      (scene.run.state.account fun _ => true).invocations = 2 ∧
      (scene.inFlight = 0 ∧ scene.cutShort = 1 ∧ scene.denials = 1) ∧
      scene.run.state.Books 7 first 1 1 := by
  intro first slow down patient hasty unit world moves scene
  have found : world.breakers.find? 7 = some first := rfl
  have submitted (executor : Executor) (gated : executor.breaker = some 7) (other : WorkUnit) :
      (Move.submit executor other).Allowed (.gated 7) := fun _ => gated
  have allowed : ∀ move ∈ moves, move.Allowed (.gated 7) := by
    simp only [moves, List.forall_mem_cons]
    exact ⟨submitted patient rfl _, trivial, submitted hasty rfl _, trivial, submitted hasty rfl _,
      trivial, trivial, List.forall_mem_nil _⟩
  have shown : (scene.run.state.account fun _ => true).invocations = 2 ∧
      scene.inFlight = 0 ∧ scene.cutShort = 1 ∧ scene.denials = 1 := by
    decide +kernel
  obtain ⟨books, -⟩ := books_of_play 7 first world 0 moves found allowed
  refine ⟨found, allowed, shown.1, shown.2, ?_⟩
  rw [show (opening world 0).play moves = scene from rfl, shown.2.1, shown.2.2.1,
    shown.2.2.2] at books
  exact books

end Scene

end Resilience
