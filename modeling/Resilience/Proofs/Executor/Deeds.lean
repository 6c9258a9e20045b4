import Resilience.Proofs.Executor.Scene

/-!
# The deeds of moves

A move in a scene is made of deeds: halves of attempts, statuses that are shown, time that passes,
changes from outside. Which deeds these are, and in which order, is settled by the scene in which the
move is made. They are written down here, move by move, and the world after the moves is the world
before them with these deeds performed. So whatever is to be said of each attempt in a scene can be
said of its deeds, in the worlds that they find.

## Main definitions

* `Lifecycle.attemptDeeds`, `concludeDeeds`, `postponeDeeds` — the deeds of a turn
* `Scene.deeds` — the deeds of a move
* `Scene.allDeeds` — the deeds of several moves, in order

## Main statements

* `Scene.state_after`, `Scene.state_play` — nothing happens but the deeds of the moves
* `Scene.Peopled.asides`, `Tidy.asides` — known executors do all of them
-/

namespace Resilience

namespace World

variable (world : World) (deed : Deed) (deeds : List Deed)

@[simp] theorem performAll_cons :
    world.performAll (deed :: deeds) = (world.perform deed).performAll deeds := rfl

end World

/-- An executor that is known works on a unit of no interest. -/
def Surroundings.Knows (surroundings : Surroundings) (executor : Executor) (unit : WorkUnit) :
    Prop :=
  surroundings.mine unit = false ∧ surroundings.plays executor unit

/-! ## Deeds of lifecycles -/

namespace Lifecycle

variable (lifecycle : Lifecycle)

/-- The retry is shown, and then that the scheduler refuses it, if it does. -/
def postponeDeeds (attempt : Nat) (delay : Duration) (now : Nat) (world : World) : List Deed :=
  .publish now lifecycle.handle (.retryScheduled attempt delay) ::
    if (world.scheduler lifecycle.executor.scheduler).isShutDown then
      [.publish now lifecycle.handle (.failed .schedulerShutDown)]
    else []

/-- What an attempt has come to is shown. -/
def followDeeds (now : Nat) (world : World) : Sequel → List Deed
  | .done result => [.publish now lifecycle.handle (.ofResult result)]
  | .retry attempt delay => lifecycle.postponeDeeds attempt delay now world

/-- The second half of an attempt. -/
def concludeDeeds (prior : Nat) (outcome : Except Fault Unit) (now : Nat) (world : World) :
    List Deed :=
  let half := lifecycle.executor.endAttempt lifecycle.unit prior outcome now world
  .conclude lifecycle.executor lifecycle.unit prior outcome now ::
    lifecycle.followDeeds now half.2 half.1

/-- What follows the first half of an attempt in the same turn: it has ended, or the operation takes
no time and the second half is made at once. -/
def begunDeeds (prior now : Nat) (world : World) : Begun → List Deed
  | .ended result => [.publish now lifecycle.handle (.ofResult result)]
  | .running response =>
    if response.latency = .zero then lifecycle.concludeDeeds prior response.outcome now world
    else []

/-- The turn of an attempt: its number is shown, and its first half is made. -/
def attemptDeeds (prior now : Nat) (world : World) : List Deed :=
  let half := lifecycle.executor.beginAttempt lifecycle.unit prior now
    (world.publish now lifecycle.handle (.inProgress (Executor.nextAttempt prior)))
  .publish now lifecycle.handle (.inProgress (Executor.nextAttempt prior)) ::
    .begin lifecycle.executor lifecycle.unit prior now ::
      lifecycle.begunDeeds prior now half.2 half.1

variable {lifecycle} {run : Universe}

theorem state_postpone (attempt : Nat) (delay : Duration) :
    (lifecycle.postpone attempt delay run).state =
      run.state.performAll (lifecycle.postponeDeeds attempt delay run.loop.now run.state) := by
  by_cases shut : (run.state.scheduler lifecycle.executor.scheduler).isShutDown = true
  · rw [postpone_of_shut shut, postponeDeeds, if_pos shut]
    rfl
  · rw [postpone_of_open (Bool.eq_false_iff.2 shut), postponeDeeds, if_neg shut]
    rfl

theorem state_follow (sequel : Sequel) :
    (lifecycle.follow sequel run).state =
      run.state.performAll (lifecycle.followDeeds run.loop.now run.state sequel) := by
  cases sequel with
  | done result => rfl
  | retry attempt delay => exact state_postpone attempt delay

theorem state_conclude (prior : Nat) (outcome : Except Fault Unit) :
    (lifecycle.conclude prior outcome run).state =
      run.state.performAll
        (lifecycle.concludeDeeds prior outcome run.loop.now run.state) :=
  state_follow _

/-- After the first half of an attempt its other deeds are still to be performed. -/
theorem Begins.performAll {prior : Nat} {begun : Begun} {world : World}
    (begins : lifecycle.Begins prior run begun world) :
    run.state.performAll (lifecycle.attemptDeeds prior run.loop.now run.state) =
      world.performAll (lifecycle.begunDeeds prior run.loop.now world begun) := by
  have half : lifecycle.executor.beginAttempt lifecycle.unit prior run.loop.now
      (run.state.publish run.loop.now lifecycle.handle
        (.inProgress (Executor.nextAttempt prior))) = (begun, world) := begins
  simp only [attemptDeeds, half, World.performAll_cons, World.perform]

theorem state_attempt (prior : Nat) :
    (lifecycle.attempt prior run).state =
      run.state.performAll (lifecycle.attemptDeeds prior run.loop.now run.state) := by
  have comes := lifecycle.attempts prior run
  generalize lifecycle.attempt prior run = next at comes ⊢
  cases comes with
  | ended begins => exact begins.performAll.symm
  | @atOnce response world begins instant =>
    rw [begins.performAll, begunDeeds, if_pos instant]
    exact @state_conclude lifecycle { run with state := world } prior response.outcome
  | lasting begins lasts =>
    rw [begins.performAll, begunDeeds, if_neg lasts]
    rfl

/-! ### Aside -/

section Asides

variable {surroundings : Surroundings} {world : World} {now : Nat}

theorem asides_postponeDeeds (attempt : Nat) (delay : Duration) :
    ∀ deed ∈ lifecycle.postponeDeeds attempt delay now world, deed.Aside surroundings := by
  refine List.forall_mem_cons.2 ⟨trivial, ?_⟩
  split
  · exact List.forall_mem_singleton.2 trivial
  · exact List.forall_mem_nil _

theorem asides_concludeDeeds (known : surroundings.Knows lifecycle.executor lifecycle.unit)
    (prior : Nat) (outcome : Except Fault Unit) :
    ∀ deed ∈ lifecycle.concludeDeeds prior outcome now world, deed.Aside surroundings := by
  refine List.forall_mem_cons.2 ⟨known, ?_⟩
  generalize (lifecycle.executor.endAttempt lifecycle.unit prior outcome now world).1 = sequel
  cases sequel with
  | done result => exact List.forall_mem_singleton.2 trivial
  | retry attempt delay => exact asides_postponeDeeds attempt delay

theorem asides_attemptDeeds (known : surroundings.Knows lifecycle.executor lifecycle.unit)
    (prior : Nat) :
    ∀ deed ∈ lifecycle.attemptDeeds prior now world, deed.Aside surroundings := by
  refine List.forall_mem_cons.2 ⟨trivial, List.forall_mem_cons.2 ⟨known, ?_⟩⟩
  generalize (lifecycle.executor.beginAttempt lifecycle.unit prior now _).1 = begun
  cases begun with
  | ended result => exact List.forall_mem_singleton.2 trivial
  | running response =>
    rw [begunDeeds]
    split
    · exact asides_concludeDeeds known prior response.outcome
    · exact List.forall_mem_nil _

end Asides

end Lifecycle

namespace Job

/-- The deeds of a turn. -/
def deeds (now : Nat) (world : World) : Job → List Deed
  | attempt lifecycle prior => lifecycle.attemptDeeds prior now world
  | conclude lifecycle prior outcome => lifecycle.concludeDeeds prior outcome now world

theorem state_perform (owner : Option Nat) (delay : Duration) (body : Job) (run : Universe) :
    (World.reactor.perform ⟨owner, delay, body⟩ run).state =
      run.state.performAll (body.deeds run.loop.now run.state) := by
  cases body with
  | attempt lifecycle prior => exact Lifecycle.state_attempt prior
  | conclude lifecycle prior outcome => exact Lifecycle.state_conclude prior outcome

theorem asides_deeds {surroundings : Surroundings} {now : Nat} {world : World} {body : Job}
    (known : surroundings.Knows body.lifecycle.executor body.lifecycle.unit) :
    ∀ deed ∈ body.deeds now world, deed.Aside surroundings := by
  cases body with
  | attempt lifecycle prior => exact Lifecycle.asides_attemptDeeds known prior
  | conclude lifecycle prior outcome => exact Lifecycle.asides_concludeDeeds known prior outcome

end Job

/-- The deeds of the end of a call. A retry gets a handle, which shows that its unit is pending. -/
def Visit.deeds (visit : Visit) (now : Nat) (world : World) : List Deed :=
  let half := visit.executor.endAttempt visit.unit 0 visit.outcome now world
  .conclude visit.executor visit.unit 0 visit.outcome now ::
    match half.1 with
    | .done _ => []
    | .retry attempt delay =>
      .publish now half.2.freshHandle .pending ::
        Lifecycle.postponeDeeds ⟨visit.executor, visit.unit, half.2.freshHandle⟩ attempt delay now
          half.2

theorem Visit.asides_deeds {surroundings : Surroundings} {now : Nat} {world : World} (visit : Visit)
    (known : surroundings.Knows visit.executor visit.unit) :
    ∀ deed ∈ visit.deeds now world, deed.Aside surroundings := by
  refine List.forall_mem_cons.2 ⟨known, ?_⟩
  split
  · exact List.forall_mem_nil _
  · exact List.forall_mem_cons.2 ⟨trivial, Lifecycle.asides_postponeDeeds _ _⟩

/-! ## Deeds of moves -/

/-- The job whose turn comes next, if its time has come. -/
def World.nextJob? (run : Universe) : Option Job :=
  match run.loop.ready with
  | .run task :: _ => if task.delay = .zero then some task.body else none
  | .drop _ :: _ | [] => none

theorem World.exists_appointed {run : Universe} {body : Job} (next : nextJob? run = some body) :
    ∃ owner, ⟨run.loop.now, owner, body⟩ ∈ run.loop.agenda := by
  unfold nextJob? at next
  split at next
  · rename_i task rest ready
    split at next
    · cases next
      exact ⟨task.owner, by rw [EventLoop.agenda_run ready ‹_›]; exact Multiset.mem_cons_self _ _⟩
    · cases next
  · cases next
  · cases next

namespace Scene

/-- The deeds of a move. -/
def deeds (scene : Scene) : Move → List Deed
  | .loop .turn =>
    (World.nextJob? scene.run).elim [] (·.deeds scene.run.loop.now scene.run.state)
  | .loop (.jump target) =>
    if scene.run.loop.canReach target then [.elapse scene.run.loop.now target] else []
  | .submit executor _ =>
    if (scene.run.state.scheduler executor.scheduler).isShutDown then []
    else [.publish scene.run.loop.now scene.run.state.freshHandle .pending]
  | .enter executor unit => [.begin executor unit 0 scene.run.loop.now]
  | .leave index => scene.visits[index]?.elim [] (·.deeds scene.run.loop.now scene.run.state)
  | .shutDown scheduler =>
    [.setScheduler scheduler ((scene.run.state.scheduler scheduler).shutDown scene.run.loop).1]
  | .intervene change => [.alter change]

/-- The deeds of several moves, in order. -/
def allDeeds : Scene → List Move → List Deed
  | _, [] => []
  | scene, move :: moves => scene.deeds move ++ (scene.after move).allDeeds moves

variable {scene : Scene}

theorem state_turn :
    (World.reactor.move scene.run .turn).state =
      scene.run.state.performAll (scene.deeds (.loop .turn)) := by
  rw [Reactor.move, Reactor.turn?, deeds, World.nextJob?]
  rcases scene.run.loop.ready with _ | ⟨task | task, rest⟩
  · rfl
  · by_cases now : task.delay = .zero
    · simp only [if_pos now]
      exact Job.state_perform task.owner task.delay task.body _
    · simp only [if_neg now]
      rfl
  · rfl

theorem state_concluding (visit : Visit) :
    (scene.concluding visit).run.state =
      scene.run.state.performAll (visit.deeds scene.run.loop.now scene.run.state) := by
  have concludes := scene.concludes visit
  generalize scene.concluding visit = next at concludes ⊢
  cases concludes with
  | done ended =>
    simp only [Visit.deeds, ended, World.performAll_cons, World.perform]
    rfl
  | @retry attempt delay world lifecycle ended handed =>
    have fresh := visit.executor.freshHandle_endAttempt visit.unit 0 visit.outcome
      scene.run.loop.now scene.run.state
    rw [ended] at fresh
    simp only [Visit.deeds, ended, World.performAll_cons, World.perform]
    rw [show lifecycle = _ from handed, ← fresh]
    exact Lifecycle.state_postpone attempt delay

/-- Nothing happens in a move but its deeds. -/
theorem state_after (scene : Scene) (move : Move) :
    (scene.after move).run.state = scene.run.state.performAll (scene.deeds move) := by
  cases move with
  | loop move =>
    cases move with
    | turn => exact state_turn
    | jump target =>
      rw [after, Reactor.move, deeds]
      split <;> rfl
  | submit executor unit =>
    by_cases shut : (scene.run.state.scheduler executor.scheduler).isShutDown = true
    · rw [after_submit_of_shut shut, deeds, if_pos shut]
      rfl
    · rw [after_submit_of_open (Bool.eq_false_iff.2 shut), deeds, if_neg shut]
      rfl
  | enter executor unit =>
    have comes := scene.comes (.enter executor unit)
    generalize scene.after (.enter executor unit) = next at comes ⊢
    -- whether the operation is invoked or not, the first half of the attempt is all that is done
    rw [deeds, World.performAll_cons, World.perform]
    cases comes with
    | answered begun | entered begun => rw [begun]; rfl
  | leave index =>
    rw [after, deeds]
    cases scene.visits[index]? with
    | none => rfl
    | some visit => exact @state_concluding { scene with visits := _ } visit
  | shutDown | intervene => rfl

/-- Nothing happens but the deeds of the moves. -/
theorem state_play (scene : Scene) (moves : List Move) :
    (scene.play moves).run.state = scene.run.state.performAll (scene.allDeeds moves) := by
  induction moves generalizing scene with
  | nil => rfl
  | cons move moves ih =>
    rw [allDeeds, World.performAll_append, ← state_after]
    exact ih (scene.after move)

/-- Whoever is known before some moves and does nothing but what is allowed, does it all aside. -/
theorem Peopled.asides {surroundings : Surroundings} {move : Move}
    (peopled : scene.Peopled surroundings) (allowed : move.Allowed surroundings)
    (others : ∀ other, surroundings.mine other = false) :
    ∀ deed ∈ scene.deeds move, deed.Aside surroundings := by
  cases move with
  | loop move =>
    cases move with
    | turn =>
      rw [deeds]
      cases next : World.nextJob? scene.run with
      | none => exact List.forall_mem_nil _
      | some body =>
        -- the job is on the agenda until its turn, so it is seen whose it is
        obtain ⟨owner, planned⟩ := World.exists_appointed next
        exact Job.asides_deeds ⟨others _, peopled _ (task_mem_signs.2 planned) (others _) _ rfl⟩
    | jump target =>
      rw [deeds]
      split
      · exact List.forall_mem_singleton.2 trivial
      · exact List.forall_mem_nil _
  | submit executor unit =>
    rw [deeds]
    split
    · exact List.forall_mem_nil _
    · exact List.forall_mem_singleton.2 trivial
  | enter executor unit =>
    exact List.forall_mem_singleton.2 ⟨others unit, allowed (others unit)⟩
  | leave index =>
    rw [deeds]
    cases found : scene.visits[index]? with
    | none => exact List.forall_mem_nil _
    | some visit =>
      exact visit.asides_deeds
        ⟨others _, peopled _ (call_mem_signs.2 (List.mem_of_getElem? found)) (others _) _ rfl⟩
  | shutDown scheduler => exact List.forall_mem_singleton.2 allowed
  | intervene change => exact List.forall_mem_singleton.2 allowed

/-- Nothing is changed from outside but by who intervenes. -/
theorem unaltered {move : Move} (inside : ∀ change, move ≠ .intervene change) :
    ∀ deed ∈ scene.deeds move, ∀ change, deed ≠ .alter change := by
  -- whoever else there is, nobody is allowed to change anything
  have asides := @Peopled.asides scene
    ⟨fun _ => false, fun _ _ => True, fun _ => True, fun _ => False⟩ move (fun _ _ _ _ _ => trivial)
    (by cases move <;> first | trivial | exact fun _ => trivial | exact absurd rfl (inside _))
    fun _ => rfl
  rintro deed member change rfl
  exact asides _ member

/-- Where everybody is known, all that happens is done by known executors. -/
theorem Tidy.asides {surroundings : Surroundings} (tidy : scene.Tidy)
    (peopled : scene.Peopled surroundings) (others : ∀ other, surroundings.mine other = false)
    (moves : List Move) (allowed : ∀ move ∈ moves, move.Allowed surroundings) :
    ∀ deed ∈ scene.allDeeds moves, deed.Aside surroundings := by
  induction moves generalizing scene with
  | nil => exact List.forall_mem_nil _
  | cons move moves ih =>
    obtain ⟨tidier, passage⟩ := tidy.after move
    have here := allowed move List.mem_cons_self
    exact List.forall_mem_append.2 ⟨peopled.asides here others,
      ih tidier (passage.peopled here peopled)
        fun other member => allowed other (List.mem_cons_of_mem _ member)⟩

end Scene

end Resilience
