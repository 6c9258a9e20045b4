import Resilience.Proofs.Executor.Calls
import Resilience.Proofs.Executor.Course

/-!
# Lifecycles in company

An executor works on many units at once: their turns interleave, their counts lie side by side and
are swept together, and they share one operation, one source and one scheduler. Still each of them
takes the course that it would take by itself. In every scene to which units of one executor are
submitted, a lifecycle has taken some number of the turns of its course, it sees what it would see
after them by itself, and its next turn is not in the past. So two scenes to which a unit is
submitted at one time cannot disagree about it.

## Main definitions

* `Move.Accompanies` — moves of the loop, and submissions of other units to an executor
* `Scene.Serves` — a scene all of whose lifecycles belong to one executor
* `Scene.Service` — what a move comes to in such a scene
* `Scene.Follows` — a lifecycle has taken some turns of its course
* `Scene.AgreeOn` — what one scene tells of a unit is what another one tells of it

## Main statements

* `Scene.Serves.service` — there are no other moves
* `Scene.Follows.play` — a lifecycle follows its course
* `Scene.undisturbed` — a unit in company fares as it does alone
-/

namespace Resilience

/-- What happens in the company of a unit: turns and jumps of the loop, and submissions of other
units to the same executor. -/
def Move.Accompanies (executor : Executor) (unit : WorkUnit) : Move → Prop
  | loop _ => True
  | submit player other => player = executor ∧ unit.IsApart other
  | enter .. | leave _ | shutDown _ | intervene _ => False

namespace Scene

/-- A scene all of whose lifecycles belong to one executor, on a scheduler that accepts tasks. -/
structure Serves (executor : Executor) (scene : Scene) : Prop where
  tidy : scene.Tidy
  ordered : scene.run.loop.Ordered
  sound : scene.run.state.ledger.IsSound
  accepts : (scene.run.state.scheduler executor.scheduler).isShutDown = false
  served : ∀ lifecycle ∈ scene.handles, lifecycle.executor = executor
  silent : scene.returned = []

/-- What a turn, a jump or a submission comes to. -/
inductive Service (executor : Executor) (scene next : Scene) : Option WorkUnit → Prop
  /-- Nothing changes that a lifecycle could see. -/
  | idle (handles : next.handles = scene.handles)
      (agenda : next.run.loop.agenda = scene.run.loop.agenda)
      (now : next.run.loop.now = scene.run.loop.now)
      (state : next.run.state = scene.run.state) : Service executor scene next none
  /-- Time passes. -/
  | passed (handles : next.handles = scene.handles)
      (agenda : next.run.loop.agenda = scene.run.loop.agenda)
      (ahead : scene.run.loop.now ≤ next.run.loop.now)
      (state : next.run.state =
        scene.run.state.elapse scene.run.loop.now next.run.loop.now) :
    Service executor scene next none
  /-- A lifecycle takes its turn. -/
  | turned {owner : Option Nat} {body : Job} {items rest : Multiset (Appointment Job)}
      {status : Status} (handles : next.handles = scene.handles)
      (now : next.run.loop.now = scene.run.loop.now)
      (known : body.lifecycle ∈ scene.handles)
      (here : scene.run.loop.agenda = ⟨scene.run.loop.now, owner, body⟩ ::ₘ rest)
      (agenda : next.run.loop.agenda = items + rest)
      (state : next.run.state =
        (body.lifecycle.advance (body.phase scene.run.loop.now, scene.run.state)).2)
      (stands : (body.lifecycle.advance (body.phase scene.run.loop.now, scene.run.state)).1.Stands
        body.lifecycle items status)
      (statuses : next.run.state.statuses =
        scene.run.state.statuses.insert body.lifecycle.handle status) :
    Service executor scene next none
  /-- A unit is submitted. -/
  | submitted {unit : WorkUnit} {owner : Option Nat}
      (handles : next.handles =
        scene.handles ++ [⟨executor, unit, scene.run.state.freshHandle⟩])
      (now : next.run.loop.now = scene.run.loop.now)
      (agenda : next.run.loop.agenda =
        ⟨scene.run.loop.now, owner, .attempt ⟨executor, unit, scene.run.state.freshHandle⟩ 0⟩ ::ₘ
          scene.run.loop.agenda)
      (state : next.run.state = scene.run.state.publish scene.run.loop.now
        scene.run.state.freshHandle .pending) : Service executor scene next (some unit)

variable {executor : Executor} {unit : WorkUnit} {scene next : Scene} {start : World}
  {time handle turns : Nat}

namespace Serves

/-- What a move of the loop comes to. -/
theorem service_loop (serves : scene.Serves executor) (move : LoopMove) :
    Service executor scene (scene.after (.loop move)) none := by
  have comes := World.reactor.comes scene.run move
  rw [after]
  generalize World.reactor.move scene.run move = next at comes ⊢
  cases comes with
  | still => exact .idle rfl rfl rfl rfl
  | turned taken =>
    rcases Reactor.turn?_cases taken with
      ⟨agenda, state, now, -⟩ | ⟨⟨owner, delay, body⟩, rest, -, -, here, rfl⟩
    · exact .idle rfl agenda now state
    · let run : Universe := { scene.run with loop := { scene.run.loop with ready := rest } }
      have known : body.lifecycle ∈ scene.handles :=
        serves.tidy.known ⟨scene.run.loop.now, owner, body⟩
          (here ▸ Multiset.mem_cons_self _ _)
      have accepts :
          (run.state.scheduler body.lifecycle.executor.scheduler).isShutDown = false := by
        rw [serves.served _ known]
        exact serves.accepts
      obtain ⟨state, items, status, stands, agenda, shows⟩ :=
        World.perform_arrives owner delay body run accepts
      obtain ⟨_, _, shown, _, _, now, -, statuses, -⟩ :=
        World.perform_passes owner delay body run
      -- both tell the status that the handle shows now
      have same : status = shown := by
        rw [← state, statuses, Table.find?_insert_self] at shows
        exact (Option.some.inj shows).symm
      subst same
      exact .turned rfl now known here agenda state stands statuses
  | @jumped target reaches =>
    have ahead : scene.run.loop.now ≤ target := by
      simp only [EventLoop.canReach, Bool.and_eq_true, decide_eq_true_eq] at reaches
      exact reaches.1.2
    exact .passed rfl (EventLoop.agenda_wakeAt reaches) ahead rfl

theorem service_submit (serves : scene.Serves executor) (unit : WorkUnit) :
    Service executor scene (scene.after (.submit executor unit)) (some unit) ∧
      (scene.after (.submit executor unit)).returned = [] := by
  rw [after_submit_of_open serves.accepts]
  refine ⟨@Service.submitted executor scene _ unit
    (some (scene.run.state.scheduler executor.scheduler).id) rfl rfl ?_ rfl, serves.silent⟩
  refine (EventLoop.agenda_spawn _ _).trans ?_
  rw [Task.appointment, Duration.waitMillis_zero, Nat.add_zero]

theorem of_service (serves : scene.Serves executor) {submitted : Option WorkUnit}
    (service : Service executor scene next submitted) (tidy : next.Tidy)
    (ordered : next.run.loop.Ordered) (silent : next.returned = []) : next.Serves executor := by
  obtain ⟨-, -, sound, accepts, served, -⟩ := serves
  have still (same : next.run.state.schedulers = scene.run.state.schedulers) :
      (next.run.state.scheduler executor.scheduler).isShutDown = false :=
    (World.isShutDown_congr same _).trans accepts
  cases service with
  | idle handles agenda now state =>
    exact ⟨tidy, ordered, state ▸ sound, still (congrArg _ state), handles ▸ served, silent⟩
  | passed handles agenda ahead state =>
    exact ⟨tidy, ordered, by rw [state]; exact sound.elapse _ _, still (by rw [state]; rfl),
      handles ▸ served, silent⟩
  | turned handles now known here agenda state =>
    exact ⟨tidy, ordered, by rw [state]; exact Lifecycle.isSound_advance sound,
      still ((congrArg World.schedulers state).trans Lifecycle.schedulers_advance),
      handles ▸ served, silent⟩
  | submitted handles now agenda state =>
    refine ⟨tidy, ordered, by rw [state]; exact sound, still (by rw [state]; rfl), ?_, silent⟩
    rw [handles]
    exact List.forall_mem_append.2 ⟨served, List.forall_mem_singleton.2 rfl⟩

/-- What happens in company comes to one of the cases, and the scene goes on as before. -/
theorem service (serves : scene.Serves executor) {move : Move}
    (company : move.Accompanies executor unit) :
    (scene.after move).Serves executor ∧ ∃ submitted,
      Service executor scene (scene.after move) submitted ∧
        ∀ other ∈ submitted, unit.IsApart other := by
  have tidy := (serves.tidy.after move).1
  have ordered := ordered_after serves.ordered move
  cases move with
  | loop move =>
    have service := serves.service_loop move
    exact ⟨serves.of_service service tidy ordered serves.silent, none, service,
      fun other member => Option.noConfusion rfl (heq_of_eq member)⟩
  | submit player other =>
    obtain ⟨rfl, apart⟩ := company
    obtain ⟨service, silent⟩ := serves.service_submit other
    exact ⟨serves.of_service service tidy ordered silent, some other, service,
      fun another member => Option.some.inj member ▸ apart⟩
  | enter | leave | shutDown | intervene => exact company.elim

theorem play (serves : scene.Serves executor) {moves : List Move}
    (company : ∀ move ∈ moves, move.Accompanies executor unit) :
    (scene.play moves).Serves executor := by
  induction moves generalizing scene with
  | nil => exact serves
  | cons move moves ih =>
    exact ih (serves.service (company move List.mem_cons_self)).1
      fun other member => company other (List.mem_cons_of_mem _ member)

end Serves

theorem serves_opening {world : World} (now : Nat) (sound : world.ledger.IsSound)
    (accepts : (world.scheduler executor.scheduler).isShutDown = false) :
    (opening world now).Serves executor where
  tidy := tidy_opening world now
  ordered := ordered_opening world now
  sound := sound
  accepts := accepts
  served := List.forall_mem_nil _
  silent := rfl

/-! ## Before the submission -/

/-- A unit that is still to be submitted: nobody has come near it, so that it would see what it
would see at the opening, whatever its handle will be. -/
structure Awaits (executor : Executor) (unit : WorkUnit) (start : World) (scene : Scene) :
    Prop where
  others : ∀ lifecycle ∈ scene.handles, unit.IsApart lifecycle.unit
  sight : ∀ handle, scene.handles.length ≤ handle →
    executor.sight unit handle scene.run.loop.now scene.run.state =
      executor.sight unit 0 scene.run.loop.now start

/-- A handle that is given out is one of those that were given out before. -/
theorem handle_lt (tidy : scene.Tidy) {lifecycle : Lifecycle} (known : lifecycle ∈ scene.handles) :
    lifecycle.handle < scene.handles.length :=
  List.mem_range.1 (tidy.numbered ▸ List.mem_map_of_mem known)

theorem freshHandle_eq (tidy : scene.Tidy) :
    scene.run.state.freshHandle = scene.handles.length := tidy.size

theorem Awaits.after (plain : executor.IsPlain) (serves : scene.Serves executor)
    (awaits : Awaits executor unit start scene) {move : Move}
    (company : move.Accompanies executor unit) :
    Awaits executor unit start (scene.after move) := by
  obtain ⟨-, submitted, service, apart⟩ := serves.service company
  obtain ⟨others, sight⟩ := awaits
  generalize scene.after move = next at service ⊢
  cases service with
  | idle handles agenda now state =>
    refine ⟨handles ▸ others, ?_⟩
    rw [handles, now, state]
    exact sight
  | passed handles agenda ahead state =>
    refine ⟨handles ▸ others, fun handle fresh => ?_⟩
    rw [handles] at fresh
    rw [state, Executor.sight_elapse serves.sound]
    exact Executor.sight_of_le (sight handle fresh) ahead
  | @turned _ body _ _ _ handles now known here agenda state =>
    refine ⟨handles ▸ others, fun handle fresh => ?_⟩
    rw [handles] at fresh
    -- the sight of a handle to come does not change by a turn for one given out
    have elsewhere : body.lifecycle.handle ≠ handle :=
      Nat.ne_of_lt ((handle_lt serves.tidy known).trans_le fresh)
    obtain rfl := serves.served _ known
    rw [state, now, Lifecycle.sight_advance_of_other plain (others _ known) elsewhere]
    exact sight handle fresh
  | submitted handles now agenda state =>
    refine ⟨?_, fun handle fresh => ?_⟩
    · rw [handles]
      exact List.forall_mem_append.2 ⟨others, List.forall_mem_singleton.2 (apart _ rfl)⟩
    · rw [handles, List.length_append, List.length_singleton] at fresh
      have elsewhere : scene.run.state.freshHandle ≠ handle := by
        rw [freshHandle_eq serves.tidy]
        exact Nat.ne_of_lt fresh
      rw [state, now, Executor.sight_publish_of_ne elsewhere]
      exact sight handle (Nat.le_of_succ_le fresh)

theorem Awaits.play (plain : executor.IsPlain) (serves : scene.Serves executor)
    (awaits : Awaits executor unit start scene) {moves : List Move}
    (company : ∀ move ∈ moves, move.Accompanies executor unit) :
    Awaits executor unit start (scene.play moves) := by
  induction moves generalizing scene with
  | nil => exact awaits
  | cons move moves ih =>
    have here := company move List.mem_cons_self
    exact ih (serves.service here).1 (awaits.after plain serves here)
      fun other member => company other (List.mem_cons_of_mem _ member)

theorem awaits_opening (world : World) (now : Nat) :
    Awaits executor unit (opening world now).run.state (opening world now) where
  others := List.forall_mem_nil _
  sight := fun _ _ => rfl

/-! ## After the submission -/

/-- The lifecycle on a handle has taken some turns of the course of a unit that was submitted to a
world at some time: it stands in the phase that it has come to, it sees what it would see by itself,
and none of these turns is still to come. -/
structure Follows (executor : Executor) (unit : WorkUnit) (start : World) (time handle turns : Nat)
    (scene : Scene) : Prop where
  known : ⟨executor, unit, handle⟩ ∈ scene.handles
  others : ∀ lifecycle ∈ scene.handles, lifecycle.handle ≠ handle → unit.IsApart lifecycle.unit
  stands : ∃ items status,
    (executor.course unit start time turns).1.Stands ⟨executor, unit, handle⟩ items status ∧
      items ≤ scene.run.loop.agenda ∧ scene.run.state.statuses.find? handle = some status
  sight : executor.sight unit handle scene.run.loop.now scene.run.state =
    executor.sight unit 0 scene.run.loop.now (executor.course unit start time turns).2
  past : ∀ turn < turns, ∀ due ∈ (executor.course unit start time turn).1.due?,
    due ≤ scene.run.loop.now

/-- The job whose turn it is tells the phase of its lifecycle. -/
theorem phase_of_turn {lifecycle : Lifecycle} {phase : Phase} {owner : Option Nat} {body : Job}
    {items rest : Multiset (Appointment Job)} {status : Status} (tidy : scene.Tidy)
    (here : scene.run.loop.agenda = ⟨scene.run.loop.now, owner, body⟩ ::ₘ rest)
    (own : body.lifecycle = lifecycle) (stands : phase.Stands lifecycle items status)
    (listed : items ≤ scene.run.loop.agenda)
    (shows : scene.run.state.statuses.find? lifecycle.handle = some status) :
    phase = body.phase scene.run.loop.now := by
  have member : (⟨scene.run.loop.now, owner, body⟩ : Appointment Job) ∈ scene.run.loop.agenda :=
    here ▸ Multiset.mem_cons_self _ _
  obtain ⟨shown, found, unfinished, -⟩ := tidy.told _ member
  obtain rfl : shown = status := by
    rw [own, shows] at found
    exact (Option.some.inj found).symm
  -- without a task the lifecycle would have ended, but its status is not final
  rcases items.empty_or_exists_mem with rfl | ⟨item, listing⟩
  · cases phase with
    | absent | calling | cutOff => exact stands.elim
    | waiting | running =>
      obtain ⟨⟨_, none⟩, -⟩ := stands
      exact absurd none.symm (Multiset.singleton_ne_zero _)
    | ended result =>
      have terminal := (Status.isTerminal_iff_result? shown).2
        ⟨result, stands.2 ▸ Status.result?_ofResult result⟩
      exact Bool.noConfusion (unfinished.symm.trans terminal)
  · -- a handle has one task at most
    have same : item = ⟨scene.run.loop.now, owner, body⟩ := by
      refine Multiset.inj_on_of_nodup_map tidy.alone item (Multiset.mem_of_le listed listing) _
        member ?_
      rw [stands.lifecycle_of_mem item listing, own]
    rw [(stands.phase_of_mem listing).2, same]

/-- What others do leaves a lifecycle where it is, as long as its task stays on the agenda, and its
status and what it sees stay the same. -/
theorem Follows.stay (follows : Follows executor unit start time handle turns scene)
    (kept : scene.handles ⊆ next.handles)
    (others : ∀ lifecycle ∈ next.handles, lifecycle ∈ scene.handles ∨ unit.IsApart lifecycle.unit)
    (planned : ∀ items ≤ scene.run.loop.agenda,
      (∀ item ∈ items, item.body.lifecycle.handle = handle) → items ≤ next.run.loop.agenda)
    (shown : next.run.state.statuses.find? handle = scene.run.state.statuses.find? handle)
    (ahead : scene.run.loop.now ≤ next.run.loop.now)
    (same : executor.sight unit handle next.run.loop.now next.run.state =
      executor.sight unit handle next.run.loop.now scene.run.state) :
    Follows executor unit start time handle turns next := by
  obtain ⟨items, status, stands, listed, shows⟩ := follows.stands
  have own (item : Appointment Job) (member : item ∈ items) :
      item.body.lifecycle.handle = handle :=
    congrArg Lifecycle.handle (stands.lifecycle_of_mem item member)
  refine ⟨kept follows.known, fun lifecycle known elsewhere => ?_,
    ⟨items, status, stands, planned items listed own, shown.trans shows⟩,
    same.trans (Executor.sight_of_le follows.sight ahead),
    fun turn earlier due member => (follows.past turn earlier due member).trans ahead⟩
  rcases others lifecycle known with before | apart
  · exact follows.others lifecycle before elsewhere
  · exact apart

/-- When its own turn comes, a lifecycle takes the next turn of the course. -/
theorem Follows.take (plain : executor.IsPlain)
    (predicts : Executor.Predicts unit (start.operation executor.operation).respond)
    (serves : scene.Serves executor)
    (follows : Follows executor unit start time handle turns scene) {owner : Option Nat}
    {body : Job} {items rest : Multiset (Appointment Job)} {status : Status}
    (handles : next.handles = scene.handles) (now : next.run.loop.now = scene.run.loop.now)
    (own : body.lifecycle = ⟨executor, unit, handle⟩)
    (here : scene.run.loop.agenda = ⟨scene.run.loop.now, owner, body⟩ ::ₘ rest)
    (agenda : next.run.loop.agenda = items + rest)
    (state : next.run.state =
      (body.lifecycle.advance (body.phase scene.run.loop.now, scene.run.state)).2)
    (stands : (body.lifecycle.advance (body.phase scene.run.loop.now, scene.run.state)).1.Stands
      body.lifecycle items status)
    (statuses : next.run.state.statuses =
      scene.run.state.statuses.insert body.lifecycle.handle status) :
    Follows executor unit start time handle (turns + 1) next := by
  obtain ⟨known, others, ⟨_, _, stood, listed, shows⟩, sight, past⟩ := follows
  have phase := phase_of_turn serves.tidy here own stood listed shows
  have due : (executor.course unit start time turns).1.due? = some scene.run.loop.now := by
    rw [phase]
    cases body <;> rfl
  have responds : Executor.Predicts unit
      ((executor.course unit start time turns).2.operation executor.operation).respond := by
    rw [Executor.respond_course]
    exact predicts
  -- the turn in the scene and that of the course start from one phase and one sight
  obtain ⟨arrives, sees⟩ := Lifecycle.advance_of_sight plain sight responds due
  rw [own, ← phase] at state stands
  rw [own] at statuses
  refine ⟨handles ▸ known, handles ▸ others, ⟨items, status, ?_, ?_, ?_⟩, ?_, ?_⟩
  · rw [Executor.course_succ, ← arrives]
    exact stands
  · rw [agenda]
    exact Multiset.le_add_right _ _
  · rw [statuses, Table.find?_insert_self]
  · rw [Executor.course_succ, now, state]
    exact sees
  · intro turn earlier reading member
    rw [now]
    rcases Nat.lt_succ_iff_lt_or_eq.1 earlier with before | rfl
    · exact past turn before _ member
    · rw [due] at member
      exact Nat.le_of_eq (Option.some.inj member).symm

/-- Whatever happens in company, a lifecycle follows its course. -/
theorem Follows.after (plain : executor.IsPlain)
    (predicts : Executor.Predicts unit (start.operation executor.operation).respond)
    (serves : scene.Serves executor)
    (follows : Follows executor unit start time handle turns scene) {move : Move}
    (company : move.Accompanies executor unit) :
    ∃ more, Follows executor unit start time handle more (scene.after move) := by
  obtain ⟨-, submitted, service, apart⟩ := serves.service company
  generalize scene.after move = next at service ⊢
  have kept (handles : next.handles = scene.handles) : scene.handles ⊆ next.handles := by
    rw [handles]
    exact List.Subset.refl _
  have old (handles : next.handles = scene.handles) (lifecycle : Lifecycle)
      (known : lifecycle ∈ next.handles) :
      lifecycle ∈ scene.handles ∨ unit.IsApart lifecycle.unit :=
    .inl (handles ▸ known)
  cases service with
  | idle handles agenda now state =>
    refine ⟨turns, follows.stay (kept handles) (old handles) ?_ (by rw [state]) now.ge
      (by rw [state])⟩
    intro items listed _
    exact agenda ▸ listed
  | passed handles agenda ahead state =>
    refine ⟨turns, follows.stay (kept handles) (old handles) ?_ (by rw [state]; rfl) ahead ?_⟩
    · intro items listed _
      exact agenda ▸ listed
    · rw [state]
      exact Executor.sight_elapse serves.sound _ _
  | @turned owner body changed rest shown handles now known here agenda state arrived statuses =>
    by_cases own : body.lifecycle.handle = handle
    · have same := serves.tidy.handle_injective known follows.known own
      exact ⟨turns + 1,
        follows.take plain predicts serves handles now same here agenda state arrived statuses⟩
    · refine ⟨turns, follows.stay (kept handles) (old handles) ?_ ?_ now.ge ?_⟩
      · -- only the task of the other lifecycle is taken off the agenda
        intro items listed about
        have foreign : (⟨scene.run.loop.now, owner, body⟩ : Appointment Job) ∉ items :=
          fun member => own (about _ member)
        rw [here, Multiset.le_cons_of_notMem foreign] at listed
        rw [agenda]
        exact listed.trans (Multiset.le_add_left _ _)
      · rw [statuses, Table.find?_insert_ne _ _ (Ne.symm own)]
      · have aside := follows.others _ known own
        obtain rfl := serves.served _ known
        rw [state]
        exact Lifecycle.sight_advance_of_other plain aside own
  | submitted handles now agenda state =>
    -- another unit gets a handle of its own
    have elsewhere : scene.run.state.freshHandle ≠ handle := by
      rw [freshHandle_eq serves.tidy]
      exact (Nat.ne_of_lt (handle_lt serves.tidy follows.known)).symm
    refine ⟨turns, follows.stay ?_ ?_ ?_ ?_ now.ge ?_⟩
    · rw [handles]
      exact List.subset_append_left _ _
    · rw [handles]
      exact List.forall_mem_append.2 ⟨fun _ => .inl,
        List.forall_mem_singleton.2 (.inr (apart _ rfl))⟩
    · intro items listed _
      rw [agenda]
      exact listed.trans (Multiset.le_cons_self _ _)
    · rw [state]
      exact Table.find?_insert_ne _ _ elsewhere.symm
    · rw [state]
      exact Executor.sight_publish_of_ne elsewhere _

theorem Follows.play (plain : executor.IsPlain)
    (predicts : Executor.Predicts unit (start.operation executor.operation).respond)
    (serves : scene.Serves executor)
    (follows : Follows executor unit start time handle turns scene) {moves : List Move}
    (company : ∀ move ∈ moves, move.Accompanies executor unit) :
    ∃ more, Follows executor unit start time handle more (scene.play moves) := by
  induction moves generalizing scene turns with
  | nil => exact ⟨turns, follows⟩
  | cons move moves ih =>
    have here := company move List.mem_cons_self
    obtain ⟨more, after⟩ := follows.after plain predicts serves here
    exact ih (serves.service here).1 after
      fun other member => company other (List.mem_cons_of_mem _ member)

/-- A course begins with the submission. -/
theorem Awaits.follows (serves : scene.Serves executor)
    (awaits : Awaits executor unit start scene) :
    (scene.after (.submit executor unit)).Serves executor ∧
      Follows executor unit start scene.run.loop.now scene.handles.length 0
        (scene.after (.submit executor unit)) := by
  obtain ⟨service, silent⟩ := serves.service_submit unit
  have tidy := (serves.tidy.after (.submit executor unit)).1
  have ordered := ordered_after serves.ordered (.submit executor unit)
  refine ⟨serves.of_service service tidy ordered silent, ?_⟩
  obtain ⟨others, sight⟩ := awaits
  generalize scene.after (.submit executor unit) = next at service ⊢
  cases service with
  | @submitted _ owner handles now agenda state =>
    rw [freshHandle_eq serves.tidy] at handles agenda state
    refine ⟨?_, ?_, ⟨_, .pending, ⟨⟨owner, rfl⟩, rfl, rfl⟩, ?_, ?_⟩, ?_, fun turn none => ?_⟩
    · rw [handles]
      exact List.mem_append_right _ (List.mem_singleton_self _)
    · rw [handles]
      exact List.forall_mem_append.2 ⟨fun other known _ => others other known,
        List.forall_mem_singleton.2 fun elsewhere => absurd rfl elsewhere⟩
    · rw [agenda]
      exact Multiset.singleton_le.2 (Multiset.mem_cons_self _ _)
    · rw [state]
      exact Table.find?_insert_self ..
    · rw [state, now, Executor.course, Function.iterate_zero_apply, Executor.sight_publish,
        Executor.sight_publish, sight _ (Nat.le_refl _)]
    · exact absurd none (Nat.not_lt_zero turn)

/-! ## What scenes tell -/

/-- What a scene tells of a unit: what is told about it in the journal, and what its handles have
shown. -/
def chronicle (scene : Scene) (unit : WorkUnit) : Chronicle where
  entries := scene.run.state.tale (· = unit)
  statuses := (scene.handles.filter (·.unit = unit)).flatMap fun lifecycle =>
    scene.run.state.shown lifecycle.handle

namespace Follows

variable {result : Except Failure Completion}

/-- What a scene tells of a unit is what its lifecycle would see by itself. -/
theorem chronicle_eq (serves : scene.Serves executor)
    (follows : Follows executor unit start time handle turns scene) :
    scene.chronicle unit = (executor.course unit start time turns).2.chronicle unit 0 := by
  obtain ⟨early, late, split, elsewhere⟩ := serves.tidy.exists_append follows.known
  have foreign (lifecycle : Lifecycle) (member : lifecycle ∈ early ++ late) :
      lifecycle.unit ≠ unit := by
    refine (follows.others lifecycle ?_ (elsewhere lifecycle member)).ne
    rw [split]
    exact (List.perm_middle.mem_iff).2 (List.mem_cons_of_mem _ member)
  have nothing (part : List Lifecycle) (within : part ⊆ early ++ late) :
      part.filter (·.unit = unit) = [] :=
    List.filter_eq_nil_iff.2 fun lifecycle member =>
      Bool.not_eq_true _ ▸ decide_eq_false (foreign lifecycle (within member))
  have own : scene.handles.filter (·.unit = unit) = [⟨executor, unit, handle⟩] := by
    rw [split, List.filter_append, nothing early (List.subset_append_left _ _), List.filter_cons,
      if_pos (decide_eq_true rfl), nothing late (List.subset_append_right _ _), List.nil_append]
  rw [Scene.chronicle, own, List.flatMap_singleton, World.chronicle]
  exact congrArg₂ Chronicle.mk (congrArg Executor.Sight.tale follows.sight)
    (congrArg Executor.Sight.shown follows.sight)

/-- A scene gives the result with which the course has ended. -/
theorem gives_iff (serves : scene.Serves executor)
    (follows : Follows executor unit start time handle turns scene) :
    scene.Gives unit result ↔ (executor.course unit start time turns).1 = .ended result := by
  obtain ⟨items, status, stands, listed, shows⟩ := follows.stands
  constructor
  · rintro (returned | ⟨lifecycle, known, own, settled, rfl⟩)
    · rw [serves.silent] at returned
      cases returned
    · have same : lifecycle.handle = handle := by
        by_contra elsewhere
        exact (follows.others lifecycle known elsewhere).ne own
      rw [same] at settled ⊢
      refine stands.ended_of_isSettled shows (fun item member => ?_) settled
      have tracked := isTracked_of_mem_agenda (Multiset.mem_of_le listed member)
      rwa [stands.lifecycle_of_mem item member] at tracked
  · intro ended
    rw [ended] at stands
    rw [stands.2] at shows
    exact .inr ⟨⟨executor, unit, handle⟩, follows.known, rfl, World.isSettled_of_ofResult shows⟩

/-- The next turn is not in the past. -/
theorem le_due (serves : scene.Serves executor)
    (follows : Follows executor unit start time handle turns scene) :
    ∀ due ∈ (executor.course unit start time turns).1.due?, scene.run.loop.now ≤ due := by
  intro due member
  obtain ⟨items, status, stands, listed, -⟩ := follows.stands
  generalize (executor.course unit start time turns).1 = phase at stands member
  cases phase with
  | absent | calling | ended | cutOff => cases member
  | waiting | running =>
    cases member
    obtain ⟨⟨owner, rfl⟩, -⟩ := stands
    exact serves.ordered.le_due (Multiset.singleton_le.1 listed)

/-- A lifecycle that has not ended goes on. -/
theorem due_or_ended (follows : Follows executor unit start time handle turns scene) :
    (∃ due, (executor.course unit start time turns).1.due? = some due) ∨
      ∃ result, (executor.course unit start time turns).1 = .ended result := by
  obtain ⟨items, status, stands, -⟩ := follows.stands
  generalize (executor.course unit start time turns).1 = phase at stands
  cases phase with
  | absent | calling | cutOff => exact stands.elim
  | waiting | running => exact .inl ⟨_, rfl⟩
  | ended result => exact .inr ⟨result, rfl⟩

end Follows

/-- What one scene tells of a unit is what another one tells of it, as far as time has passed in
both of them; and a result is given in the other one, too, as soon as its time has come there. -/
structure AgreeOn (unit : WorkUnit) (first second : Scene) : Prop where
  before : ∀ time ≤ first.run.loop.now, time ≤ second.run.loop.now →
    (first.chronicle unit).before time = (second.chronicle unit).before time
  ended : ∀ result, first.Gives unit result →
    (first.run.loop.now < second.run.loop.now ∨ ∃ other, second.Gives unit other) →
      second.Gives unit result ∧ second.chronicle unit = first.chronicle unit

/-- Two scenes in which a lifecycle follows the same course agree on its unit. -/
theorem Follows.agreeOn {first second : Scene} {here there taken others : Nat}
    (plain : executor.IsPlain) (serves : first.Serves executor) (also : second.Serves executor)
    (follows : Follows executor unit start time here taken first)
    (parallel : Follows executor unit start time there others second) :
    AgreeOn unit first second := by
  constructor
  · intro reading upTo reached
    rw [follows.chronicle_eq serves, parallel.chronicle_eq also]
    -- the turns that only one of the two has taken come after all turns of the other
    rcases Nat.le_total taken others with ahead | behind
    · refine (Executor.before_course plain (fun due member => ?_) ahead).symm
      exact upTo.trans (follows.le_due serves due member)
    · refine Executor.before_course plain (fun due member => ?_) behind
      exact reached.trans (parallel.le_due also due member)
  · intro result gives arrived
    have ended := (follows.gives_iff serves).1 gives
    have same : executor.course unit start time others = executor.course unit start time taken := by
      rcases Nat.le_total taken others with ahead | behind
      · exact Executor.course_of_ended ended ahead
      · -- by then the other lifecycle has taken all turns that the first one has taken
        obtain ⟨other, stopped⟩ : ∃ other,
            (executor.course unit start time others).1 = .ended other := by
          rcases arrived with later | ⟨other, given⟩
          · refine parallel.due_or_ended.resolve_left fun ⟨due, next⟩ => ?_
            rcases Nat.lt_or_eq_of_le behind with fewer | rfl
            · have reached := follows.past others fewer due next
              exact Nat.not_le_of_lt later ((parallel.le_due also due next).trans reached)
            · rw [ended] at next
              cases next
          · exact ⟨other, (parallel.gives_iff also).1 given⟩
        exact (Executor.course_of_ended stopped behind).symm
    refine ⟨(parallel.gives_iff also).2 (same ▸ ended), ?_⟩
    rw [parallel.chronicle_eq also, follows.chronicle_eq serves, same]

/-- A unit in company fares as it does alone: whatever other units the executor works on, before and
after the submission, the scene agrees on the unit with one in which nothing else is submitted and
the unit is submitted at the same time. This is what an executor promises that has no breaker, draws
no random delays and counts in one place, if the operation responds to the unit by how often it was
invoked on it before. -/
theorem undisturbed {executor : Executor} {unit : WorkUnit} {world : World} (now : Nat)
    {early late : List Move} {before after : List LoopMove} (plain : executor.IsPlain)
    (predicts : Executor.Predicts unit (world.operation executor.operation).respond)
    (sound : world.ledger.IsSound)
    (accepts : (world.scheduler executor.scheduler).isShutDown = false)
    (company : ∀ move ∈ early ++ late, move.Accompanies executor unit)
    (together : ((opening world now).play early).run.loop.now =
      ((opening world now).play (before.map .loop)).run.loop.now) :
    let crowd := (opening world now).play (early ++ .submit executor unit :: late)
    let alone := (opening world now).play
      (before.map .loop ++ .submit executor unit :: after.map .loop)
    AgreeOn unit crowd alone ∧ AgreeOn unit alone crowd := by
  -- every such scene lets the unit take turns of one and the same course
  have follows (first second : List Move)
      (company : ∀ move ∈ first ++ second, move.Accompanies executor unit) :
      ((opening world now).play (first ++ .submit executor unit :: second)).Serves executor ∧
        ∃ handle turns, Follows executor unit (opening world now).run.state
          ((opening world now).play first).run.loop.now handle turns
          ((opening world now).play (first ++ .submit executor unit :: second)) := by
    have around := List.forall_mem_append.1 company
    have serves := serves_opening now sound accepts
    have responds : Executor.Predicts unit
      ((opening world now).run.state.operation executor.operation).respond := predicts
    have awaits := (awaits_opening world now).play plain serves around.1
    obtain ⟨begins, submitted⟩ := awaits.follows (serves.play around.1)
    obtain ⟨turns, follows⟩ := submitted.play plain responds begins around.2
    rw [play_append, play_cons]
    exact ⟨begins.play around.2, _, turns, follows⟩
  have nobody (moves : List LoopMove) :
      ∀ move ∈ moves.map Move.loop, move.Accompanies executor unit := by
    intro move member
    obtain ⟨loop, -, rfl⟩ := List.mem_map.1 member
    trivial
  intro crowd alone
  obtain ⟨serves, here, taken, inCrowd⟩ := follows early late company
  obtain ⟨also, there, others, byItself⟩ := follows (before.map .loop) (after.map .loop)
    (List.forall_mem_append.2 ⟨nobody before, nobody after⟩)
  rw [← together] at byItself
  exact ⟨inCrowd.agreeOn plain serves also byItself, byItself.agreeOn plain also serves inCrowd⟩

/-- Two units whose first attempts fail, under a policy with a retry: each of them is completed at
the second attempt, when its own delay is over. -/
theorem undisturbed_by_retries :
    let executor : Executor :=
      { counter := .inProcess "counts" { defaultTtl := some (.ofMillis 50) }
        handler :=
          ⟨{ maxAttempts := 3, strategy := .fixed, baseDelay := .ofMillis 20 }, none⟩ }
    let unit : WorkUnit := ⟨"a", "deliver", none, .empty⟩
    let other : WorkUnit := { unit with id := "bb" }
    let operation : Operation :=
      { name := "slow to start"
        respond := fun calls unit =>
          ⟨.zero,
            if calls.countP (·.unit = unit) = 0 then .error (.of .timeout "late") else .ok ()⟩ }
    let world : World := { operations := Table.insert {} 0 operation }
    let early : List Move := [.submit executor other, .loop .turn]
    let late : List Move :=
      [LoopMove.turn, .turn, .turn, .jump 20, .turn, .turn].map .loop
    let after : List LoopMove := [.turn, .turn, .jump 20, .turn]
    let crowd := (opening world 0).play (early ++ .submit executor unit :: late)
    let alone := (opening world 0).play (.submit executor unit :: after.map .loop)
    (executor.IsPlain ∧
      Executor.Predicts unit (world.operation executor.operation).respond ∧
      world.ledger.IsSound ∧
      (world.scheduler executor.scheduler).isShutDown = false ∧
      (∀ move ∈ early ++ late, move.Accompanies executor unit) ∧
      ((opening world 0).play early).run.loop.now = (opening world 0).run.loop.now) ∧
    (AgreeOn unit crowd alone ∧ AgreeOn unit alone crowd) ∧
    crowd.Gives unit (.ok (.completed 2)) ∧ crowd.chronicle unit = alone.chronicle unit := by
  intro executor unit other operation world early late after crowd alone
  have plain : executor.IsPlain := ⟨rfl, rfl, rfl⟩
  have predicts : Executor.Predicts unit (world.operation executor.operation).respond := by
    intro calls others same
    have responds : (world.operation executor.operation).respond = operation.respond := rfl
    rw [responds]
    dsimp only [operation]
    rw [same]
  have sound : world.ledger.IsSound := fun _ => List.nodup_nil
  have apart : unit.IsApart other := WorkUnit.isApart_of_length (by decide)
  have company : ∀ move ∈ early ++ late, move.Accompanies executor unit := by
    refine List.forall_mem_append.2 ⟨?_, ?_⟩
    · exact List.forall_mem_cons.2 ⟨⟨rfl, apart⟩, List.forall_mem_singleton.2 trivial⟩
    · intro move member
      obtain ⟨loop, -, rfl⟩ := List.mem_map.1 member
      trivial
  have together : ((opening world 0).play early).run.loop.now = (opening world 0).run.loop.now := by
    decide +kernel
  have agree := @undisturbed executor unit world 0 early late [] after plain predicts sound rfl
    company together
  -- both scenes have come to the end, and by itself the unit is completed
  have computed : World.isSettled 0 alone.run = true ∧ World.isSettled 1 crowd.run = true ∧
      ((alone.run.state.statuses.find? 0).bind (·.result?)).bind (·.toOption) =
        some (.completed 2) := by
    decide +kernel
  have result : World.resultOf alone.run 0 = .ok (.completed 2) := by
    obtain ⟨given, told, completed⟩ := Option.bind_eq_some_iff.1 computed.2.2
    cases given with
    | error failure => cases completed
    | ok completion =>
      rw [World.resultOf, told]
      exact congrArg Except.ok (Option.some.inj completed)
  have given : alone.Gives unit (.ok (.completed 2)) :=
    .inr ⟨⟨executor, unit, 0⟩, List.mem_singleton_self _, rfl, computed.1, result⟩
  have settled : ∃ other, crowd.Gives unit other :=
    ⟨_, .inr ⟨⟨executor, unit, 1⟩, List.mem_cons_of_mem _ (List.mem_singleton_self _), rfl,
      computed.2.1, rfl⟩⟩
  exact ⟨⟨plain, predicts, sound, rfl, company, together⟩, agree,
    agree.2.ended _ given (.inr settled)⟩

end Scene

end Resilience
