import Resilience.Proofs.Executor.Shown
import Resilience.Proofs.Executor.Shutdown

/-!
# What moves mean for a handle

Of all that happens in a scene little means anything for a handle that was given out: a turn of its
own lifecycle, which deals with the operation, shows some statuses and leaves a job or ends the
lifecycle, and a shutdown that takes the job away. Nothing else shows a status on it, and nothing
else gives it a job.

## Main definitions

* `World.planned` — what the lifecycle of a handle has on the agenda
* `Scene.ending?` — the result with which the lifecycle of a handle ends in a move
* `Scene.deals` — the dealings of the lifecycle of a handle with its operation in a move
* `Scene.Cuts` — a shutdown takes a task of a handle away
* `Scene.Affects` — what a move means for a handle

## Main statements

* `Scene.Tidy.affects` — moves mean nothing else
* `Scene.isTracked_of_after` — a handle on which nothing is planned is not tracked again
-/

namespace Resilience

namespace World

/-- What the lifecycle of a handle has on the agenda. -/
def planned (run : Universe) (handle : Nat) : Multiset (Appointment Job) :=
  run.loop.agenda.filter (·.body.lifecycle.handle = handle)

end World

/-- The dealings of a call with its operation, once the invocation has returned. -/
def Visit.dealings (visit : Visit) (world : World) : List Dealing :=
  [.invoked visit.outcome, .returned (visit.executor.answer visit.unit visit.outcome world)]

namespace Scene

/-- The result with which the lifecycle of a handle ends in a move, if it does. -/
def ending? (scene : Scene) (handle : Nat) : Move → Option (Except Failure Completion)
  | .loop .turn =>
    match scene.run.loop.ready with
    | .run task :: _ =>
      if task.delay = .zero ∧ task.body.lifecycle.handle = handle then
        task.body.ending? scene.run.loop.now scene.run.state
      else none
    | _ => none
  | .leave index =>
    match scene.visits[index]? with
    | none => none
    | some visit =>
      let half := visit.executor.endAttempt visit.unit 0 visit.outcome scene.run.loop.now
        scene.run.state
      match half.1 with
      -- the caller gets the result, and there is no handle
      | .done _ => none
      | .retry .. =>
        if half.2.freshHandle = handle then
          Lifecycle.ending? ⟨visit.executor, visit.unit, handle⟩ half
        else none
  | .loop (.jump _) | .submit .. | .enter .. | .shutDown _ | .intervene _ => none

/-- The dealings of the lifecycle of a handle with its operation in a move. A handle that is given
out when a call ends has had those of the call. -/
def deals (scene : Scene) (handle : Nat) : Move → List Dealing
  | .loop .turn =>
    match scene.run.loop.ready with
    | .run task :: _ =>
      if task.delay = .zero ∧ task.body.lifecycle.handle = handle then
        task.body.dealings scene.run.loop.now scene.run.state
      else []
    | _ => []
  | .leave index =>
    match scene.visits[index]? with
    | none => []
    | some visit =>
      let half := visit.executor.endAttempt visit.unit 0 visit.outcome scene.run.loop.now
        scene.run.state
      match half.1 with
      | .done _ => []
      | .retry .. =>
        if half.2.freshHandle = handle then visit.dealings scene.run.state else []
  | .loop (.jump _) | .submit .. | .enter .. | .shutDown _ | .intervene _ => []

/-- Whether a move is a shutdown that takes a task of a handle off the agenda. -/
def Cuts (scene : Scene) (handle : Nat) : Move → Prop
  | .shutDown id =>
    (scene.run.state.scheduler id).isShutDown = false ∧
      ∃ item ∈ World.planned scene.run handle,
        item.owner = some (scene.run.state.scheduler id).id
  | .loop _ | .submit .. | .enter .. | .leave _ | .intervene _ => False

end Scene

/-! ## What moves mean for a handle -/

namespace Lifecycle.Publishes

variable {lifecycle : Lifecycle} {run next : Universe} {statuses : List Status} {job : Option Job}

theorem planned (publishes : lifecycle.Publishes run next statuses job)
    (about : ∀ body ∈ job, body.lifecycle = lifecycle) :
    ∃ item : Option (Appointment Job), item.map (·.body) = job ∧ ∀ handle,
      World.planned next handle =
        (if lifecycle.handle = handle then ↑item.toList else 0) + World.planned run handle := by
  obtain ⟨item, same, agenda⟩ := publishes.agenda
  refine ⟨item, same, fun handle => ?_⟩
  rw [World.planned, agenda, Multiset.filter_add, World.planned]
  congr 1
  cases item with
  | none => exact (ite_self _).symm
  | some item =>
    rw [Option.toList_some, Multiset.coe_singleton, Multiset.filter_singleton,
      about item.body same.symm]
    rfl

/-- Other handles are left alone. -/
theorem aside (publishes : lifecycle.Publishes run next statuses job)
    (about : ∀ body ∈ job, body.lifecycle = lifecycle) {handle : Nat}
    (apart : lifecycle.handle ≠ handle) :
    next.state.published handle = run.state.published handle ∧
      World.planned next handle = World.planned run handle := by
  have published := publishes.published handle
  obtain ⟨item, -, planned⟩ := publishes.planned about
  have planned := planned handle
  rw [if_neg apart] at published planned
  exact ⟨published.trans (List.append_nil _), planned.trans (Multiset.zero_add _)⟩

end Lifecycle.Publishes

namespace Scene

/-- What a move means for a handle that was given out before: nothing, or its lifecycle goes on, or
a shutdown takes a task away. -/
inductive Affects (handle : Nat) (scene next : Scene) (move : Move) : Prop
  | nothing (published : next.run.state.published handle = scene.run.state.published handle)
      (planned : World.planned next.run handle = World.planned scene.run handle)
      (goesOn : scene.ending? handle move = none) (silent : scene.deals handle move = [])
      (spared : ¬ scene.Cuts handle move)
  | turned {item : Appointment Job} {rest : Multiset (Appointment Job)} {statuses : List Status}
      {task : Option (Appointment Job)}
      (planned : World.planned scene.run handle = item ::ₘ rest)
      (goes : item.body.Goes (scene.deals handle move) (scene.ending? handle move) statuses
        (task.map (·.body)))
      (published : next.run.state.published handle =
        scene.run.state.published handle ++ statuses)
      (next : World.planned next.run handle = ↑task.toList + rest)
      (spared : ¬ scene.Cuts handle move)
  | cut {item : Appointment Job} (member : item ∈ World.planned scene.run handle)
      (published : next.run.state.published handle = scene.run.state.published handle)
      (planned : World.planned next.run handle =
        (World.planned scene.run handle).filter (·.owner ≠ item.owner))
      (goesOn : scene.ending? handle move = none) (silent : scene.deals handle move = [])
      (cuts : scene.Cuts handle move)

variable {scene next : Scene} {move : Move} {handle : Nat}

theorem Tidy.handle_lt (tidy : scene.Tidy) {lifecycle : Lifecycle}
    (known : lifecycle ∈ scene.handles) : lifecycle.handle < scene.handles.length :=
  List.mem_range.1 (tidy.numbered ▸ List.mem_map_of_mem known)

/-- A handle that was given out is not the next one. -/
theorem Tidy.ne_freshHandle (tidy : scene.Tidy) (given : handle < scene.handles.length) :
    scene.run.state.freshHandle ≠ handle := by
  have size : scene.run.state.freshHandle = scene.handles.length := tidy.size
  rw [size]
  exact Nat.ne_of_gt given

/-- Without a task whose time has come, a turn means nothing for anybody. -/
theorem affects_turn_of_idle
    (idle : ∀ task rest, scene.run.loop.ready = .run task :: rest → task.delay ≠ .zero) :
    Affects handle scene (scene.after (.loop .turn)) (.loop .turn) := by
  have goesOn : scene.ending? handle (.loop .turn) = none := by
    rw [ending?]
    split
    · rename_i task rest ready
      exact if_neg fun due => idle task rest ready due.1
    · rfl
  have silent : scene.deals handle (.loop .turn) = [] := by
    rw [deals]
    split
    · rename_i task rest ready
      exact if_neg fun due => idle task rest ready due.1
    · rfl
  have comes := World.reactor.comes scene.run .turn
  rw [after]
  generalize World.reactor.move scene.run .turn = next at comes ⊢
  cases comes with
  | still => exact .nothing rfl rfl goesOn silent id
  | turned taken =>
    rcases Reactor.turn?_cases taken with ⟨agenda, state, -⟩ | ⟨task, rest, waited, ready, -⟩
    · refine .nothing (congrArg (World.published · handle) state) ?_ goesOn silent id
      exact congrArg (Multiset.filter _) agenda
    · exact absurd waited (idle task rest ready)

/-- A turn means something for the handle of the task whose time has come. -/
theorem affects_turn_of_due {task : Task Job} {rest : List (Turn Job)}
    (ready : scene.run.loop.ready = .run task :: rest) (waited : task.delay = .zero) :
    Affects handle scene (scene.after (.loop .turn)) (.loop .turn) := by
  have taken : scene.after (.loop .turn) = { scene with
      run := World.reactor.perform task
        { scene.run with loop := { scene.run.loop with ready := rest } } } := by
    simp [after, Reactor.move, Reactor.turn?, ready, waited, Run.mapLoop]
  have planned := congrArg (Multiset.filter (·.body.lifecycle.handle = handle))
    (EventLoop.agenda_run ready waited)
  obtain ⟨statuses, next, goes, publishes⟩ := World.perform_goes task.owner task.delay task.body
    { scene.run with loop := { scene.run.loop with ready := rest } }
  obtain ⟨_, _, tells⟩ := goes.last
  rw [taken]
  -- the task publishes for its own handle only, and plans at most one further task for it
  by_cases own : task.body.lifecycle.handle = handle
  · have shown := publishes.published handle
    obtain ⟨item, same, added⟩ := publishes.planned tells.about
    have added := added handle
    have ends : scene.ending? handle (.loop .turn) =
        task.body.ending? scene.run.loop.now scene.run.state := by
      rw [ending?, ready]
      exact if_pos ⟨waited, own⟩
    have dealt : scene.deals handle (.loop .turn) =
        task.body.dealings scene.run.loop.now scene.run.state := by
      rw [deals, ready]
      exact if_pos ⟨waited, own⟩
    rw [if_pos own] at shown added
    refine .turned (planned.trans (Multiset.filter_cons_of_pos _ own)) ?_ shown added id
    rw [ends, dealt, same]
    exact goes
  · have goesOn : scene.ending? handle (.loop .turn) = none := by
      rw [ending?, ready]
      exact if_neg fun due => own due.2
    have silent : scene.deals handle (.loop .turn) = [] := by
      rw [deals, ready]
      exact if_neg fun due => own due.2
    obtain ⟨published, same⟩ := publishes.aside tells.about own
    refine .nothing published ?_ goesOn silent id
    exact same.trans (planned.trans (Multiset.filter_cons_of_neg _ own)).symm

theorem affects_turn (scene : Scene) (handle : Nat) :
    Affects handle scene (scene.after (.loop .turn)) (.loop .turn) := by
  by_cases due : ∃ task rest, scene.run.loop.ready = .run task :: rest ∧ task.delay = .zero
  · obtain ⟨task, rest, ready, waited⟩ := due
    exact affects_turn_of_due ready waited
  · exact affects_turn_of_idle fun task rest ready waited => due ⟨task, rest, ready, waited⟩

/-- The end of a call returns a result, or gives out a handle that shows the first retry. -/
theorem Concludes.goes {visit : Visit} (concludes : scene.Concludes visit next)
    {half : Sequel × World}
    (ended : visit.executor.endAttempt visit.unit 0 visit.outcome scene.run.loop.now
      scene.run.state = half)
    {lifecycle : Lifecycle}
    (new : lifecycle = ⟨visit.executor, visit.unit, scene.run.state.freshHandle⟩) :
    (∃ result, half.1 = .done result ∧ next.handles = scene.handles ∧
        lifecycle.Publishes scene.run next.run [] none) ∨
      ∃ attempt delay rest job, half.1 = .retry attempt delay ∧
        next.handles = scene.handles ++ [lifecycle] ∧
        lifecycle.Follows (visit.executor.answer visit.unit visit.outcome scene.run.state)
          (lifecycle.ending? half) (.retryScheduled attempt delay :: rest) job ∧
        lifecycle.Publishes scene.run next.run
          (.pending :: .retryScheduled attempt delay :: rest) job := by
  have silent := fun handle => visit.executor.published_endAttempt visit.unit handle
    scene.run.loop.now scene.run.state 0 visit.outcome
  cases concludes with
  | @done result world done =>
    obtain rfl := ended.symm.trans done
    rw [done] at silent
    exact .inl ⟨result, rfl, rfl, Lifecycle.publishes_nothing scene.run world silent⟩
  | @retry attempt delay world _ retried handed =>
    obtain rfl := ended.symm.trans retried
    obtain rfl := new.trans handed.symm
    have small := Executor.lt_of_retry (congrArg Prod.fst retried)
    rw [retried] at silent
    obtain ⟨rest, job, follows, publishes⟩ := @Lifecycle.postpone_goes lifecycle
      (visit.executor.answer visit.unit visit.outcome scene.run.state) attempt small delay
      (lifecycle.publish .pending { scene.run with state := world })
    refine .inr ⟨attempt, delay, rest, job, rfl, rfl, follows, ?_⟩
    exact (Lifecycle.publishes_nothing scene.run world silent).trans
      ((Lifecycle.publishes_status .pending _).trans publishes)

/-- The end of a call means nothing for handles that were given out before. -/
theorem Tidy.affects_leave (tidy : scene.Tidy) (given : handle < scene.handles.length)
    (index : Nat) : Affects handle scene (scene.after (.leave index)) (.leave index) := by
  have fresh := tidy.ne_freshHandle given
  have comes := scene.comes (.leave index)
  generalize scene.after (.leave index) = next at comes ⊢
  cases comes with
  | missing absent =>
    refine .nothing rfl rfl ?_ ?_ id
    · rw [ending?, absent]
    · rw [deals, absent]
  | @left _ visit next found concludes =>
    -- an attempt gives out no handle, so the handle of a retry would be a new one
    have same := visit.executor.freshHandle_endAttempt visit.unit 0 visit.outcome
      scene.run.loop.now scene.run.state
    have goesOn : scene.ending? handle (.leave index) = none := by
      rw [ending?, found]
      dsimp only
      split
      · rfl
      · exact if_neg fun here => fresh (same.symm.trans here)
    have silent : scene.deals handle (.leave index) = [] := by
      rw [deals, found]
      dsimp only
      split
      · rfl
      · exact if_neg fun here => fresh (same.symm.trans here)
    rcases concludes.goes rfl rfl with
      ⟨_, -, -, publishes⟩ | ⟨_, _, _, job, -, -, follows, publishes⟩
    · obtain ⟨published, planned⟩ :=
        publishes.aside (fun _ none => absurd none (Option.not_mem_none _)) fresh
      exact .nothing published planned goesOn silent id
    · obtain ⟨_, _, tells⟩ := follows.last
      obtain ⟨published, planned⟩ := publishes.aside tells.about fresh
      exact .nothing published planned goesOn silent id

theorem affects_shutDown (scene : Scene) (handle id : Nat) :
    Affects handle scene (scene.after (.shutDown id)) (.shutDown id) := by
  have run : (scene.after (.shutDown id)).run = World.shutDown id scene.run := rfl
  cases shut : (scene.run.state.scheduler id).isShutDown with
  | true =>
    refine .nothing rfl ?_ rfl rfl fun cuts => ?_
    · rw [run, World.planned, World.loop_shutDown_of_shut shut, World.planned]
    · rw [Cuts, shut] at cuts
      cases cuts.1
  | false =>
    have planned : World.planned (World.shutDown id scene.run) handle =
        (World.planned scene.run handle).filter
          (·.owner ≠ some (scene.run.state.scheduler id).id) := by
      rw [World.planned, World.loop_shutDown_of_open shut, EventLoop.agenda_abort, World.planned]
      exact Multiset.filter_comm _ _ _
    -- the handle has one task at most, which is cut off or stays
    by_cases cuts : scene.Cuts handle (.shutDown id)
    · have taken := cuts
      obtain ⟨-, item, member, owner⟩ := taken
      refine .cut member rfl ?_ rfl rfl cuts
      rw [run, planned, owner]
    · refine .nothing rfl ?_ rfl rfl cuts
      rw [run, planned, Multiset.filter_eq_self]
      intro item member owner
      exact cuts ⟨shut, item, member, owner⟩

/-- What a move means for a handle that was given out before. -/
theorem Tidy.affects (tidy : scene.Tidy) (given : handle < scene.handles.length) (move : Move) :
    Affects handle scene (scene.after move) move := by
  cases move with
  | loop move =>
    cases move with
    | turn => exact scene.affects_turn handle
    | jump target =>
      have comes := World.reactor.comes scene.run (.jump target)
      rw [Scene.after]
      generalize World.reactor.move scene.run (.jump target) = next at comes ⊢
      cases comes with
      | still => exact .nothing rfl rfl rfl rfl id
      | jumped reaches =>
        refine .nothing rfl ?_ rfl rfl id
        rw [World.planned, Reactor.moveTo]
        dsimp only
        rw [EventLoop.agenda_wakeAt reaches, World.planned]
  | submit executor unit =>
    -- what is accepted gets a handle of its own
    have fresh := tidy.ne_freshHandle given
    have comes := scene.comes (.submit executor unit)
    generalize scene.after (.submit executor unit) = next at comes ⊢
    cases comes with
    | refused => exact .nothing rfl rfl rfl rfl id
    | accepted accepts handed =>
      cases handed
      refine .nothing ?_ ?_ rfl rfl id
      · refine (World.published_publish _ _ _ _ _).trans ?_
        rw [if_neg fresh, List.append_nil]
      · refine (congrArg (Multiset.filter _) (EventLoop.agenda_spawn _ _)).trans ?_
        exact Multiset.filter_cons_of_neg _ fresh
  | enter executor unit =>
    have silent := executor.published_beginAttempt unit handle scene.run.loop.now scene.run.state 0
    have comes := scene.comes (.enter executor unit)
    generalize scene.after (.enter executor unit) = next at comes ⊢
    cases comes with
    | answered begun | entered begun =>
      rw [begun] at silent
      exact .nothing silent rfl rfl rfl id
  | leave index => exact tidy.affects_leave given index
  | shutDown id => exact scene.affects_shutDown handle id
  | intervene change => exact .nothing rfl rfl rfl rfl id

/-- No move takes a handle back. -/
theorem length_handles_le (scene : Scene) (move : Move) :
    scene.handles.length ≤ (scene.after move).handles.length := by
  have comes := scene.comes move
  generalize scene.after move = next at comes ⊢
  cases comes with
  | looped | refused | answered | entered | missing | shut | intervened => exact Nat.le_refl _
  | accepted => simp [handing]
  | left _ concludes =>
    cases concludes with
    | done => exact Nat.le_refl _
    | retry => simp [handing]

/-! ## New handles -/

/-- How a move gives out the handle of a lifecycle: when a unit is submitted, with its first job on
the agenda, or when the operation of a call has failed, with what follows on that. -/
inductive Hands (scene : Scene) (lifecycle : Lifecycle) : Move → Prop
  | submitted (executor : Executor) (unit : WorkUnit)
      (publishes : lifecycle.Publishes scene.run (scene.after (.submit executor unit)).run
        [.pending] (some (.attempt lifecycle 0))) :
    Hands scene lifecycle (.submit executor unit)
  | failed {index : Nat} (outcome : Except Fault Unit) (operation : Operation) {attempt : Nat}
      {delay : Duration} {rest : List Status} {job : Option Job}
      (deals : scene.deals lifecycle.handle (.leave index) =
        [.invoked outcome, .returned (operation.conclude lifecycle.unit outcome)])
      (follows : lifecycle.Follows (operation.conclude lifecycle.unit outcome)
        (scene.ending? lifecycle.handle (.leave index)) (.retryScheduled attempt delay :: rest)
        job)
      (publishes : lifecycle.Publishes scene.run (scene.after (.leave index)).run
        (.pending :: .retryScheduled attempt delay :: rest) job) :
    Hands scene lifecycle (.leave index)

theorem hands_of_left {index : Nat} {visit : Visit} {lifecycle : Lifecycle}
    (found : scene.visits[index]? = some visit)
    (concludes : Concludes { scene with visits := scene.visits.eraseIdx index } visit
      (scene.after (.leave index)))
    (given : (scene.after (.leave index)).handles = scene.handles ++ [lifecycle]) :
    lifecycle.handle = scene.run.state.freshHandle ∧ scene.Hands lifecycle (.leave index) := by
  have same := visit.executor.freshHandle_endAttempt visit.unit 0 visit.outcome scene.run.loop.now
    scene.run.state
  rcases concludes.goes rfl rfl with ⟨_, -, handles, -⟩ |
    ⟨attempt, delay, rest, job, again, handles, follows, publishes⟩
  · -- the call returns a result
    exact absurd (List.self_eq_append_right.1 (handles.symm.trans given)) (List.cons_ne_nil _ _)
  · obtain rfl := List.singleton_inj.1 (List.append_cancel_left (given.symm.trans handles))
    -- the call ends with a retry, and its handle is the next one
    have dealt : scene.deals scene.run.state.freshHandle (.leave index) =
        visit.dealings scene.run.state := by
      rw [deals, found]
      dsimp only at again ⊢
      rw [again]
      exact if_pos same
    refine ⟨rfl, .failed visit.outcome _ dealt ?_ publishes⟩
    rw [ending?, found]
    dsimp only at again ⊢
    rw [again]
    dsimp only
    rw [if_pos same]
    exact follows

/-- A move that gives out a handle does so in one of two ways. -/
theorem hands_of_given {start : Move} {lifecycle : Lifecycle}
    (given : (scene.after start).handles = scene.handles ++ [lifecycle]) :
    lifecycle.handle = scene.run.state.freshHandle ∧ scene.Hands lifecycle start := by
  have none (same : (scene.after start).handles = scene.handles) : False :=
    absurd (List.self_eq_append_right.1 (same.symm.trans given)) (List.cons_ne_nil _ _)
  have comes := scene.comes start
  generalize after : scene.after start = next at given none comes
  cases comes with
  | looped | refused | answered | entered | missing | shut | intervened => exact (none rfl).elim
  | accepted accepts handed =>
    obtain rfl := List.singleton_inj.1 (List.append_cancel_left given)
    refine ⟨congrArg Lifecycle.handle handed, .submitted _ _ ?_⟩
    rw [after]
    exact ⟨fun handle => World.published_publish _ _ _ handle _, some _, rfl,
      EventLoop.agenda_spawn _ _⟩
  | left found concludes =>
    cases after
    exact hands_of_left found concludes given

theorem Tidy.planned_freshHandle (tidy : scene.Tidy) :
    World.planned scene.run scene.run.state.freshHandle = 0 :=
  Multiset.filter_eq_nil.2 fun item member same =>
    tidy.ne_freshHandle (tidy.handle_lt (tidy.known item member)) same.symm

/-- A new handle has nothing on the agenda but the job that comes with it. -/
theorem Tidy.planned_new (tidy : scene.Tidy) {lifecycle : Lifecycle}
    (fresh : lifecycle.handle = scene.run.state.freshHandle) {run : Universe}
    {statuses : List Status} {job : Option Job}
    (publishes : lifecycle.Publishes scene.run run statuses job)
    (about : ∀ body ∈ job, body.lifecycle = lifecycle) :
    ∃ item : Option (Appointment Job), item.map (·.body) = job ∧
      World.planned run lifecycle.handle = ↑item.toList := by
  obtain ⟨item, same, planned⟩ := publishes.planned about
  refine ⟨item, same, ?_⟩
  rw [planned, if_pos rfl, fresh, tidy.planned_freshHandle, Multiset.add_zero]

/-! ## Tasks that were aborted -/

/-- The end of a call adds a task at most. -/
theorem Concludes.adds {visit : Visit} (concludes : scene.Concludes visit next) :
    scene.run.loop.Adds (fun _ => True) next.run.loop := by
  cases concludes with
  | done => exact .nothing
  | @retry attempt delay world lifecycle =>
    exact Lifecycle.postpone_adds trivial delay
      (lifecycle.publish .pending { scene.run with state := world })

/-- A task that is aborted by a move was on the agenda. -/
theorem of_drop_after {task : Task Job}
    (aborted : Turn.drop task ∈ (scene.after move).run.loop.ready) :
    Turn.drop task ∈ scene.run.loop.ready ∨
      ∃ item ∈ scene.run.loop.agenda, item.body = task.body := by
  have comes := scene.comes move
  generalize scene.after move = next at comes aborted
  cases comes with
  | refused | answered | entered | missing | intervened => exact .inl aborted
  | @looped move =>
    have comes := World.reactor.comes scene.run move
    dsimp only at aborted
    generalize World.reactor.move scene.run move = next at comes aborted
    cases comes with
    | still => exact .inl aborted
    | turned taken => exact .inl (World.reactor_replaces.of_drop taken aborted)
    | jumped => exact .inl (EventLoop.of_drop_wakeAt aborted)
  | accepted =>
    exact .inl ((EventLoop.Adds.ready _ trivial :
      scene.run.loop.Adds (fun _ => True) _).of_drop aborted)
  | left found concludes => exact .inl (concludes.adds.of_drop aborted)
  -- only a shutdown aborts tasks
  | @shut id =>
    by_cases shut : (scene.run.state.scheduler id).isShutDown = true
    · rw [World.loop_shutDown_of_shut shut] at aborted
      exact .inl aborted
    · rw [World.loop_shutDown_of_open (Bool.eq_false_iff.2 shut)] at aborted
      exact EventLoop.of_drop_abort aborted

/-- A handle on which nothing is planned is not tracked again. -/
theorem isTracked_of_after (idle : World.planned scene.run handle = 0)
    (still : World.planned (scene.after move).run handle = 0)
    (tracked : World.isTracked (scene.after move).run handle = true) :
    World.isTracked scene.run handle = true := by
  obtain ⟨task, unfinished, own⟩ := List.any_eq_true.1 tracked
  have own : task.body.lifecycle.handle = handle := of_decide_eq_true own
  have apart {run : Universe} (none : World.planned run handle = 0) {item : Appointment Job}
      (member : item ∈ run.loop.agenda) : item.body ≠ task.body := fun same =>
    Multiset.filter_eq_nil.1 none item member (same ▸ own)
  rcases EventLoop.appointed_or_dropped unfinished with ⟨item, member, -, same⟩ | dropped
  · exact absurd same (apart still member)
  · rcases of_drop_after dropped with before | ⟨item, member, same⟩
    · refine List.any_eq_true.2 ⟨task, ?_, decide_eq_true own⟩
      exact List.mem_append_left _ (List.mem_map_of_mem before)
    · exact absurd same (apart idle member)

end Scene

end Resilience
