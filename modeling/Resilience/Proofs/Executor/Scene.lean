import Resilience.Proofs.Executor.Turns
import Mathlib.Algebra.Order.Group.Multiset
import Mathlib.Data.List.Range
import Mathlib.Tactic.Abel

/-!
# Scenes

In a scene many lifecycles go on at once: some in the background, with handles that show their
statuses, and some in the foreground, with calls that are under way. A move is what can happen next,
whoever makes it happen: a turn or a jump of the loop, a new lifecycle, the end of a call, a shutdown
or a change from outside. Submitting, processing, waiting and letting time pass are sequences of
moves.

Whatever the moves, every lifecycle has its own story: from its start on, its phase is where the
scene shows it to be.

## Main definitions

* `Scene`, `Move`, `Scene.after`, `Scene.play` — scenes and what happens on them
* `Scene.Comes` — all that a move can come to
* `Scene.Tidy` — every handle is given out once, and all tasks belong to handles
* `Scene.signs`, `Phase.Shows` — what a scene shows of a lifecycle
* `Scene.Regards` — what a move means for a lifecycle that it does not start

## Main statements

* `Scene.comes` — a move comes to one of these things
* `Scene.Tidy.play` — scenes stay tidy
* `Scene.story_of_play` — the story of a lifecycle that is started once
-/

namespace Resilience

/-- An attempt in the foreground whose operation is under way. -/
structure Visit where
  executor : Executor
  unit : WorkUnit
  outcome : Except Fault Unit

/-- A run with the calls that are under way, the handles that were given out and the results that
were returned without a handle. -/
structure Scene where
  run : Universe
  visits : List Visit := []
  handles : List Lifecycle := []
  returned : List (WorkUnit × Except Failure Completion) := []

/-- What can happen next in a scene. -/
inductive Move where
  /-- A turn or a jump of the loop. -/
  | loop (move : LoopMove)
  /-- A unit is submitted to be worked on in the background. -/
  | submit (executor : Executor) (unit : WorkUnit)
  /-- The first attempt on a unit begins in the foreground. -/
  | enter (executor : Executor) (unit : WorkUnit)
  /-- The operation of an attempt in the foreground ends. -/
  | leave (index : Nat)
  | shutDown (scheduler : Nat)
  /-- Something else changes, but neither the journal nor the statuses. -/
  | intervene (change : World → World)

/-- The lifecycle that a move starts. -/
def Move.start? : Move → Option (Executor × WorkUnit)
  | submit executor unit | enter executor unit => some (executor, unit)
  | loop _ | leave _ | shutDown _ | intervene _ => none

/-- Whether a move fits the surroundings of a lifecycle: only known executors work on other units,
and changes from outside are allowed ones. -/
def Move.Allowed (surroundings : Surroundings) : Move → Prop
  | submit executor unit | enter executor unit =>
    surroundings.mine unit = false → surroundings.plays executor unit
  | shutDown scheduler => surroundings.shuts scheduler
  | intervene change => surroundings.alters change
  | loop _ | leave _ => True

theorem Move.Allowed.plays {surroundings : Surroundings} {move : Move} {executor : Executor}
    {unit : WorkUnit} (allowed : move.Allowed surroundings)
    (start : move.start? = some (executor, unit)) (other : surroundings.mine unit = false) :
    surroundings.plays executor unit := by
  cases move with
  | submit | enter =>
    cases start
    exact allowed other
  | loop | leave | shutDown | intervene => cases start

namespace Scene

/-- The scene with another run, once a result is returned. -/
def returning (scene : Scene) (unit : WorkUnit) (result : Except Failure Completion)
    (run : Universe) : Scene :=
  { scene with run, returned := scene.returned ++ [(unit, result)] }

/-- The scene with another run, once a handle is given out. -/
def handing (scene : Scene) (lifecycle : Lifecycle) (run : Universe) : Scene :=
  { scene with run, handles := scene.handles ++ [lifecycle] }

/-- The scene after the end of a call. -/
def concluding (scene : Scene) (visit : Visit) : Scene :=
  let (sequel, world) := visit.executor.endAttempt visit.unit 0 visit.outcome scene.run.loop.now
    scene.run.state
  let run := { scene.run with state := world }
  match sequel with
  | .done result => scene.returning visit.unit result run
  | .retry attempt delay =>
    let lifecycle : Lifecycle := ⟨visit.executor, visit.unit, run.state.freshHandle⟩
    scene.handing lifecycle (lifecycle.postpone attempt delay (lifecycle.publish .pending run))

/-- The scene after a move; a move that is not possible changes nothing. -/
def after (scene : Scene) : Move → Scene
  | .loop move => { scene with run := World.reactor.move scene.run move }
  | .submit executor unit =>
    match executor.submit unit scene.run with
    | (.ok handle, run) => scene.handing ⟨executor, unit, handle⟩ run
    | (.error failure, run) => scene.returning unit (.error failure) run
  | .enter executor unit =>
    let (begun, world) := executor.beginAttempt unit 0 scene.run.loop.now scene.run.state
    let run := { scene.run with state := world }
    match begun with
    | .ended result => scene.returning unit result run
    | .running response =>
      { scene with run, visits := scene.visits ++ [⟨executor, unit, response.outcome⟩] }
  | .leave index =>
    match scene.visits[index]? with
    | none => scene
    | some visit => { scene with visits := scene.visits.eraseIdx index }.concluding visit
  | .shutDown scheduler => { scene with run := World.shutDown scheduler scene.run }
  | .intervene change => { scene with run := scene.run.mapState (·.alter change) }

/-- The scene after several moves. -/
def play (scene : Scene) (moves : List Move) : Scene := moves.foldl after scene

/-- The scene on which nothing has happened yet. -/
def opening (world : World) (now : Nat) : Scene where
  run := { loop := { now }, state := { world with statuses := {}, journal := #[] } }

theorem play_append (scene : Scene) (moves others : List Move) :
    scene.play (moves ++ others) = (scene.play moves).play others :=
  List.foldl_append

/-! ### What moves come to -/

/-- All that the end of a call can come to. -/
inductive Concludes (scene : Scene) (visit : Visit) : Scene → Prop
  | done {result : Except Failure Completion} {world : World}
      (ended : visit.executor.endAttempt visit.unit 0 visit.outcome scene.run.loop.now
        scene.run.state = (.done result, world)) :
    scene.Concludes visit (scene.returning visit.unit result { scene.run with state := world })
  /-- The work goes on in the background, on a handle that is pending at first. -/
  | retry {attempt : Nat} {delay : Duration} {world : World} {lifecycle : Lifecycle}
      (ended : visit.executor.endAttempt visit.unit 0 visit.outcome scene.run.loop.now
        scene.run.state = (.retry attempt delay, world))
      (handed : lifecycle = ⟨visit.executor, visit.unit, scene.run.state.freshHandle⟩) :
    scene.Concludes visit
      (scene.handing lifecycle
        (lifecycle.postpone attempt delay
          (lifecycle.publish .pending { scene.run with state := world })))

theorem concludes (scene : Scene) (visit : Visit) :
    scene.Concludes visit (scene.concluding visit) := by
  have same := visit.executor.freshHandle_endAttempt visit.unit 0 visit.outcome scene.run.loop.now
    scene.run.state
  rcases ended : visit.executor.endAttempt visit.unit 0 visit.outcome scene.run.loop.now
    scene.run.state with ⟨result | ⟨attempt, delay⟩, world⟩
  · simp only [concluding, ended]
    exact .done ended
  · rw [ended] at same
    simp only [concluding, ended]
    exact .retry ended (congrArg (Lifecycle.mk visit.executor visit.unit) same)

/-- All that a move can come to. -/
inductive Comes (scene : Scene) : Move → Scene → Prop
  | looped {move : LoopMove} :
    scene.Comes (.loop move) { scene with run := World.reactor.move scene.run move }
  | refused {executor : Executor} {unit : WorkUnit}
      (shut : (scene.run.state.scheduler executor.scheduler).isShutDown = true) :
    scene.Comes (.submit executor unit)
      (scene.returning unit (.error .schedulerShutDown) scene.run)
  | accepted {executor : Executor} {unit : WorkUnit} {lifecycle : Lifecycle}
      (accepts : (scene.run.state.scheduler executor.scheduler).isShutDown = false)
      (handed : lifecycle = ⟨executor, unit, scene.run.state.freshHandle⟩) :
    scene.Comes (.submit executor unit)
      (scene.handing lifecycle
        (lifecycle.publish .pending
          { scene.run with
            loop := scene.run.loop.spawn
              { owner := some (scene.run.state.scheduler executor.scheduler).id
                body := .attempt lifecycle 0 } }))
  /-- The operation of a call is not invoked. -/
  | answered {executor : Executor} {unit : WorkUnit} {result : Except Failure Completion}
      {world : World}
      (begun : executor.beginAttempt unit 0 scene.run.loop.now scene.run.state =
        (.ended result, world)) :
    scene.Comes (.enter executor unit)
      (scene.returning unit result { scene.run with state := world })
  | entered {executor : Executor} {unit : WorkUnit} {response : Response} {world : World}
      (begun : executor.beginAttempt unit 0 scene.run.loop.now scene.run.state =
        (.running response, world)) :
    scene.Comes (.enter executor unit)
      { scene with
        run := { scene.run with state := world }
        visits := scene.visits ++ [⟨executor, unit, response.outcome⟩] }
  /-- There is no call to end. -/
  | missing {index : Nat} (absent : scene.visits[index]? = none) :
    scene.Comes (.leave index) scene
  | left {index : Nat} {visit : Visit} {next : Scene} (found : scene.visits[index]? = some visit)
      (concludes : Concludes { scene with visits := scene.visits.eraseIdx index } visit next) :
    scene.Comes (.leave index) next
  | shut {scheduler : Nat} :
    scene.Comes (.shutDown scheduler) { scene with run := World.shutDown scheduler scene.run }
  | intervened {change : World → World} :
    scene.Comes (.intervene change) { scene with run := scene.run.mapState (·.alter change) }

theorem after_submit_of_shut {scene : Scene} {executor : Executor}
    (shut : (scene.run.state.scheduler executor.scheduler).isShutDown = true) (unit : WorkUnit) :
    scene.after (.submit executor unit) =
      scene.returning unit (.error .schedulerShutDown) scene.run := by
  rw [after, Executor.submit_of_shut shut]

theorem after_submit_of_open {scene : Scene} {executor : Executor}
    (accepts : (scene.run.state.scheduler executor.scheduler).isShutDown = false)
    (unit : WorkUnit) :
    scene.after (.submit executor unit) =
      scene.handing ⟨executor, unit, scene.run.state.freshHandle⟩
        (Lifecycle.publish ⟨executor, unit, scene.run.state.freshHandle⟩ .pending
          { scene.run with
            loop := scene.run.loop.spawn
              { owner := some (scene.run.state.scheduler executor.scheduler).id
                body := .attempt ⟨executor, unit, scene.run.state.freshHandle⟩ 0 } }) := by
  rw [after, Executor.submit_of_open accepts]

theorem comes (scene : Scene) (move : Move) : scene.Comes move (scene.after move) := by
  cases move with
  | loop move => exact .looped
  | submit executor unit =>
    by_cases shut : (scene.run.state.scheduler executor.scheduler).isShutDown = true
    · exact after_submit_of_shut shut unit ▸ .refused shut
    · have accepts := Bool.eq_false_iff.2 shut
      exact after_submit_of_open accepts unit ▸ .accepted accepts rfl
  | enter executor unit =>
    rcases begun : executor.beginAttempt unit 0 scene.run.loop.now scene.run.state with
      ⟨result | response, world⟩
    · simp only [after, begun]
      exact .answered begun
    · simp only [after, begun]
      exact .entered begun
  | leave index =>
    rw [after]
    split
    · exact .missing ‹_›
    · exact .left ‹_› (concludes _ _)
  | shutDown scheduler => exact .shut
  | intervene change => exact .intervened

end Scene

/-! ## Order in a scene -/

/-- A handle has one task at most, and its status tells which part of an attempt that is. -/
structure Register.InStep (statuses : Table Nat Status) (agenda : Multiset (Appointment Job)) :
    Prop where
  alone : (agenda.map (·.body.lifecycle.handle)).Nodup
  told : ∀ item ∈ agenda, ∃ status, statuses.find? item.body.lifecycle.handle = some status ∧
    status.isTerminal = false ∧ status.isInProgress = item.body.isUnderWay

/-- Every handle is given out once, the statuses are those of the handles, and all tasks belong to
handles and are in step with their statuses. -/
structure Register.Tidy (statuses : Table Nat Status) (handles : List Lifecycle)
    (agenda : Multiset (Appointment Job)) : Prop extends Register.InStep statuses agenda where
  keys : statuses.keys = List.range handles.length
  numbered : handles.map (·.handle) = List.range handles.length
  known : ∀ item ∈ agenda, item.body.lifecycle ∈ handles

namespace Register

variable {statuses : Table Nat Status} {handles : List Lifecycle}
  {agenda items : Multiset (Appointment Job)} {lifecycle : Lifecycle}

theorem Tidy.size (tidy : Tidy statuses handles agenda) : statuses.size = handles.length := by
  rw [← Table.length_keys, tidy.keys, List.length_range]

theorem Tidy.of_le (tidy : Tidy statuses handles agenda) (fewer : items ≤ agenda) :
    Tidy statuses handles items where
  alone := Multiset.nodup_of_le (Multiset.map_le_map fewer) tidy.alone
  told item member := tidy.told item (Multiset.mem_of_le fewer member)
  keys := tidy.keys
  numbered := tidy.numbered
  known item member := tidy.known item (Multiset.mem_of_le fewer member)

/-- A lifecycle without a task stands in a new phase. -/
theorem InStep.stand {status : Status} {phase : Phase} (inStep : InStep statuses agenda)
    (stands : phase.Stands lifecycle items status)
    (apart : ∀ item ∈ agenda, item.body.lifecycle.handle ≠ lifecycle.handle) :
    InStep (statuses.insert lifecycle.handle status) (items + agenda) where
  alone := by
    rw [Multiset.map_add, Multiset.nodup_add]
    refine ⟨stands.nodup, inStep.alone, Multiset.disjoint_left.2 fun own other => ?_⟩
    obtain ⟨item, member, rfl⟩ := Multiset.mem_map.1 own
    obtain ⟨foreign, planned, same⟩ := Multiset.mem_map.1 other
    refine apart foreign planned (same.trans ?_)
    rw [stands.lifecycle_of_mem item member]
  told item member := by
    rcases Multiset.mem_add.1 member with own | other
    · rw [stands.lifecycle_of_mem item own, Table.find?_insert_self]
      exact ⟨status, rfl, stands.status_of_mem own⟩
    · rw [Table.find?_insert_ne _ _ (apart item other)]
      exact inStep.told item other

/-- A known handle without a task shows a new status. -/
theorem Tidy.publish {status : Status} {phase : Phase} (tidy : Tidy statuses handles agenda)
    (known : lifecycle ∈ handles) (stands : phase.Stands lifecycle items status)
    (apart : ∀ item ∈ agenda, item.body.lifecycle.handle ≠ lifecycle.handle) :
    Tidy (statuses.insert lifecycle.handle status) handles (items + agenda) where
  toInStep := tidy.toInStep.stand stands apart
  keys := by
    rw [Table.keys_insert_of_mem, tidy.keys]
    rw [tidy.keys, ← tidy.numbered]
    exact List.mem_map_of_mem known
  numbered := tidy.numbered
  known item member := by
    rcases Multiset.mem_add.1 member with own | other
    · rw [stands.lifecycle_of_mem item own]
      exact known
    · exact tidy.known item other

/-- A handle that has not been given out has no task. -/
theorem Tidy.apart_of_new (tidy : Tidy statuses handles agenda)
    (new : lifecycle.handle = statuses.size) :
    ∀ item ∈ agenda, item.body.lifecycle.handle ≠ lifecycle.handle := by
  intro item member
  have given : item.body.lifecycle.handle ∈ List.range handles.length :=
    tidy.numbered ▸ List.mem_map_of_mem (tidy.known item member)
  rw [new, tidy.size]
  exact Nat.ne_of_lt (List.mem_range.1 given)

/-- A new handle is given out. -/
theorem Tidy.hand {status : Status} {phase : Phase} (tidy : Tidy statuses handles agenda)
    (new : lifecycle.handle = statuses.size) (stands : phase.Stands lifecycle items status) :
    Tidy (statuses.insert lifecycle.handle status) (handles ++ [lifecycle]) (items + agenda) where
  toInStep := tidy.toInStep.stand stands (tidy.apart_of_new new)
  keys := by
    have unused : lifecycle.handle ∉ statuses.keys := by
      rw [tidy.keys, new, tidy.size]
      exact List.not_mem_range_self
    rw [Table.keys_insert_of_notMem _ unused, tidy.keys, new, tidy.size, List.length_append,
      List.length_singleton, List.range_succ]
  numbered := by
    rw [List.map_append, tidy.numbered, List.length_append, List.length_singleton, List.range_succ,
      List.map_singleton, new, tidy.size]
  known item member := by
    rcases Multiset.mem_add.1 member with own | other
    · rw [stands.lifecycle_of_mem item own]
      exact List.mem_append_right _ (List.mem_singleton_self _)
    · exact List.mem_append_left _ (tidy.known item other)

/-- Two lifecycles do not have the same handle. -/
theorem Tidy.handle_injective (tidy : Tidy statuses handles agenda) {other : Lifecycle}
    (known : lifecycle ∈ handles) (also : other ∈ handles)
    (same : lifecycle.handle = other.handle) : lifecycle = other := by
  have distinct : (handles.map (·.handle)).Nodup := tidy.numbered ▸ List.nodup_range
  exact List.inj_on_of_nodup_map distinct known also same

end Register

/-! ## Signs of a lifecycle -/

/-- Something in a scene by which a lifecycle can be seen. -/
inductive Sign where
  | task (item : Appointment Job)
  | call (visit : Visit)
  | handle (lifecycle : Lifecycle) (status : Option Status)
  | result (unit : WorkUnit) (result : Except Failure Completion)

/-- The unit of a lifecycle that is seen. -/
def Sign.unit : Sign → WorkUnit
  | task item => item.body.lifecycle.unit
  | call visit => visit.unit
  | handle lifecycle _ => lifecycle.unit
  | result unit _ => unit

/-- A task and its handle are signs of one lifecycle. -/
theorem Sign.unit_of_turn {now : Nat} {owner : Option Nat} {body : Job} {status : Option Status} :
    ∀ sign ∈ ({.task ⟨now, owner, body⟩} + {.handle body.lifecycle status} : Multiset Sign),
      sign.unit = body.lifecycle.unit := by
  intro sign member
  rcases Multiset.mem_add.1 member with task | handle
  · exact congrArg Sign.unit (Multiset.mem_singleton.1 task)
  · exact congrArg Sign.unit (Multiset.mem_singleton.1 handle)

/-- The executor of a lifecycle that is seen, if it can be told. -/
def Sign.executor? : Sign → Option Executor
  | task item => item.body.lifecycle.executor
  | call visit => visit.executor
  | handle lifecycle _ => lifecycle.executor
  | result .. => none

/-- The handles with the statuses they show. -/
def Register.signs (statuses : Table Nat Status) (handles : List Lifecycle) : Multiset Sign :=
  Multiset.map (fun lifecycle => Sign.handle lifecycle (statuses.find? lifecycle.handle)) ↑handles

namespace Register

variable {statuses : Table Nat Status} {handles : List Lifecycle}
  {agenda items : Multiset (Appointment Job)} {lifecycle : Lifecycle}

/-- The other lifecycles have other handles. -/
theorem Tidy.exists_append (tidy : Tidy statuses handles agenda) (known : lifecycle ∈ handles) :
    ∃ early late, handles = early ++ lifecycle :: late ∧
      ∀ other ∈ early ++ late, other.handle ≠ lifecycle.handle := by
  obtain ⟨early, late, rfl⟩ := List.append_of_mem known
  refine ⟨early, late, rfl, fun other member same => ?_⟩
  have distinct : ((early ++ lifecycle :: late).map (·.handle)).Nodup :=
    tidy.numbered ▸ List.nodup_range
  have front : (early ++ lifecycle :: late).Perm (lifecycle :: (early ++ late)) :=
    List.perm_middle
  have apart := (front.map (·.handle)).nodup_iff.1 distinct
  exact (List.nodup_cons.1 apart).1 (List.mem_map.2 ⟨other, member, same⟩)

/-- A new status of a handle changes one sign. -/
theorem Tidy.signs_publish (tidy : Tidy statuses handles agenda) (known : lifecycle ∈ handles)
    (status : Status) :
    ∃ rest,
      signs statuses handles = {.handle lifecycle (statuses.find? lifecycle.handle)} + rest ∧
      signs (statuses.insert lifecycle.handle status) handles =
        {.handle lifecycle (some status)} + rest := by
  obtain ⟨early, late, rfl, others⟩ := tidy.exists_append known
  have split (table : Table Nat Status) : signs table (early ++ lifecycle :: late) =
      {.handle lifecycle (table.find? lifecycle.handle)} + signs table (early ++ late) := by
    rw [signs, Multiset.coe_eq_coe.2 List.perm_middle, ← Multiset.cons_coe, Multiset.map_cons,
      Multiset.singleton_add, signs]
  refine ⟨signs statuses (early ++ late), split _, ?_⟩
  rw [split, Table.find?_insert_self]
  congr 1
  refine Multiset.map_congr rfl fun other member => ?_
  rw [Table.find?_insert_ne statuses status (others other member)]

/-- A new handle is one more sign. -/
theorem Tidy.signs_hand (tidy : Tidy statuses handles agenda)
    (new : lifecycle.handle = statuses.size) (status : Status) :
    signs (statuses.insert lifecycle.handle status) (handles ++ [lifecycle]) =
      {.handle lifecycle (some status)} + signs statuses handles := by
  have old : signs (statuses.insert lifecycle.handle status) handles = signs statuses handles := by
    refine Multiset.map_congr rfl fun own member => ?_
    have given : own.handle ∈ List.range handles.length :=
      tidy.numbered ▸ List.mem_map_of_mem member
    have apart : own.handle ≠ lifecycle.handle := by
      rw [new, tidy.size]
      exact Nat.ne_of_lt (List.mem_range.1 given)
    rw [Table.find?_insert_ne statuses status apart]
  rw [← old, signs, ← Multiset.coe_add, Multiset.map_add, Multiset.coe_singleton,
    Multiset.map_singleton, Table.find?_insert_self, Multiset.add_comm, signs]

end Register

/-- What a scene shows of a lifecycle in a phase. -/
inductive Phase.Shows (executor : Executor) (unit : WorkUnit) : Phase → Multiset Sign → Prop
  | absent : Shows executor unit .absent 0
  | calling (outcome : Except Fault Unit) :
    Shows executor unit (.calling outcome) {.call ⟨executor, unit, outcome⟩}
  | returned (result : Except Failure Completion) :
    Shows executor unit (.ended result) {.result unit result}
  | onHandle {phase : Phase} {items : Multiset (Appointment Job)} {status : Status} (handle : Nat)
      (stands : phase.Stands ⟨executor, unit, handle⟩ items status) :
    Shows executor unit phase
      (items.map .task + {.handle ⟨executor, unit, handle⟩ (some status)})
  /-- The last status stays, and tells whether an invocation was cut off. -/
  | cutOff {status : Status} (handle : Nat) (unfinished : status.isTerminal = false) :
    Shows executor unit (.cutOff status.isInProgress)
      {.handle ⟨executor, unit, handle⟩ (some status)}

namespace Phase.Shows

variable {executor : Executor} {unit : WorkUnit} {phase : Phase} {signs : Multiset Sign}

theorem of_stands {lifecycle : Lifecycle} {items : Multiset (Appointment Job)} {status : Status}
    (stands : phase.Stands lifecycle items status) :
    phase.Shows lifecycle.executor lifecycle.unit
      (items.map .task + {.handle lifecycle (some status)}) :=
  .onHandle lifecycle.handle stands

/-- All signs of a lifecycle are about it. -/
theorem about (shows : phase.Shows executor unit signs) :
    ∀ sign ∈ signs, sign.unit = unit ∧ ∀ other ∈ sign.executor?, other = executor := by
  intro sign member
  cases shows with
  | absent => exact absurd member (Multiset.notMem_zero _)
  | calling outcome =>
    cases Multiset.mem_singleton.1 member
    exact ⟨rfl, fun other same => (Option.some.inj same).symm⟩
  | returned result =>
    cases Multiset.mem_singleton.1 member
    exact ⟨rfl, fun other nobody => absurd nobody (Option.not_mem_none other)⟩
  | onHandle handle stands =>
    -- on a handle the lifecycle is seen by its task and by its status
    rcases Multiset.mem_add.1 member with member | member
    · obtain ⟨item, own, rfl⟩ := Multiset.mem_map.1 member
      have same := stands.lifecycle_of_mem item own
      exact ⟨congrArg (·.unit) same, fun other found =>
        (Option.some.inj found).symm.trans (congrArg (·.executor) same)⟩
    · cases Multiset.mem_singleton.1 member
      exact ⟨rfl, fun other same => (Option.some.inj same).symm⟩
  | cutOff handle unfinished =>
    cases Multiset.mem_singleton.1 member
    exact ⟨rfl, fun other same => (Option.some.inj same).symm⟩

/-- A lifecycle whose turn comes is in the phase of its job, and nothing else is seen of it. -/
theorem phase_of_task {owner : Option Nat} {now : Nat} {body : Job} {before : Option Status}
    {rest : Multiset Sign}
    (shows : phase.Shows executor unit
      ({.task ⟨now, owner, body⟩} + {.handle body.lifecycle before} + rest)) :
    phase = body.phase now ∧ rest = 0 ∧ executor = body.lifecycle.executor ∧
      unit = body.lifecycle.unit := by
  have about := shows.about (.task ⟨now, owner, body⟩) (by simp)
  refine ⟨?_, ?_, (about.2 _ rfl).symm, about.1.symm⟩
  -- a task and a handle are two signs, so it is on a handle that the lifecycle is seen
  all_goals
    generalize same : ({.task ⟨now, owner, body⟩} + {.handle body.lifecycle before} + rest :
      Multiset Sign) = signs at shows
    have size := congrArg Multiset.card same
    cases shows with
    | absent => simp at size
    | calling | returned | cutOff =>
      simp only [Multiset.card_add, Multiset.card_singleton] at size
      omega
    | onHandle handle stands =>
      rename_i items status
      have member : Sign.task ⟨now, owner, body⟩ ∈
          items.map Sign.task + {.handle ⟨executor, unit, handle⟩ (some status)} := by
        rw [← same]
        simp
      have inItems : (⟨now, owner, body⟩ : Appointment Job) ∈ items := by
        simpa using member
      obtain ⟨single, phase⟩ := stands.phase_of_mem inItems
      first
        | exact phase
        | simp only [single, Multiset.card_add, Multiset.map_singleton, Multiset.card_singleton]
            at size
          exact Multiset.card_eq_zero.1 (by omega)

/-- Tasks that are cut off leave the phase as it is, or were the last sign of progress. -/
theorem of_cut {gone : Multiset (Appointment Job)}
    (shows : phase.Shows executor unit (gone.map .task + signs)) :
    phase.Shows executor unit signs ∨
      gone ≠ 0 ∧ phase.isRegular = true ∧ ∃ invoked,
        (Phase.cutOff invoked).Shows executor unit signs ∧
        ∀ surroundings world,
          Story.Step surroundings executor unit (phase, world) (.cutOff invoked, world) := by
  rcases Multiset.empty_or_exists_mem gone with rfl | ⟨item, gone_item⟩
  · exact .inl (by simpa using shows)
  · obtain ⟨others, rfl⟩ := Multiset.exists_cons_of_mem gone_item
    generalize same : (item ::ₘ others).map Sign.task + signs = all at shows
    have member : Sign.task item ∈ all := by
      rw [← same]
      simp
    cases shows with
    | absent => exact absurd member (Multiset.notMem_zero _)
    | calling | returned | cutOff => cases Multiset.mem_singleton.1 member
    | onHandle handle stands =>
      rename_i items status
      have inItems : item ∈ items := by simpa using member
      obtain ⟨unfinished, cut⟩ := stands.cut_of_mem inItems
      rw [(stands.phase_of_mem inItems).1, Multiset.map_cons, Multiset.map_singleton,
        ← Multiset.singleton_add, Multiset.add_assoc, Multiset.add_right_inj] at same
      -- no other task is left, so the handle is all that is seen
      have last : others = 0 := by
        refine Multiset.eq_zero_of_forall_notMem fun other member => ?_
        have seen : Sign.task other ∈
            ({.handle ⟨executor, unit, handle⟩ (some status)} : Multiset Sign) := by
          rw [← same]
          exact Multiset.mem_add.2 (.inl (Multiset.mem_map_of_mem _ member))
        cases Multiset.mem_singleton.1 seen
      rw [last, Multiset.map_zero, Multiset.zero_add] at same
      refine .inr ⟨Multiset.cons_ne_zero, stands.isRegular, status.isInProgress, ?_,
        fun surroundings world => cut _ _ _ _⟩
      rw [same]
      exact .cutOff handle unfinished

/-- A lifecycle with a call that is under way is in the phase of the call, and nothing else is seen
of it. -/
theorem phase_of_call {visit : Visit} {rest : Multiset Sign}
    (shows : phase.Shows executor unit ({.call visit} + rest)) :
    phase = .calling visit.outcome ∧ rest = 0 ∧ executor = visit.executor ∧
      unit = visit.unit := by
  generalize same : ({.call visit} + rest : Multiset Sign) = signs at shows
  have member : Sign.call visit ∈ signs := by
    rw [← same]
    simp
  cases shows with
  | absent => simp at member
  | calling outcome =>
    cases Multiset.mem_singleton.1 member
    have size := congrArg Multiset.card same
    simp only [Multiset.card_add, Multiset.card_singleton] at size
    exact ⟨rfl, Multiset.card_eq_zero.1 (by omega), rfl, rfl⟩
  | returned result => cases Multiset.mem_singleton.1 member
  | onHandle handle stands => simp at member
  | cutOff handle unfinished => cases Multiset.mem_singleton.1 member

end Phase.Shows

namespace Scene

/-- Everything that can be seen of lifecycles in a scene. -/
def signs (scene : Scene) : Multiset Sign :=
  scene.run.loop.agenda.map .task + (scene.visits : Multiset Visit).map .call +
    Register.signs scene.run.state.statuses scene.handles +
    (scene.returned : Multiset (WorkUnit × Except Failure Completion)).map fun entry =>
      .result entry.1 entry.2

/-- Every handle is given out once, and all tasks belong to handles. -/
abbrev Tidy (scene : Scene) : Prop :=
  Register.Tidy scene.run.state.statuses scene.handles scene.run.loop.agenda

/-- A lifecycle goes on from one phase to another, and nothing else in the scene changes. -/
def Acts (executor : Executor) (unit : WorkUnit) (before after : Phase) (own : Multiset Sign)
    (scene next : Scene) : Prop :=
  ∃ shown rest,
    scene.signs = own + rest ∧ next.signs = shown + rest ∧ after.Shows executor unit shown ∧
      after.isRegular = true ∧ ∀ surroundings,
        Story surroundings executor unit (before, scene.run.state) (after, next.run.state)

variable {scene : Scene}

theorem task_mem_signs {item : Appointment Job} :
    Sign.task item ∈ scene.signs ↔ item ∈ scene.run.loop.agenda := by
  simp [signs, Register.signs]

theorem call_mem_signs {visit : Visit} : Sign.call visit ∈ scene.signs ↔ visit ∈ scene.visits := by
  simp [signs, Register.signs]

theorem handle_mem_signs {lifecycle : Lifecycle} {status : Option Status} :
    Sign.handle lifecycle status ∈ scene.signs ↔
      lifecycle ∈ scene.handles ∧ scene.run.state.statuses.find? lifecycle.handle = status := by
  simp only [signs, Register.signs, Multiset.mem_add, Multiset.mem_map, Multiset.mem_coe]
  constructor
  · rintro (((⟨_, _, same⟩ | ⟨_, _, same⟩) | ⟨_, given, same⟩) | ⟨_, _, same⟩) <;> cases same
    exact ⟨given, rfl⟩
  · rintro ⟨given, rfl⟩
    exact .inl (.inr ⟨lifecycle, given, rfl⟩)

theorem result_mem_signs {unit : WorkUnit} {result : Except Failure Completion} :
    Sign.result unit result ∈ scene.signs ↔ (unit, result) ∈ scene.returned := by
  simp [signs, Register.signs]

/-! ### Moves of the loop -/

/-- The turn of a job is taken in a scene. -/
def Performs (scene : Scene) (owner : Option Nat) (body : Job) (next : Universe) : Prop :=
  ∃ delay loop, loop.now = scene.run.loop.now ∧
    next = World.reactor.perform ⟨owner, delay, body⟩ { scene.run with loop }

/-- A turn changes nothing, or the lifecycle of a job goes on. -/
theorem Tidy.turn (tidy : scene.Tidy) {next : Universe}
    (taken : World.reactor.turn? scene.run = some next) :
    Tidy { scene with run := next } ∧
      ((next.loop.agenda = scene.run.loop.agenda ∧ next.state = scene.run.state) ∨
        ∃ owner body after,
          Acts body.lifecycle.executor body.lifecycle.unit (body.phase scene.run.loop.now) after
            ({.task ⟨scene.run.loop.now, owner, body⟩} +
              {.handle body.lifecycle
                (scene.run.state.statuses.find? body.lifecycle.handle)})
            scene { scene with run := next } ∧ scene.Performs owner body next) := by
  rcases Reactor.turn?_cases taken with ⟨agenda, state, -, -⟩ | ⟨task, rest, -, -, agenda, rfl⟩
  · refine ⟨?_, .inl ⟨agenda, state⟩⟩
    rw [Tidy, agenda, state]
    exact tidy
  · obtain ⟨owner, delay, body⟩ := task
    obtain ⟨after, items, status, stands, items_agenda, -, -, statuses, story⟩ :=
      World.perform_passes owner delay body
        { scene.run with loop := { scene.run.loop with ready := rest } }
    have known : body.lifecycle ∈ scene.handles := by
      refine tidy.known ⟨scene.run.loop.now, owner, body⟩ ?_
      rw [agenda]
      exact Multiset.mem_cons_self _ _
    have still : Register.Tidy scene.run.state.statuses scene.handles
        { scene.run.loop with ready := rest }.agenda :=
      tidy.of_le (by
        rw [agenda]
        exact Multiset.le_cons_self _ _)
    -- the task was the only one of its handle
    have apart : ∀ item ∈ { scene.run.loop with ready := rest }.agenda,
        item.body.lifecycle.handle ≠ body.lifecycle.handle := by
      intro item member same
      have alone := tidy.alone
      rw [agenda, Multiset.map_cons, Multiset.nodup_cons] at alone
      exact alone.1 (Multiset.mem_map.2 ⟨item, member, same⟩)
    refine ⟨?_, .inr ⟨owner, body, after, ?_, delay, { scene.run.loop with ready := rest }, rfl, rfl⟩⟩
    · rw [Tidy, items_agenda, statuses]
      exact still.publish known stands apart
    · obtain ⟨others, old, new⟩ := tidy.signs_publish known status
      refine ⟨items.map .task + {.handle body.lifecycle (some status)},
        { scene.run.loop with ready := rest }.agenda.map .task +
          (scene.visits : Multiset Visit).map .call + others +
          (scene.returned : Multiset (WorkUnit × Except Failure Completion)).map fun entry =>
            .result entry.1 entry.2, ?_, ?_, .of_stands stands, stands.isRegular, story⟩
      · rw [signs, agenda, old, Multiset.map_cons, ← Multiset.singleton_add]
        abel
      · rw [signs, items_agenda, statuses, new, Multiset.map_add]
        abel

/-! ### Starts and ends of calls -/

/-- A handle is given out. -/
theorem Tidy.handing (tidy : scene.Tidy) {lifecycle : Lifecycle} (next : Universe)
    {items : Multiset (Appointment Job)} {status : Status} {phase : Phase}
    (new : lifecycle.handle = scene.run.state.freshHandle)
    (stands : phase.Stands lifecycle items status)
    (agenda : next.loop.agenda = items + scene.run.loop.agenda)
    (statuses :
      next.state.statuses = scene.run.state.statuses.insert lifecycle.handle status) :
    (scene.handing lifecycle next).Tidy ∧
      (scene.handing lifecycle next).signs =
        items.map .task + {.handle lifecycle (some status)} + scene.signs := by
  constructor
  · rw [Tidy, Scene.handing, agenda, statuses]
    exact Register.Tidy.hand tidy new stands
  · simp only [signs, Scene.handing]
    rw [agenda, statuses, Register.Tidy.signs_hand tidy new, Multiset.map_add]
    abel

/-- A result is returned. -/
theorem Tidy.returning (tidy : scene.Tidy) (unit : WorkUnit) (result : Except Failure Completion)
    (next : Universe) (loop : next.loop = scene.run.loop)
    (statuses : next.state.statuses = scene.run.state.statuses) :
    (scene.returning unit result next).Tidy ∧
      (scene.returning unit result next).signs = {.result unit result} + scene.signs := by
  constructor
  · rw [Tidy, Scene.returning, loop, statuses]
    exact tidy
  · simp only [signs, Scene.returning]
    rw [loop, statuses, ← Multiset.coe_add, Multiset.map_add, Multiset.coe_singleton,
      Multiset.map_singleton]
    abel

theorem Tidy.submit (tidy : scene.Tidy) (executor : Executor) (unit : WorkUnit) :
    (scene.after (.submit executor unit)).Tidy ∧
      ∃ phase, Acts executor unit .absent phase 0 scene (scene.after (.submit executor unit)) := by
  have comes := scene.comes (.submit executor unit)
  generalize scene.after (.submit executor unit) = next at comes ⊢
  cases comes with
  | refused shut =>
    obtain ⟨still, shown⟩ := tidy.returning unit (.error .schedulerShutDown) scene.run rfl rfl
    refine ⟨still, .ended (.error .schedulerShutDown), {.result unit (.error .schedulerShutDown)},
      scene.signs, (Multiset.zero_add _).symm, shown, .returned _, rfl, fun surroundings => ?_⟩
    exact .tail (.single (.submitted scene.run.loop.now)) (.refused 0 scene.run.loop.now shut)
  | @accepted _ _ lifecycle accepts handed =>
    cases handed
    let lifecycle : Lifecycle := ⟨executor, unit, scene.run.state.freshHandle⟩
    have stands : (Phase.waiting 0 scene.run.loop.now).Stands lifecycle
        {⟨scene.run.loop.now, some (scene.run.state.scheduler executor.scheduler).id,
          .attempt lifecycle 0⟩} .pending :=
      ⟨⟨some (scene.run.state.scheduler executor.scheduler).id, rfl⟩, rfl, rfl⟩
    obtain ⟨still, shown⟩ := tidy.handing
      (lifecycle.publish .pending
        { scene.run with
          loop := scene.run.loop.spawn
            { owner := some (scene.run.state.scheduler executor.scheduler).id
              body := .attempt lifecycle 0 } })
      rfl stands
      (by
        rw [Multiset.singleton_add]
        refine (EventLoop.agenda_spawn _ _).trans ?_
        rw [Task.appointment, Duration.waitMillis_zero, Nat.add_zero])
      rfl
    refine ⟨still, .waiting 0 scene.run.loop.now, _, scene.signs, (Multiset.zero_add _).symm, shown,
      .of_stands stands, rfl, fun surroundings => ?_⟩
    exact .tail (.single (.submitted scene.run.loop.now))
      (.aside (.publish scene.run.loop.now scene.run.state.freshHandle .pending) trivial)

theorem Tidy.enter (tidy : scene.Tidy) (executor : Executor) (unit : WorkUnit) :
    (scene.after (.enter executor unit)).Tidy ∧
      ∃ phase, Acts executor unit .absent phase 0 scene (scene.after (.enter executor unit)) := by
  have same := executor.statuses_beginAttempt unit 0 scene.run.loop.now scene.run.state
  have story (surroundings : Surroundings) := Relation.ReflTransGen.single
    (@Story.Step.entered surroundings executor unit scene.run.state scene.run.loop.now)
  have comes := scene.comes (.enter executor unit)
  generalize scene.after (.enter executor unit) = next at comes ⊢
  cases comes with
  | @answered _ _ result world begun =>
    rw [begun] at same story
    obtain ⟨still, shown⟩ := tidy.returning unit result { scene.run with state := world } rfl same
    exact ⟨still, .ended result, _, scene.signs, (Multiset.zero_add _).symm, shown, .returned _,
      rfl, story⟩
  | @entered _ _ response world begun =>
    rw [begun] at same story
    refine ⟨?_, .calling response.outcome, {.call ⟨executor, unit, response.outcome⟩},
      scene.signs, (Multiset.zero_add _).symm, ?_, .calling _, rfl, story⟩
    · dsimp only at same ⊢
      rw [Tidy, same]
      exact tidy
    · dsimp only [signs] at same ⊢
      rw [same, ← Multiset.coe_add, Multiset.map_add, Multiset.coe_singleton,
        Multiset.map_singleton]
      abel

/-- The end of a call, whose visit has been taken outside the scene. -/
theorem Tidy.concludes (tidy : scene.Tidy) {visit : Visit} {next : Scene}
    (concludes : scene.Concludes visit next) :
    next.Tidy ∧
      ∃ phase shown, next.signs = shown + scene.signs ∧
        phase.Shows visit.executor visit.unit shown ∧ phase.isRegular = true ∧
        ∀ surroundings, Story surroundings visit.executor visit.unit
          (.calling visit.outcome, scene.run.state) (phase, next.run.state) := by
  have same := visit.executor.statuses_endAttempt visit.unit 0 visit.outcome scene.run.loop.now
    scene.run.state
  have concluded (surroundings : Surroundings) := Relation.ReflTransGen.single
    (@Story.Step.left surroundings visit.executor visit.unit scene.run.state scene.run.loop.now
      visit.outcome)
  cases concludes with
  | @done result world ended =>
    rw [ended] at same concluded
    obtain ⟨still, shown⟩ :=
      tidy.returning visit.unit result { scene.run with state := world } rfl same
    exact ⟨still, .ended result, _, shown, .returned _, rfl, concluded⟩
  | @retry attempt delay world lifecycle ended handed =>
    rw [ended] at same concluded
    cases handed
    -- the new handle shows that the unit is pending, and then what becomes of the retry
    obtain ⟨after, items, status, stands, agenda, -, -, statuses, story⟩ :=
      Lifecycle.postpone_passes ⟨visit.executor, visit.unit, scene.run.state.freshHandle⟩
        (Lifecycle.publish ⟨visit.executor, visit.unit, scene.run.state.freshHandle⟩ .pending
          { scene.run with state := world })
        attempt delay
    obtain ⟨still, shown⟩ := tidy.handing _ rfl stands agenda (by
      rw [statuses]
      refine (Table.insert_insert ..).trans ?_
      rw [same])
    refine ⟨still, after, _, shown, .of_stands stands, stands.isRegular, fun surroundings => ?_⟩
    exact ((concluded surroundings).tail
      (.aside (.publish scene.run.loop.now scene.run.state.freshHandle .pending) trivial)).trans
      (story surroundings)

/-- A call that is under way is taken outside. -/
theorem signs_eraseIdx {index : Nat} {visit : Visit} (found : scene.visits[index]? = some visit) :
    scene.signs = {.call visit} + { scene with visits := scene.visits.eraseIdx index }.signs := by
  obtain ⟨within, rfl⟩ := List.getElem?_eq_some_iff.1 found
  have front := (List.getElem_cons_eraseIdx_perm within).symm
  rw [signs, Multiset.coe_eq_coe.2 front, ← Multiset.cons_coe, Multiset.map_cons,
    ← Multiset.singleton_add, signs]
  abel

/-! ### All moves -/

/-- What a move comes to: tasks may be cut off and nothing else changes, or a lifecycle starts or
goes on. -/
inductive Passage (scene next : Scene) (move : Move) : Prop
  | quiet (gone : Multiset (Appointment Job))
      (cut : gone ≠ 0 → ∃ scheduler, move = .shutDown scheduler)
      (signs : scene.signs = gone.map .task + next.signs)
      (deeds : List Deed)
      (asides : ∀ surroundings, move.Allowed surroundings → ∀ deed ∈ deeds, deed.Aside surroundings)
      (state : next.run.state = scene.run.state.performAll deeds)
  | started {executor : Executor} {unit : WorkUnit} {phase : Phase}
      (start : move.start? = some (executor, unit))
      (acts : Acts executor unit .absent phase 0 scene next)
  | turned {owner : Option Nat} {body : Job} {status : Option Status} {phase : Phase}
      (acts : Acts body.lifecycle.executor body.lifecycle.unit (body.phase scene.run.loop.now) phase
        ({.task ⟨scene.run.loop.now, owner, body⟩} + {.handle body.lifecycle status}) scene next)
      (turn : move = .loop .turn) (performs : scene.Performs owner body next.run)
  | called {visit : Visit} {phase : Phase}
      (acts : Acts visit.executor visit.unit (.calling visit.outcome) phase {.call visit}
        scene next)

/-- A move that changes nothing. -/
theorem Passage.refl (scene : Scene) (move : Move) : Passage scene scene move :=
  .quiet 0 (absurd rfl) (Multiset.zero_add _).symm [] (fun _ _ => List.forall_mem_nil _) rfl

theorem Tidy.move (tidy : scene.Tidy) (move : LoopMove) :
    (scene.after (.loop move)).Tidy ∧ Passage scene (scene.after (.loop move)) (.loop move) := by
  have comes := World.reactor.comes scene.run move
  rw [Scene.after]
  generalize World.reactor.move scene.run move = next at comes ⊢
  cases comes with
  | still => exact ⟨tidy, .refl scene _⟩
  | turned taken =>
    obtain ⟨tidier, ⟨agenda, state⟩ | ⟨owner, body, phase, acts, performs⟩⟩ := tidy.turn taken
    · refine ⟨tidier, .quiet 0 (absurd rfl) ?_ [] (fun _ _ => List.forall_mem_nil _) state⟩
      rw [Multiset.map_zero, Multiset.zero_add, signs, signs, agenda, state]
    · exact ⟨tidier, .turned acts rfl performs⟩
  | @jumped target reaches =>
    -- a jump of the clock takes nothing off the agenda
    have agenda : (scene.run.loop.wakeAt target).agenda = scene.run.loop.agenda :=
      EventLoop.agenda_wakeAt reaches
    constructor
    · simp only [Tidy, Reactor.moveTo]
      rw [agenda]
      exact tidy
    · refine .quiet 0 (absurd rfl) ?_ [.elapse scene.run.loop.now target]
        (fun _ _ => List.forall_mem_singleton.2 trivial) rfl
      rw [Multiset.map_zero, Multiset.zero_add, signs, signs]
      simp only [Reactor.moveTo]
      rw [agenda]
      rfl

theorem Tidy.shutDown (tidy : scene.Tidy) (scheduler : Nat) :
    (scene.after (.shutDown scheduler)).Tidy ∧
      Passage scene (scene.after (.shutDown scheduler)) (.shutDown scheduler) := by
  obtain ⟨gone, agenda⟩ : ∃ gone : Multiset (Appointment Job), scene.run.loop.agenda =
      gone + (World.shutDown scheduler scene.run).loop.agenda := by
    by_cases shut : (scene.run.state.scheduler scheduler).isShutDown = true
    · exact ⟨0, by rw [World.loop_shutDown_of_shut shut, Multiset.zero_add]⟩
    · refine ⟨scene.run.loop.agenda.filter
        (¬ ·.owner ≠ some (scene.run.state.scheduler scheduler).id), ?_⟩
      rw [World.loop_shutDown_of_open (Bool.eq_false_iff.2 shut), EventLoop.agenda_abort,
        Multiset.add_comm, Multiset.filter_add_not]
  constructor
  · refine tidy.of_le ?_
    rw [agenda]
    exact Multiset.le_add_left _ _
  · refine .quiet gone (fun _ => ⟨scheduler, rfl⟩) ?_
      [.setScheduler scheduler
        ((scene.run.state.scheduler scheduler).shutDown scene.run.loop).1]
      (fun _ allowed => List.forall_mem_singleton.2 allowed) rfl
    rw [signs, agenda, Multiset.map_add, signs]
    simp only [after, Multiset.add_assoc]
    rfl

/-- Every move keeps a scene tidy. -/
theorem Tidy.after (tidy : scene.Tidy) (move : Move) :
    (scene.after move).Tidy ∧ Passage scene (scene.after move) move := by
  cases move with
  | loop move => exact tidy.move move
  | submit executor unit =>
    obtain ⟨still, phase, acts⟩ := tidy.submit executor unit
    exact ⟨still, .started rfl acts⟩
  | enter executor unit =>
    obtain ⟨still, phase, acts⟩ := tidy.enter executor unit
    exact ⟨still, .started rfl acts⟩
  | leave index =>
    have comes := scene.comes (.leave index)
    generalize scene.after (.leave index) = next at comes ⊢
    cases comes with
    | missing => exact ⟨tidy, .refl scene _⟩
    | @left _ visit _ found concludes =>
      -- the visit is taken off before the call comes to its end
      obtain ⟨still, phase, shown, signs, shows, goesOn, story⟩ :=
        @Tidy.concludes { scene with visits := scene.visits.eraseIdx index } tidy _ _ concludes
      exact ⟨still,
        .called ⟨shown, _, signs_eraseIdx found, signs, shows, goesOn, story⟩⟩
  | shutDown scheduler => exact tidy.shutDown scheduler
  | intervene change =>
    exact ⟨tidy, .quiet 0 (absurd rfl) (Multiset.zero_add _).symm [.alter change]
      (fun _ allowed => List.forall_mem_singleton.2 allowed) rfl⟩

theorem tidy_opening (world : World) (now : Nat) : (opening world now).Tidy where
  alone := Multiset.nodup_zero
  told _ member := absurd member (Multiset.notMem_zero _)
  keys := rfl
  numbered := rfl
  known _ member := absurd member (Multiset.notMem_zero _)

/-- Scenes stay tidy. -/
theorem Tidy.play (tidy : scene.Tidy) (moves : List Move) : (scene.play moves).Tidy := by
  induction moves generalizing scene with
  | nil => exact tidy
  | cons move moves ih => exact ih (tidy.after move).1

/-! ### Stories in a scene -/

/-- What can be seen of the lifecycles of some units. -/
def signsOf (scene : Scene) (mine : WorkUnit → Bool) : Multiset Sign :=
  scene.signs.filter (mine ·.unit)

/-- Only known executors work on other units. -/
def Peopled (surroundings : Surroundings) (scene : Scene) : Prop :=
  ∀ sign ∈ scene.signs, surroundings.mine sign.unit = false →
    ∀ executor ∈ sign.executor?, surroundings.plays executor sign.unit

section Acts

variable {next : Scene} {executor : Executor} {unit : WorkUnit} {before after : Phase}
  {own : Multiset Sign} {mine : WorkUnit → Bool}

theorem Acts.signsOf_of_other (acts : Acts executor unit before after own scene next)
    (about : ∀ sign ∈ own, sign.unit = unit) (other : mine unit = false) :
    next.signsOf mine = scene.signsOf mine := by
  obtain ⟨shown, rest, here, there, shows, -⟩ := acts
  have none (signs : Multiset Sign) (about : ∀ sign ∈ signs, sign.unit = unit) :
      signs.filter (mine ·.unit) = 0 :=
    Multiset.filter_eq_nil.2 fun sign member => by simp [about sign member, other]
  rw [signsOf, signsOf, here, there, Multiset.filter_add, Multiset.filter_add, none own about,
    none shown fun sign member => (shows.about sign member).1]

theorem Acts.signsOf_of_mine (acts : Acts executor unit before after own scene next)
    (about : ∀ sign ∈ own, sign.unit = unit) (same : mine unit = true) :
    ∃ rest, scene.signsOf mine = own + rest ∧
      (rest = 0 → after.Shows executor unit (next.signsOf mine)) := by
  obtain ⟨shown, rest, here, there, shows, -⟩ := acts
  have all (signs : Multiset Sign) (about : ∀ sign ∈ signs, sign.unit = unit) :
      signs.filter (mine ·.unit) = signs :=
    Multiset.filter_eq_self.2 fun sign member => by rw [about sign member, same]
  refine ⟨rest.filter (mine ·.unit), ?_, fun nothing => ?_⟩
  · rw [signsOf, here, Multiset.filter_add, all own about]
  · rw [signsOf, there, Multiset.filter_add, nothing, Multiset.add_zero,
      all shown fun sign member => (shows.about sign member).1]
    exact shows

end Acts

/-- Whoever goes on from a sign of a known executor is known. -/
theorem Peopled.plays {surroundings : Surroundings} {executor player : Executor} {unit : WorkUnit}
    {before after : Phase} {own : Multiset Sign} {next : Scene} {sign : Sign}
    (peopled : scene.Peopled surroundings) (acts : Acts executor unit before after own scene next)
    (member : sign ∈ own) (shown : sign.executor? = some player)
    (other : surroundings.mine sign.unit = false) : surroundings.plays player sign.unit := by
  obtain ⟨_, rest, here, -⟩ := acts
  exact peopled sign (here ▸ Multiset.mem_add.2 (.inl member)) other player shown

/-- Whoever moves, the executors in the scene stay the known ones. -/
theorem Passage.peopled {surroundings : Surroundings} {next : Scene} {move : Move}
    (passage : Passage scene next move) (allowed : move.Allowed surroundings)
    (peopled : scene.Peopled surroundings) : next.Peopled surroundings := by
  -- a lifecycle that was known before the move is known after it
  have after_acts {executor : Executor} {unit : WorkUnit} {before after : Phase}
      {own : Multiset Sign} (acts : Acts executor unit before after own scene next)
      (known : surroundings.mine unit = false → surroundings.plays executor unit) :
      next.Peopled surroundings := by
    obtain ⟨shown, rest, here, there, shows, -⟩ := acts
    intro sign member other player plays
    rw [there] at member
    rcases Multiset.mem_add.1 member with member | member
    · obtain ⟨same, only⟩ := shows.about sign member
      rw [only player plays]
      rw [same] at other ⊢
      exact known other
    · exact peopled sign (here ▸ Multiset.mem_add.2 (.inr member)) other player plays
  cases passage with
  | quiet gone cut signs deeds asides state =>
    intro sign member
    exact peopled sign (signs ▸ Multiset.mem_add.2 (.inr member))
  | started start acts => exact after_acts acts (allowed.plays start)
  | turned acts =>
    exact after_acts acts
      (peopled.plays acts (Multiset.mem_add.2 (.inl (Multiset.mem_singleton_self _))) rfl)
  | called acts => exact after_acts acts (peopled.plays acts (Multiset.mem_singleton_self _) rfl)

/-- What a move means for a lifecycle that it does not start: it leaves the lifecycle where it is,
unless the task is cut off, or the lifecycle takes its turn, or it goes on with the end of its call. -/
inductive Regards (surroundings : Surroundings) (executor : Executor) (unit : WorkUnit) (move : Move)
    (scene next : Scene) : Phase → Prop
  | aside {phase : Phase} (gone : Multiset (Appointment Job))
      (cut : gone ≠ 0 → ∃ scheduler, move = .shutDown scheduler)
      (signs : scene.signsOf surroundings.mine =
        gone.map .task + next.signsOf surroundings.mine)
      (story : ∀ phase, Story surroundings executor unit (phase, scene.run.state)
        (phase, next.run.state)) :
    Regards surroundings executor unit move scene next phase
  | turned {owner : Option Nat} {body : Job} {status : Option Status} {later : Phase}
      (about : executor = body.lifecycle.executor ∧ unit = body.lifecycle.unit)
      (acts : Acts executor unit (body.phase scene.run.loop.now) later
        ({.task ⟨scene.run.loop.now, owner, body⟩} + {.handle body.lifecycle status}) scene next)
      (goes : later.Shows executor unit (next.signsOf surroundings.mine))
      (turn : move = .loop .turn) (performs : scene.Performs owner body next.run) :
    Regards surroundings executor unit move scene next (body.phase scene.run.loop.now)
  | called {visit : Visit} {later : Phase}
      (acts : Acts executor unit (.calling visit.outcome) later {.call visit} scene next)
      (goes : later.Shows executor unit (next.signsOf surroundings.mine)) :
    Regards surroundings executor unit move scene next (.calling visit.outcome)

theorem Passage.regards {surroundings : Surroundings} {next : Scene} {move : Move}
    {executor : Executor} {unit : WorkUnit} {phase : Phase} (passage : Passage scene next move)
    (allowed : move.Allowed surroundings) (peopled : scene.Peopled surroundings)
    (started : ∀ player other, move.start? = some (player, other) →
      surroundings.mine other = false)
    (shows : phase.Shows executor unit (scene.signsOf surroundings.mine)) :
    Regards surroundings executor unit move scene next phase := by
  -- the lifecycles of other units leave this one where it is
  have apart {player : Executor} {other : WorkUnit} {before after : Phase} {own : Multiset Sign}
      (acts : Acts player other before after own scene next)
      (about : ∀ sign ∈ own, sign.unit = other) (others : surroundings.mine other = false)
      (plays : surroundings.plays player other) :
      Regards surroundings executor unit move scene next phase := by
    obtain ⟨_, _, _, _, _, _, story⟩ := id acts
    refine .aside 0 (absurd rfl) ?_ ((story .nobody).aside others plays)
    rw [Multiset.map_zero, Multiset.zero_add, acts.signsOf_of_other about others]
  cases passage with
  | quiet gone cut signs deeds asides state =>
    refine .aside (gone.filter (surroundings.mine ·.body.lifecycle.unit))
      (fun some_gone => cut fun none => some_gone (by rw [none, Multiset.filter_zero])) ?_
      fun phase => state ▸ Story.of_deeds (asides surroundings allowed) phase scene.run.state
    rw [signsOf, signs, Multiset.filter_add, Multiset.filter_map, signsOf]
    rfl
  | started start acts =>
    have others := started _ _ start
    exact apart acts (fun _ member => absurd member (Multiset.notMem_zero _)) others
      (allowed.plays start others)
  | turned acts turn performs =>
    rename_i owner body status later
    have about := @Sign.unit_of_turn scene.run.loop.now owner body status
    cases same : surroundings.mine body.lifecycle.unit with
    | false =>
      have plays :=
        peopled.plays acts (Multiset.mem_add.2 (.inl (Multiset.mem_singleton_self _))) rfl same
      exact apart acts about same plays
    | true =>
      obtain ⟨rest, filtered, goes⟩ := acts.signsOf_of_mine about same
      rw [filtered] at shows
      obtain ⟨rfl, nothing, rfl, rfl⟩ := shows.phase_of_task
      exact .turned ⟨rfl, rfl⟩ acts (goes nothing) turn performs
  | called acts =>
    rename_i visit later
    have about : ∀ sign ∈ ({.call visit} : Multiset Sign), sign.unit = visit.unit :=
      fun _ member => congrArg Sign.unit (Multiset.mem_singleton.1 member)
    cases same : surroundings.mine visit.unit with
    | false =>
      have plays := peopled.plays acts (Multiset.mem_singleton_self _) rfl same
      exact apart acts about same plays
    | true =>
      obtain ⟨rest, filtered, goes⟩ := acts.signsOf_of_mine about same
      rw [filtered] at shows
      obtain ⟨rfl, nothing, rfl, rfl⟩ := shows.phase_of_call
      exact .called acts (goes nothing)

/-- A lifecycle goes on with a move: its story goes from the phase that is shown before to one that
is shown afterwards, it is not started, and only a shutdown cuts it off. -/
def Continues (surroundings : Surroundings) (executor : Executor) (unit : WorkUnit) (move : Move)
    (phase : Phase) (scene next : Scene) : Prop :=
  ∃ later, later.Shows executor unit (next.signsOf surroundings.mine) ∧
    Story surroundings executor unit (phase, scene.run.state) (later, next.run.state) ∧
    (later = .absent ↔ phase = .absent) ∧
    (later.isCutOff = true → phase.isCutOff = true ∨ ∃ scheduler, move = .shutDown scheduler)

section Continues

variable {surroundings : Surroundings} {next : Scene} {move : Move} {executor : Executor}
  {unit : WorkUnit} {phase after : Phase} {own : Multiset Sign}

/-- The lifecycle itself goes on. -/
theorem Acts.continues_of_mine (acts : Acts executor unit phase after own scene next)
    (present : phase ≠ .absent)
    (goes : after.Shows executor unit (next.signsOf surroundings.mine)) :
    Continues surroundings executor unit move phase scene next := by
  obtain ⟨_, _, _, _, _, regular, story⟩ := acts
  exact ⟨after, goes, story surroundings, iff_of_false (Phase.ne_of_isRegular regular).1 present,
    fun last => absurd last (ne_true_of_eq_false (Phase.ne_of_isRegular regular).2)⟩

/-- A lifecycle that the move does not start goes on. -/
theorem Regards.continues (regards : Regards surroundings executor unit move scene next phase)
    (shows : phase.Shows executor unit (scene.signsOf surroundings.mine)) :
    Continues surroundings executor unit move phase scene next := by
  cases regards with
  | aside gone cut signs story =>
    rw [signs] at shows
    -- a shutdown may take the lifecycle's own task away
    rcases shows.of_cut with still | ⟨some_gone, regular, invoked, cutOff, step⟩
    · exact ⟨phase, still, story phase, .rfl, .inl⟩
    · exact ⟨.cutOff invoked, cutOff, (story phase).tail (step surroundings _),
        iff_of_false nofun (Phase.ne_of_isRegular regular).1, fun _ => .inr (cut some_gone)⟩
  | @turned _ body _ _ about acts goes =>
    have present : body.phase scene.run.loop.now ≠ .absent := by cases body <;> nofun
    exact acts.continues_of_mine present goes
  | called acts goes => exact acts.continues_of_mine nofun goes

end Continues

/-- The story of a lifecycle while no lifecycle of its units is started. -/
theorem Tidy.story {surroundings : Surroundings} {executor : Executor} {unit : WorkUnit}
    {phase : Phase} (tidy : scene.Tidy) (peopled : scene.Peopled surroundings)
    (moves : List Move) (allowed : ∀ move ∈ moves, move.Allowed surroundings)
    (started : ∀ move ∈ moves, ∀ player other, move.start? = some (player, other) →
      surroundings.mine other = false)
    (shows : phase.Shows executor unit (scene.signsOf surroundings.mine)) :
    ∃ later, later.Shows executor unit ((scene.play moves).signsOf surroundings.mine) ∧
      Story surroundings executor unit (phase, scene.run.state)
        (later, (scene.play moves).run.state) ∧
      (scene.play moves).Peopled surroundings ∧
      (later = .absent ↔ phase = .absent) ∧
      (later.isCutOff = true →
        phase.isCutOff = true ∨ ∃ scheduler, .shutDown scheduler ∈ moves) := by
  induction moves generalizing scene phase with
  | nil => exact ⟨phase, shows, .refl, peopled, .rfl, .inl⟩
  | cons move moves ih =>
    obtain ⟨tidier, passage⟩ := tidy.after move
    have here := allowed move List.mem_cons_self
    obtain ⟨middle, shown, first, absent, cut⟩ :=
      (passage.regards here peopled (started move List.mem_cons_self) shows).continues shows
    obtain ⟨later, seen, story, still, stays, cutOff⟩ := ih tidier (passage.peopled here peopled)
      (fun other member => allowed other (List.mem_cons_of_mem _ member))
      (fun other member => started other (List.mem_cons_of_mem _ member)) shown
    refine ⟨later, seen, first.trans story, still, stays.trans absent, fun last => ?_⟩
    rcases cutOff last with middle | ⟨scheduler, member⟩
    · rcases cut middle with before | ⟨scheduler, rfl⟩
      · exact .inl before
      · exact .inr ⟨scheduler, List.mem_cons_self⟩
    · exact .inr ⟨scheduler, List.mem_cons_of_mem _ member⟩

/-- The story of a lifecycle begins with its start. -/
theorem Tidy.story_start {surroundings : Surroundings} {executor : Executor} {unit : WorkUnit}
    (tidy : scene.Tidy) (peopled : scene.Peopled surroundings)
    (mine : surroundings.mine unit = true) {move : Move}
    (start : move.start? = some (executor, unit))
    (shows : Phase.absent.Shows executor unit (scene.signsOf surroundings.mine)) :
    ∃ later, later.Shows executor unit ((scene.after move).signsOf surroundings.mine) ∧
      Story surroundings executor unit (.absent, scene.run.state)
        (later, (scene.after move).run.state) ∧
      (scene.after move).Peopled surroundings ∧ later.isRegular = true := by
  have allowed : move.Allowed surroundings := by
    cases move with
    | submit | enter =>
      cases start
      exact fun other => absurd (mine.symm.trans other) nofun
    | loop | leave | shutDown | intervene => cases start
  obtain ⟨phase, acts⟩ : ∃ phase, Acts executor unit .absent phase 0 scene (scene.after move) := by
    cases move with
    | submit =>
      cases start
      exact (tidy.submit executor unit).2
    | enter =>
      cases start
      exact (tidy.enter executor unit).2
    | loop | leave | shutDown | intervene => cases start
  obtain ⟨_, _, _, _, _, regular, story⟩ := id acts
  obtain ⟨rest, filtered, goes⟩ :=
    acts.signsOf_of_mine (fun _ member => absurd member (Multiset.notMem_zero _)) mine
  -- before its start nothing is seen of the lifecycle
  have nothing : rest = 0 := by
    generalize scene.signsOf surroundings.mine = signs at filtered shows
    cases shows with
    | absent => rw [filtered, Multiset.zero_add]
    | onHandle handle stands => exact stands.elim
  exact ⟨phase, goes nothing, story surroundings,
    (tidy.after move).2.peopled allowed peopled, regular⟩

/-- The lifecycle of some units that a move starts. -/
def startOf? (mine : WorkUnit → Bool) (move : Move) : Option (Executor × WorkUnit) :=
  move.start?.filter (mine ·.2)

/-- The lifecycles of some units that moves start. -/
def starts (mine : WorkUnit → Bool) (moves : List Move) : List (Executor × WorkUnit) :=
  moves.filterMap (startOf? mine)

/-- The loop starts no lifecycle. -/
theorem starts_loops (mine : WorkUnit → Bool) (moves : List LoopMove) :
    starts mine (moves.map .loop) = [] := by
  refine List.filterMap_eq_nil_iff.2 fun move member => ?_
  obtain ⟨loop, -, rfl⟩ := List.mem_map.1 member
  rfl

theorem allowed_loops (surroundings : Surroundings) (moves : List LoopMove) :
    ∀ move ∈ moves.map Move.loop, move.Allowed surroundings := by
  intro move member
  obtain ⟨loop, -, rfl⟩ := List.mem_map.1 member
  trivial

/-- A unit is submitted, and then the loop runs. -/
theorem starts_submit_loops {mine : WorkUnit → Bool} {unit : WorkUnit} (own : mine unit = true)
    (executor : Executor) (moves : List LoopMove) :
    starts mine (.submit executor unit :: moves.map .loop) = [(executor, unit)] := by
  have submitted : startOf? mine (.submit executor unit) = some (executor, unit) := by
    rw [startOf?, Move.start?, Option.filter_some, if_pos own]
  rw [starts, List.filterMap_cons_some submitted, ← starts, starts_loops]

theorem allowed_submit_loops {surroundings : Surroundings} {unit : WorkUnit}
    (own : surroundings.mine unit = true) (executor : Executor) (moves : List LoopMove) :
    ∀ move ∈ Move.submit executor unit :: moves.map .loop, move.Allowed surroundings := by
  intro move member
  rcases List.mem_cons.1 member with rfl | member
  · exact fun other => absurd (own.symm.trans other) Bool.noConfusion
  · exact allowed_loops surroundings moves move member

theorem apart_of_startOf? {mine : WorkUnit → Bool} {move : Move} (none : startOf? mine move = none)
    (player : Executor) (other : WorkUnit) (start : move.start? = some (player, other)) :
    mine other = false := by
  rw [startOf?, start, Option.filter_eq_none_iff] at none
  exact Bool.eq_false_iff.2 (none _ rfl)

/-- The story of a lifecycle that is the only one of its units: whatever else happens in the scene,
its phase is what the scene shows of it. -/
theorem story_of_play {surroundings : Surroundings} {executor : Executor} {unit : WorkUnit}
    (world : World) (now : Nat) (moves : List Move)
    (allowed : ∀ move ∈ moves, move.Allowed surroundings)
    (once : starts surroundings.mine moves = [(executor, unit)]) :
    ∃ phase, phase.Shows executor unit
        (((opening world now).play moves).signsOf surroundings.mine) ∧
      Story surroundings executor unit (.absent, (opening world now).run.state)
        (phase, ((opening world now).play moves).run.state) ∧
      phase ≠ .absent ∧ (phase.isCutOff = true → ∃ scheduler, .shutDown scheduler ∈ moves) := by
  obtain ⟨early, move, late, rfl, before, start, afterwards⟩ := List.filterMap_eq_cons_iff.1 once
  obtain ⟨start, mine⟩ := Option.filter_eq_some_iff.1 start
  have nobody : (opening world now).Peopled surroundings :=
    fun sign member => absurd member (Multiset.notMem_zero sign)
  have tidy := tidy_opening world now
  -- until the start nothing is seen of the lifecycle, and afterwards it is not started again
  obtain ⟨none, unseen, first, known, absent, -⟩ := tidy.story nobody early
    (fun other member => allowed other (List.mem_append_left _ member))
    (fun other member => apart_of_startOf? (before other member))
    (Phase.Shows.absent : Phase.absent.Shows executor unit 0)
  rw [absent.2 rfl] at unseen first
  obtain ⟨middle, seen, begins, peopled, regular⟩ :=
    (tidy.play early).story_start known mine start unseen
  obtain ⟨phase, shows, rest, -, stays, cut⟩ := ((tidy.play early).after move).1.story peopled late
    (fun other member => allowed other (List.mem_append_right _ (List.mem_cons_of_mem _ member)))
    (fun other member => apart_of_startOf? (List.filterMap_eq_nil_iff.1 afterwards other member))
    seen
  rw [play_append]
  refine ⟨phase, shows, (first.trans begins).trans rest, ?_, fun last => ?_⟩
  · intro none
    exact (Phase.ne_of_isRegular regular).1 (stays.1 none)
  · rcases cut last with middle | ⟨scheduler, member⟩
    · exact absurd middle (ne_true_of_eq_false (Phase.ne_of_isRegular regular).2)
    · exact ⟨scheduler, List.mem_append_right _ (List.mem_cons_of_mem _ member)⟩

/-- A lifecycle with a job on the agenda is in the phase of the job. -/
theorem phase_of_appointed {mine : WorkUnit → Bool} {executor : Executor} {unit : WorkUnit}
    {phase : Phase} {item : Appointment Job}
    (shows : phase.Shows executor unit (scene.signsOf mine))
    (member : item ∈ scene.run.loop.agenda) (own : mine item.body.lifecycle.unit = true) :
    phase = item.body.phase item.due ∧ item.body.lifecycle.executor = executor ∧
      item.body.lifecycle.unit = unit := by
  have seen : Sign.task item ∈ scene.signsOf mine := by
    refine Multiset.mem_filter.2 ⟨?_, own⟩
    simp only [signs, Multiset.mem_add]
    exact .inl (.inl (.inl (Multiset.mem_map_of_mem _ member)))
  obtain ⟨same, only⟩ := shows.about _ seen
  refine ⟨?_, only _ rfl, same⟩
  generalize scene.signsOf mine = signs at shows seen
  cases shows with
  | absent => exact absurd seen (Multiset.notMem_zero _)
  | calling | returned | cutOff => cases Multiset.mem_singleton.1 seen
  | onHandle handle stands => exact (stands.phase_of_mem (by simpa using seen)).2

/-- A lifecycle that goes on at some time has a job on the agenda for that time. -/
theorem appointed_of_due? {mine : WorkUnit → Bool} {executor : Executor} {unit : WorkUnit}
    {phase : Phase} {due : Nat} (shows : phase.Shows executor unit (scene.signsOf mine))
    (goesOn : phase.due? = some due) : ∃ item ∈ scene.run.loop.agenda, item.due = due := by
  have seen (item : Appointment Job) (sign : .task item ∈ scene.signsOf mine) :
      item ∈ scene.run.loop.agenda := by
    have all := Multiset.mem_of_le (Multiset.filter_le _ _) sign
    simpa [signs, Register.signs] using all
  generalize scene.signsOf mine = signs at shows seen
  cases shows with
  | absent | calling | returned | cutOff => cases goesOn
  | onHandle handle stands =>
    cases phase with
    | absent | calling | ended | cutOff => cases goesOn
    | waiting | running =>
      obtain ⟨⟨owner, rfl⟩, -⟩ := stands
      cases goesOn
      have own (item : Appointment Job) : Sign.task item ∈ ({item} : Multiset _).map Sign.task :=
        Multiset.mem_map_of_mem _ (Multiset.mem_singleton_self item)
      exact ⟨_, seen _ (Multiset.mem_add.2 (.inl (own _))), rfl⟩

/-- When a unit has been submitted to a scheduler that accepts tasks, its lifecycle waits for the
first attempt. No lifecycle of its units has been started before. -/
theorem waits_after_submit {surroundings : Surroundings} {executor : Executor} {unit : WorkUnit}
    (world : World) (now : Nat) (early : List Move)
    (allowed : ∀ move ∈ early, move.Allowed surroundings)
    (unstarted : starts surroundings.mine early = []) (own : surroundings.mine unit = true) :
    let before := (opening world now).play early
    let after := before.after (.submit executor unit)
    (before.run.state.scheduler executor.scheduler).isShutDown = false →
    (Phase.waiting 0 before.run.loop.now).Shows executor unit (after.signsOf surroundings.mine) ∧
      Story surroundings executor unit (.absent, (opening world now).run.state)
        (.waiting 0 before.run.loop.now, after.run.state) ∧
      after.Peopled surroundings := by
  intro before after accepts
  have nobody : (opening world now).Peopled surroundings :=
    fun sign member => absurd member (Multiset.notMem_zero sign)
  have tidy := tidy_opening world now
  obtain ⟨none, unseen, first, known, absent, -⟩ := tidy.story nobody early allowed
    (fun move member => apart_of_startOf? (List.filterMap_eq_nil_iff.1 unstarted move member))
    (Phase.Shows.absent : Phase.absent.Shows executor unit 0)
  rw [absent.2 rfl] at unseen first
  obtain ⟨middle, seen, begins, peopled, -⟩ :=
    (tidy.play early).story_start known own (rfl : (Move.submit executor unit).start? = _) unseen
  -- its first attempt is on the agenda, so the lifecycle waits for that
  have appointed : (⟨before.run.loop.now, some (before.run.state.scheduler executor.scheduler).id,
      .attempt ⟨executor, unit, before.run.state.freshHandle⟩ 0⟩ : Appointment Job) ∈
        after.run.loop.agenda := by
    rw [show after = _ from after_submit_of_open accepts unit]
    refine (EventLoop.agenda_spawn _ _).symm ▸ Multiset.mem_cons.2 (.inl ?_)
    rw [Task.appointment, Duration.waitMillis_zero, Nat.add_zero]
  obtain ⟨rfl, -⟩ := phase_of_appointed seen appointed own
  exact ⟨seen, first.trans begins, peopled⟩

end Scene

end Resilience
