import Resilience.Proofs.Executor.Handles

/-!
# What is told of lifecycles

The dealings of a lifecycle with its operation can be followed through a scene, whatever else goes
on there: every invocation returns before the next one begins, and what the lifecycle ends with can
be told after all of them. Whoever learns how it has ended, from its handle or as the caller in the
foreground, is told nothing else.

## Main definitions

* `Scene.dealings` — the dealings of the lifecycle of a handle in the course of several moves
* `Scene.dealingsHere`, `Executor.dealingsHere` — those of a lifecycle that has no handle
* `Scene.Dealt` — what is known of the dealings of a lifecycle and its results

## Main statements

* `Scene.Dealt.play` — what is known after several moves
* `Scene.told_of_returned`, `Executor.told_of_finished` — what callers in the foreground are told
-/

namespace Resilience

/-! ## Dealings of a turn -/

theorem Lifecycle.Follows.idle {lifecycle : Lifecycle} {answer : Except Fault Unit}
    {result : Option (Except Failure Completion)} {statuses : List Status} {next : Option Job}
    (follows : lifecycle.Follows answer result statuses next) :
    ∀ job ∈ next, job.underWay? = none := by
  intro job member
  cases follows with
  | ended | refused => cases member
  | retried =>
    cases member
    rfl

theorem Lifecycle.Follows.told {lifecycle : Lifecycle} {answer : Except Fault Unit}
    {result : Option (Except Failure Completion)} {statuses : List Status} {next : Option Job}
    (follows : lifecycle.Follows answer result statuses next) :
    ∀ ending ∈ result, Told lifecycle.unit [.returned answer] ending := by
  intro ending member
  cases follows with
  | ended told =>
    cases member
    exact told
  | refused =>
    cases member
    exact .shutDown
  | retried => cases member

namespace Job.Goes

variable {job : Job} {early dealings : List Dealing} {result : Option (Except Failure Completion)}
  {statuses : List Status} {next : Option Job}

/-- A turn goes on with the invocation that is under way, or makes a new one if there is none. -/
theorem oneByOne (goes : job.Goes dealings result statuses next)
    (before : Dealing.OneByOne job.lifecycle.unit early job.underWay?) :
    ∃ underWay, Dealing.OneByOne job.lifecycle.unit (early ++ dealings) underWay ∧
      ∀ other ∈ next, other.underWay? = underWay := by
  cases goes with
  | begun lifecycle prior outcome =>
    refine ⟨some outcome, before.invoked outcome, fun other member => ?_⟩
    cases member
    rfl
  | refrained =>
    rw [List.append_nil]
    exact ⟨none, before, fun other member => absurd member (Option.not_mem_none _)⟩
  | atOnce prior outcome operation follows =>
    have both := (before.invoked outcome).returned operation
    rw [List.append_assoc] at both
    exact ⟨none, both, follows.idle⟩
  | concluded prior outcome operation follows =>
    exact ⟨none, before.returned operation, follows.idle⟩

/-- The result with which a turn ends a lifecycle can be told after the dealings in it. -/
theorem told (goes : job.Goes dealings result statuses next) :
    ∀ ending ∈ result, Told job.lifecycle.unit dealings ending := by
  intro ending member
  cases goes with
  | begun => cases member
  | refrained prior told =>
    cases member
    exact told
  | atOnce prior outcome operation follows =>
    exact @Told.of_last _ [.invoked outcome] _ _ (follows.told ending member)
  | concluded prior outcome operation follows => exact follows.told ending member

end Job.Goes

namespace Scene

/-- The dealings of the lifecycle of a handle with its operation in the course of several moves. -/
def dealings (handle : Nat) : Scene → List Move → List Dealing
  | _, [] => []
  | scene, move :: moves => scene.deals handle move ++ dealings handle (scene.after move) moves

/-- The dealings of a lifecycle in the foreground whose result a move returns. -/
def dealingsHere (scene : Scene) : Move → List Dealing
  | .leave index => (scene.visits[index]?).elim [] (·.dealings scene.run.state)
  | .loop _ | .submit .. | .enter .. | .shutDown _ | .intervene _ => []

/-- What is known of the lifecycle of a handle after some dealings: whether an invocation is under
way, and what can be told of the results with which it has ended. -/
structure Dealt (scene : Scene) (handle : Nat) (unit : WorkUnit) (dealings : List Dealing)
    (results : List (Except Failure Completion)) : Prop where
  about : ∀ item ∈ World.planned scene.run handle, item.body.lifecycle.unit = unit
  oneByOne : ∃ underWay, Dealing.OneByOne unit dealings underWay ∧
    ∀ item ∈ World.planned scene.run handle, item.body.underWay? = underWay
  told : ∀ result ∈ results, Told unit dealings result

variable {scene : Scene} {handle : Nat} {unit : WorkUnit} {early : List Dealing}
  {results : List (Except Failure Completion)} {cut : Prop} {before : List Status}
  {first : Status}

/-- What is known after a turn of the job on the agenda. -/
theorem Dealt.turned {next : Scene} {item : Appointment Job} {task : Option (Appointment Job)}
    {dealings : List Dealing} {result : Option (Except Failure Completion)}
    {statuses : List Status} (dealt : scene.Dealt handle unit early [])
    (planned : World.planned scene.run handle = {item})
    (goes : item.body.Goes dealings result statuses (task.map (·.body)))
    (after : World.planned next.run handle = ↑task.toList) :
    next.Dealt handle unit (early ++ dealings) result.toList := by
  have here : item ∈ World.planned scene.run handle := by
    rw [planned]
    exact Multiset.mem_singleton_self item
  obtain ⟨underWay, oneByOne, same⟩ := dealt.oneByOne
  obtain rfl := dealt.about item here
  obtain rfl := same item here
  obtain ⟨underWay, later, next⟩ := goes.oneByOne oneByOne
  obtain ⟨_, _, tells⟩ := goes.last
  have among {other : Appointment Job} (member : other ∈ (↑task.toList : Multiset _)) :
      other.body ∈ task.map (·.body) :=
    Option.mem_map_of_mem _ (Option.mem_toList.1 (Multiset.mem_coe.1 member))
  refine ⟨fun other member => ?_, ⟨underWay, later, fun other member => ?_⟩,
    fun ending member => (goes.told ending (Option.mem_toList.1 member)).of_last⟩
  · rw [tells.about other.body (among (after ▸ member))]
  · exact next other.body (among (after ▸ member))

/-- What is known after a move. -/
theorem Dealt.after (dealt : scene.Dealt handle unit early results)
    (recorded : scene.Recorded handle before first results cut) (tidy : scene.Tidy)
    (move : Move) :
    (scene.after move).Dealt handle unit (early ++ scene.deals handle move)
      (results ++ (scene.ending? handle move).toList) := by
  cases tidy.affects recorded.given move with
  | nothing published planned goesOn silent =>
    rw [goesOn, silent, Option.toList_none, List.append_nil, List.append_nil]
    exact ⟨planned ▸ dealt.about, planned ▸ dealt.oneByOne, dealt.told⟩
  | turned planned goes published next =>
    obtain ⟨rfl, rfl, -⟩ := recorded.standing.of_planned planned
    exact dealt.turned planned goes (next.trans (Multiset.add_zero _))
  | cut member published planned goesOn silent =>
    rw [goesOn, silent, Option.toList_none, List.append_nil, List.append_nil]
    have fewer : World.planned (scene.after move).run handle ≤ World.planned scene.run handle := by
      rw [planned]
      exact Multiset.filter_le _ _
    obtain ⟨underWay, oneByOne, same⟩ := dealt.oneByOne
    exact ⟨fun item member => dealt.about item (Multiset.mem_of_le fewer member),
      ⟨underWay, oneByOne, fun item member => same item (Multiset.mem_of_le fewer member)⟩,
      dealt.told⟩

/-- What is known after several moves. -/
theorem Dealt.play (dealt : scene.Dealt handle unit early results)
    (recorded : scene.Recorded handle before first results cut) (tidy : scene.Tidy)
    (moves : List Move) :
    (scene.play moves).Dealt handle unit (early ++ scene.dealings handle moves)
      (results ++ scene.endings handle moves) := by
  induction moves generalizing scene early results cut with
  | nil =>
    rw [dealings, endings, List.append_nil, List.append_nil]
    exact dealt
  | cons move moves ih =>
    rw [dealings, endings, ← List.append_assoc, ← List.append_assoc]
    exact ih (dealt.after recorded tidy move) (recorded.after tidy move) (tidy.after move).1

/-- What is known of a lifecycle whose handle is new. -/
theorem Tidy.dealt_new (tidy : scene.Tidy) {lifecycle : Lifecycle}
    (fresh : lifecycle.handle = scene.run.state.freshHandle) {next : Scene}
    {statuses : List Status} {job : Option Job}
    (publishes : lifecycle.Publishes scene.run next.run statuses job)
    (about : ∀ body ∈ job, body.lifecycle = lifecycle)
    (idle : ∀ body ∈ job, body.underWay? = none) {dealings : List Dealing}
    (oneByOne : Dealing.OneByOne lifecycle.unit dealings none)
    (told : ∀ result ∈ results, Told lifecycle.unit dealings result) :
    next.Dealt lifecycle.handle lifecycle.unit dealings results := by
  obtain ⟨item, rfl, planned⟩ := tidy.planned_new fresh publishes about
  have among {other : Appointment Job}
      (member : other ∈ World.planned next.run lifecycle.handle) :
      other.body ∈ item.map (·.body) := by
    rw [planned] at member
    exact Option.mem_map_of_mem _ (Option.mem_toList.1 (Multiset.mem_coe.1 member))
  exact ⟨fun other member => congrArg (·.unit) (about other.body (among member)),
    ⟨none, oneByOne, fun other member => idle other.body (among member)⟩, told⟩

/-- What is known of a lifecycle since a move gave out its handle. -/
theorem Tidy.dealt (tidy : scene.Tidy) {start : Move} {lifecycle : Lifecycle}
    (given : (scene.after start).handles = scene.handles ++ [lifecycle]) :
    (scene.after start).Dealt lifecycle.handle lifecycle.unit
      (scene.deals lifecycle.handle start) (scene.ending? lifecycle.handle start).toList := by
  obtain ⟨fresh, hands⟩ := hands_of_given given
  cases hands with
  | submitted executor unit publishes =>
    refine tidy.dealt_new fresh publishes (fun body member => ?_) (fun body member => ?_) .nil nofun
    all_goals
      cases member
      rfl
  | failed outcome operation deals follows publishes =>
    obtain ⟨_, _, tells⟩ := follows.last
    have both := (@Dealing.OneByOne.nil lifecycle.unit).invoked outcome |>.returned operation
    rw [deals]
    exact tidy.dealt_new fresh publishes tells.about follows.idle both fun result member =>
      @Told.of_last _ [.invoked outcome] _ _ (follows.told result (Option.mem_toList.1 member))

/-- What is known after several moves from the one on that gave out the handle. -/
theorem Tidy.dealt_play (tidy : scene.Tidy) (showsLast : scene.run.state.ShowsLast) {start : Move}
    {lifecycle : Lifecycle}
    (given : (scene.after start).handles = scene.handles ++ [lifecycle]) (late : List Move) :
    (scene.play (start :: late)).Dealt lifecycle.handle lifecycle.unit
      (scene.dealings lifecycle.handle (start :: late))
      (scene.endings lifecycle.handle (start :: late)) := by
  have dealt := tidy.dealt given
  have tidier := (tidy.after start).1
  rcases tidy.recorded showsLast given with ⟨_, _, rfl, recorded⟩ | ⟨_, _, _, rfl, recorded⟩ <;>
    exact dealt.play recorded tidier late

/-! ## What is told of a handle -/

/-- What a wait gives is what the lifecycle has ended with, or the shutdown. -/
theorem Standing.resultOf_mem (standing : scene.Standing handle results cut)
    (showsLast : scene.run.state.ShowsLast) :
    World.resultOf scene.run handle ∈ results ∨
      World.resultOf scene.run handle = .error .schedulerShutDown := by
  have shown := showsLast handle
  cases standing with
  | underWay planned last announces =>
    refine .inr ?_
    rw [World.resultOf, shown, Option.mem_def.1 last, Option.bind_some,
      Status.result?_eq_none announces.unfinished]
    rfl
  | ended idle last ended =>
    refine .inl ?_
    rw [ended, (World.isSettled_of_ofResult (shown.trans last)).2]
    exact List.mem_singleton_self _
  | cutOff idle last unfinished =>
    refine .inr ?_
    rw [World.resultOf, shown, Option.mem_def.1 last, Option.bind_some,
      Status.result?_eq_none unfinished]
    rfl

theorem Dealt.told_of_mem {dealings : List Dealing} {result : Except Failure Completion}
    (dealt : scene.Dealt handle unit dealings results)
    (known : result ∈ results ∨ result = .error .schedulerShutDown) :
    Told unit dealings result := by
  rcases known with member | rfl
  · exact dealt.told result member
  · exact .shutDown

/-- Whoever waits for a handle is told what can be told after all dealings of its lifecycle. -/
theorem Tidy.told_resultOf (tidy : scene.Tidy) (showsLast : scene.run.state.ShowsLast)
    {start : Move} {lifecycle : Lifecycle}
    (given : (scene.after start).handles = scene.handles ++ [lifecycle]) (late : List Move)
    (later : (scene.play (start :: late)).run.state.ShowsLast) :
    Told lifecycle.unit (scene.dealings lifecycle.handle (start :: late))
      (World.resultOf (scene.play (start :: late)).run lifecycle.handle) := by
  obtain ⟨_, _, recorded⟩ := tidy.exists_recorded showsLast given late
  exact (tidy.dealt_play showsLast given late).told_of_mem (recorded.standing.resultOf_mem later)

/-- Somebody who looks at a handle until it gives something gets it from one of the looks. -/
theorem exists_poll {looks : List (List Move)} {result : Except Failure Completion}
    (gives : scene.awaited handle looks = some result) :
    ∃ moves others, moves ++ others = looks.flatten ∧
      (scene.play moves).poll handle = some result := by
  induction looks generalizing scene with
  | nil => exact ⟨[], [], rfl, gives⟩
  | cons moves looks ih =>
    rw [awaited] at gives
    rcases Option.or_eq_some_iff.1 gives with now | ⟨-, later⟩
    · exact ⟨[], moves ++ looks.flatten, rfl, now⟩
    · obtain ⟨early, others, same, given⟩ := ih later
      refine ⟨moves ++ early, others, ?_, ?_⟩
      · rw [List.append_assoc, same, List.flatten_cons]
      · rw [play_append]
        exact given

/-! ## Callers in the foreground -/

/-- A move returns a result to one caller at most, and he is told what can be told. -/
theorem told_of_returned (scene : Scene) (move : Move) :
    ∃ entry : Option (WorkUnit × Except Failure Completion),
      (scene.after move).returned = scene.returned ++ entry.toList ∧
        ∀ given ∈ entry, Told given.1 (scene.dealingsHere move) given.2 := by
  have nobody (next : Scene) (same : next.returned = scene.returned) :
      ∃ entry : Option (WorkUnit × Except Failure Completion),
        next.returned = scene.returned ++ entry.toList ∧
          ∀ given ∈ entry, Told given.1 (scene.dealingsHere move) given.2 :=
    ⟨none, same.trans (List.append_nil _).symm, fun _ none => absurd none (Option.not_mem_none _)⟩
  have one (next : Scene) {unit : WorkUnit} {result : Except Failure Completion}
      (returned : next.returned = scene.returned ++ [(unit, result)])
      (told : Told unit (scene.dealingsHere move) result) :
      ∃ entry : Option (WorkUnit × Except Failure Completion),
        next.returned = scene.returned ++ entry.toList ∧
          ∀ given ∈ entry, Told given.1 (scene.dealingsHere move) given.2 := by
    refine ⟨some (unit, result), returned, fun given member => ?_⟩
    cases member
    exact told
  -- only refused submissions and calls that end return anything
  have comes := scene.comes move
  generalize scene.after move = next at comes ⊢
  cases comes with
  | looped | accepted | entered | missing | shut | intervened => exact nobody _ rfl
  | refused => exact one _ rfl .shutDown
  | answered begun => exact one _ rfl (Executor.told_of_begun (congrArg Prod.fst begun))
  | @left _ visit _ found concludes =>
    cases concludes with
    | retry => exact nobody _ rfl
    | done ended =>
      have told := @Executor.told_of_done visit.executor visit.unit 0 scene.run.loop.now
        scene.run.state _ visit.outcome (congrArg Prod.fst ended)
      refine one _ rfl ?_
      rw [dealingsHere, found]
      exact @Told.of_last _ [.invoked visit.outcome] _ _ told

end Scene

namespace Executor

/-- The dealings of a first attempt in the foreground. -/
def dealingsHere (executor : Executor) (turns : Nat) (unit : WorkUnit) (run : Universe) :
    List Dealing :=
  let (begun, world) := executor.beginAttempt unit 0 run.loop.now run.state
  match begun with
  | .ended _ => []
  | .running response =>
    let run := World.reactor.pause response.latency turns { run with state := world }
    [.invoked response.outcome, .returned (executor.answer unit response.outcome run.state)]

/-- Whoever processes a unit in the foreground is told what can be told. -/
theorem told_of_finished {executor : Executor} {turns : Nat} {unit : WorkUnit} {run : Universe}
    {result : Except Failure Completion}
    (finished : (executor.process turns unit run).1 = .finished result) :
    Told unit (executor.dealingsHere turns unit run) result := by
  have refused := @told_of_begun executor unit 0 run.loop.now run.state [] result
  rw [process, attemptHere] at finished
  rw [dealingsHere]
  generalize executor.beginAttempt unit 0 run.loop.now run.state = half at refused finished ⊢
  obtain ⟨ended | response, world⟩ := half
  · cases finished
    exact refused rfl
  · dsimp only at finished ⊢
    generalize World.reactor.pause response.latency turns { run with state := world } = later
      at finished ⊢
    have told := @told_of_done executor unit 0 later.loop.now later.state result response.outcome
    generalize executor.endAttempt unit 0 response.outcome later.loop.now later.state = half
      at told finished
    obtain ⟨ended | ⟨attempt, delay⟩, world⟩ := half
    · cases finished
      exact @Told.of_last _ [.invoked response.outcome] _ _ (told rfl)
    · cases finished

end Executor

end Resilience
