import Resilience.Proofs.Executor.Deeds
import Resilience.Proofs.Executor.Handling

/-!
# Handles

The handle of a lifecycle is shown one status after the other until the lifecycle ends, or a
shutdown cuts it off. Several can look at a handle, now and then, whatever else goes on meanwhile:
they get nothing as long as the lifecycle goes on, and from its end on they all get its result. If
it was cut off they learn of the shutdown, as soon as the aborted task is gone.

## Main definitions

* `Scene.endings`, `Scene.CutOff` — the results with which the lifecycle of a handle ends in the
  course of several moves, and whether it is cut off
* `Scene.poll`, `Scene.awaited` — what somebody gets who looks at a handle once, or until it settles
* `Move.Shows` — what the handle shows that a move gives out
* `Scene.Protocol` — how a handle and those who look at it behave

## Main statements

* `Scene.Recorded.play` — what has become of a handle after several moves
* `Scene.handle_protocol` — all handles keep to the protocol
-/

namespace Resilience

namespace Scene

/-- The results with which the lifecycle of a handle ends in the course of several moves. -/
def endings (handle : Nat) : Scene → List Move → List (Except Failure Completion)
  | _, [] => []
  | scene, move :: moves =>
    (scene.ending? handle move).toList ++ endings handle (scene.after move) moves

/-- Whether a shutdown cuts the lifecycle of a handle off in the course of several moves. -/
def CutOff (handle : Nat) : Scene → List Move → Prop
  | _, [] => False
  | scene, move :: moves => scene.Cuts handle move ∨ CutOff handle (scene.after move) moves

/-- What somebody gets who looks at a handle once. -/
def poll (handle : Nat) (scene : Scene) : Option (Except Failure Completion) :=
  if World.isSettled handle scene.run then some (World.resultOf scene.run handle) else none

/-- What somebody gets who looks at a handle at once and then every now and then, with some moves in
between, until it gives something. -/
def awaited (handle : Nat) : Scene → List (List Move) → Option (Except Failure Completion)
  | scene, [] => scene.poll handle
  | scene, moves :: later => (scene.poll handle).or (awaited handle (scene.play moves) later)

/-- What a wait on a handle can give after several moves: the result with which its lifecycle has
ended, or the shutdown that has cut it off, once nothing is left of the aborted task. -/
inductive Resolves (scene : Scene) (handle : Nat) (moves : List Move) :
    Except Failure Completion → Prop
  | ended {result : Except Failure Completion} (ended : scene.endings handle moves = [result]) :
    Resolves scene handle moves result
  | dropped (cut : scene.CutOff handle moves)
      (gone : World.isTracked (scene.play moves).run handle = false) :
    Resolves scene handle moves (.error .schedulerShutDown)

end Scene

/-- What the handle shows that a move gives out: the beginning of a way to an end. After a first
attempt in the foreground, the handle is not given out before it shows the first retry. -/
inductive Move.Shows : Move → List Status → Prop
  | submitted {executor : Executor} {unit : WorkUnit} {statuses trail : List Status}
      (goesOn : Status.Trail trail) (begins : statuses <+: .inProgress 1 :: trail) :
    Shows (.submit executor unit) (.pending :: statuses)
  | handed {index attempt : Nat} {delay : Duration} {statuses trail : List Status}
      (goesOn : Status.Trail trail) (begins : .retryScheduled attempt delay :: statuses <+: trail) :
    Shows (.leave index) (.pending :: .retryScheduled attempt delay :: statuses)

/-- How a handle and those who look at it behave, from the move in a scene that gives it out on. -/
structure Scene.Protocol (scene : Scene) (start : Move) (handle : Nat) : Prop where
  /-- The statuses are the beginning of a way to an end. -/
  way : ∀ late, start.Shows ((scene.play (start :: late)).run.state.published handle)
  /-- The handle shows the last one. -/
  shows : ∀ late, (scene.play (start :: late)).run.state.statuses.find? handle =
    ((scene.play (start :: late)).run.state.published handle).getLast?
  /-- The terminal ones are those of the results with which the lifecycle has ended. -/
  terminals : ∀ late,
    ((scene.play (start :: late)).run.state.published handle).filter (·.isTerminal) =
      (scene.endings handle (start :: late)).map .ofResult
  /-- It ends once. -/
  once : ∀ late, (scene.endings handle (start :: late)).length ≤ 1
  /-- A lifecycle that was cut off does not end, and its status stays unfinished. -/
  unfinished : ∀ late, scene.CutOff handle (start :: late) →
    scene.endings handle (start :: late) = [] ∧
      ∀ status ∈ (scene.play (start :: late)).run.state.statuses.find? handle,
        status.isTerminal = false
  /-- After an end or a cut nothing more is shown. -/
  final : ∀ late,
    scene.endings handle (start :: late) ≠ [] ∨ scene.CutOff handle (start :: late) →
      ∀ more, (scene.play (start :: late ++ more)).run.state.published handle =
        (scene.play (start :: late)).run.state.published handle
  /-- Whoever looks at the handle gets what resolves it, and nothing before. -/
  gives : ∀ late result, (scene.play (start :: late)).poll handle = some result ↔
    scene.Resolves handle (start :: late) result
  /-- When a wait has begun and how often it looks makes no difference. -/
  awaits : ∀ late looks result, (scene.play (start :: late)).awaited handle looks = some result ↔
    scene.Resolves handle (start :: late ++ looks.flatten) result
  /-- A wait in the foreground gives what resolves the handle meanwhile. -/
  waits : ∀ late turns,
    let later := scene.play (start :: late)
    let waited := World.wait turns handle later.run
    World.isSettled handle waited.2 = true →
      ∃ moves : List LoopMove, later.play (moves.map .loop) = { later with run := waited.2 } ∧
        scene.Resolves handle (start :: late ++ moves.map .loop) waited.1
  /-- A wait on a handle that was resolved before takes no time. -/
  atOnce : ∀ late result, scene.Resolves handle (start :: late) result → ∀ turns,
    World.wait turns handle (scene.play (start :: late)).run =
      (result, (scene.play (start :: late)).run)

namespace Scene

variable {scene next : Scene} {move : Move} {handle : Nat}

/-! ## Where a lifecycle is -/

/-- Where the lifecycle of a handle is, with the results it has ended with and whether it was cut
off. -/
inductive Standing (scene : Scene) (handle : Nat) (results : List (Except Failure Completion))
    (cut : Prop) : Prop
  /-- The last status announces the job on the agenda. -/
  | underWay {item : Appointment Job} {status : Status}
      (planned : World.planned scene.run handle = {item})
      (last : status ∈ (scene.run.state.published handle).getLast?)
      (announces : status.Announces item.body) (unended : results = []) (uncut : ¬ cut)
  | ended {result : Except Failure Completion} (idle : World.planned scene.run handle = 0)
      (last : .ofResult result ∈ (scene.run.state.published handle).getLast?)
      (ended : results = [result]) (uncut : ¬ cut)
  | cutOff {status : Status} (idle : World.planned scene.run handle = 0)
      (last : status ∈ (scene.run.state.published handle).getLast?)
      (unfinished : status.isTerminal = false) (unended : results = []) (cut : cut)

/-- What has become of a handle since it was given out, from some status on. -/
structure Recorded (scene : Scene) (handle : Nat) (before : List Status) (first : Status)
    (results : List (Except Failure Completion)) (cut : Prop) : Prop where
  given : handle < scene.handles.length
  course : ∃ rest, scene.run.state.published handle = before ++ first :: rest ∧
    (first :: rest).IsChain Status.Precedes
  terminals : (scene.run.state.published handle).filter (·.isTerminal) = results.map .ofResult
  standing : scene.Standing handle results cut

variable {results : List (Except Failure Completion)} {cut : Prop} {before : List Status}
  {first : Status}

/-- A turn after which the last status tells what has come of it. -/
theorem Standing.of_tells {lifecycle : Lifecycle} {status : Status}
    {result : Option (Except Failure Completion)} {task : Option (Appointment Job)}
    (tells : status.Tells lifecycle result (task.map (·.body)))
    (last : status ∈ (scene.run.state.published handle).getLast?)
    (planned : World.planned scene.run handle = ↑task.toList) (uncut : ¬ cut) :
    scene.Standing handle result.toList cut := by
  generalize next : task.map (·.body) = job at tells
  cases tells with
  | next about announces =>
    obtain ⟨item, rfl, rfl⟩ := Option.map_eq_some_iff.1 next
    exact .underWay planned last announces rfl uncut
  | ended result =>
    obtain rfl := Option.map_eq_none_iff.1 next
    exact .ended planned last rfl uncut

/-- Only a job on the agenda can have its turn, and then it was announced. -/
theorem Standing.of_planned {item : Appointment Job} {rest : Multiset (Appointment Job)}
    (standing : scene.Standing handle results cut)
    (planned : World.planned scene.run handle = item ::ₘ rest) :
    rest = 0 ∧ results = [] ∧ ¬ cut ∧
      ∃ status ∈ (scene.run.state.published handle).getLast?, status.Announces item.body := by
  cases standing with
  | underWay single last announces unended uncut =>
    obtain ⟨rfl, rfl⟩ := (Multiset.singleton_eq_cons_iff _).1 (single.symm.trans planned)
    exact ⟨rfl, unended, uncut, _, last, announces⟩
  | ended idle | cutOff idle => exact absurd (planned.symm.trans idle) Multiset.cons_ne_zero

/-- A chain of statuses goes on from its last one. -/
theorem Recorded.extends (recorded : scene.Recorded handle before first results cut)
    {statuses : List Status} {status : Status}
    (last : status ∈ (scene.run.state.published handle).getLast?)
    (chain : (status :: statuses).IsChain Status.Precedes) :
    ∃ rest, scene.run.state.published handle ++ statuses = before ++ first :: rest ∧
      (first :: rest).IsChain Status.Precedes := by
  obtain ⟨rest, published, early⟩ := recorded.course
  refine ⟨rest ++ statuses, by rw [published, List.append_assoc, List.cons_append], ?_⟩
  rw [published, List.getLast?_append_of_ne_nil _ (List.cons_ne_nil first rest)] at last
  obtain ⟨follows, late⟩ := List.isChain_cons.1 chain
  refine List.isChain_append.2 ⟨early, late, fun other also next member => ?_⟩
  cases Option.mem_unique last also
  exact follows next member

/-- What has become of a handle after a move. -/
theorem Recorded.after (recorded : scene.Recorded handle before first results cut)
    (tidy : scene.Tidy) (move : Move) :
    (scene.after move).Recorded handle before first
      (results ++ (scene.ending? handle move).toList) (cut ∨ scene.Cuts handle move) := by
  have given := recorded.given.trans_le (scene.length_handles_le move)
  cases tidy.affects recorded.given move with
  | nothing published planned goesOn silent spared =>
    rw [goesOn, Option.toList_none, List.append_nil]
    refine ⟨given, published ▸ recorded.course, published ▸ recorded.terminals, ?_⟩
    -- the move itself cuts nothing off
    have uncut (before : ¬ cut) : ¬ (cut ∨ scene.Cuts handle move) :=
      fun either => either.elim before spared
    cases recorded.standing with
    | underWay single last announces unended here =>
      exact .underWay (planned.trans single) (published ▸ last) announces unended (uncut here)
    | ended idle last ended here =>
      exact .ended (planned.trans idle) (published ▸ last) ended (uncut here)
    | cutOff idle last unfinished unended here =>
      exact .cutOff (planned.trans idle) (published ▸ last) unfinished unended (.inl here)
  | turned planned goes published next spared =>
    -- only a lifecycle under way has a task, so nothing has been given yet
    obtain ⟨rfl, rfl, uncut, status, last, announces⟩ := recorded.standing.of_planned planned
    refine ⟨given, ?_, ?_, ?_⟩
    · rw [published]
      exact recorded.extends last (goes.chain announces)
    · rw [published, List.filter_append, recorded.terminals, goes.terminals]
      rfl
    · obtain ⟨newest, member, tells⟩ := goes.last
      refine .of_tells tells ?_ (next.trans (Multiset.add_zero _))
        fun either => either.elim uncut spared
      rw [published, List.getLast?_append, Option.mem_def.1 member]
      rfl
  | cut member published planned goesOn silent cuts =>
    rw [goesOn, Option.toList_none, List.append_nil]
    refine ⟨given, published ▸ recorded.course, published ▸ recorded.terminals, ?_⟩
    obtain ⟨rest, split⟩ := Multiset.exists_cons_of_mem member
    obtain ⟨rfl, unended, -, status, last, announces⟩ := recorded.standing.of_planned split
    refine .cutOff ?_ (published ▸ last) announces.unfinished unended (.inr cuts)
    rw [planned, split]
    simp

/-- What has become of a handle after several moves. -/
theorem Recorded.play (recorded : scene.Recorded handle before first results cut)
    (tidy : scene.Tidy) (moves : List Move) :
    (scene.play moves).Recorded handle before first (results ++ scene.endings handle moves)
      (cut ∨ scene.CutOff handle moves) := by
  induction moves generalizing scene results cut with
  | nil =>
    rw [endings, CutOff, List.append_nil, or_false]
    exact recorded
  | cons move moves ih =>
    rw [endings, CutOff, ← List.append_assoc, ← or_assoc]
    exact ih (recorded.after tidy move) (tidy.after move).1

/-! ## The beginning -/

/-- Nothing was shown on a handle before it was given out. -/
theorem Tidy.published_freshHandle (tidy : scene.Tidy) (showsLast : scene.run.state.ShowsLast) :
    scene.run.state.published scene.run.state.freshHandle = [] := by
  have unused : scene.run.state.freshHandle ∉ scene.run.state.statuses.keys := by
    rw [tidy.keys, ← tidy.size]
    exact List.not_mem_range_self
  have none := showsLast scene.run.state.freshHandle
  rw [Table.find?_eq_none_of_notMem unused] at none
  exact List.getLast?_eq_none_iff.1 none.symm

/-- A handle that is given out has shown what was published on it by that move. -/
theorem Tidy.recorded_new (tidy : scene.Tidy) (showsLast : scene.run.state.ShowsLast)
    {lifecycle : Lifecycle} (fresh : lifecycle.handle = scene.run.state.freshHandle)
    (given : next.handles = scene.handles ++ [lifecycle]) {rest : List Status} {job : Option Job}
    (publishes : lifecycle.Publishes scene.run next.run (before ++ first :: rest) job)
    (chain : (first :: rest).IsChain Status.Precedes)
    {result : Option (Except Failure Completion)}
    (terminals : (before ++ first :: rest).filter (·.isTerminal) = result.toList.map .ofResult)
    (tells : ∃ status ∈ (first :: rest).getLast?, status.Tells lifecycle result job) :
    next.Recorded lifecycle.handle before first result.toList False := by
  obtain ⟨status, last, tells⟩ := tells
  obtain ⟨item, rfl, planned⟩ := tidy.planned_new fresh publishes tells.about
  have published := publishes.published lifecycle.handle
  rw [if_pos rfl, fresh, tidy.published_freshHandle showsLast, List.nil_append, ← fresh]
    at published
  refine ⟨?_, ⟨rest, published, chain⟩, published ▸ terminals, .of_tells tells ?_ planned id⟩
  · have size : scene.run.state.freshHandle = scene.handles.length := tidy.size
    rw [given, fresh, size, List.length_append]
    exact Nat.lt_succ_self _
  · rw [published, List.getLast?_append_of_ne_nil _ (List.cons_ne_nil first rest)]
    exact last

/-! ## After the end -/

/-- Once nothing is planned for a handle, nothing happens on it any more. -/
theorem Tidy.idle_play (tidy : scene.Tidy) (given : handle < scene.handles.length)
    (idle : World.planned scene.run handle = 0) (moves : List Move) :
    (scene.play moves).run.state.published handle = scene.run.state.published handle ∧
      scene.endings handle moves = [] ∧
      (World.isTracked scene.run handle = false →
        World.isTracked (scene.play moves).run handle = false) := by
  induction moves generalizing scene with
  | nil => exact ⟨rfl, rfl, id⟩
  | cons move moves ih =>
    cases tidy.affects given move with
    | nothing published planned goesOn silent spared =>
      have still := planned.trans idle
      obtain ⟨later, unended, gone⟩ := ih (tidy.after move).1
        (given.trans_le (scene.length_handles_le move)) still
      refine ⟨later.trans published, ?_, fun untracked => gone ?_⟩
      · rw [endings, goesOn, unended]
        rfl
      · rw [Bool.eq_false_iff] at untracked ⊢
        exact fun tracked => untracked (isTracked_of_after idle still tracked)
    | turned planned => exact absurd (planned.symm.trans idle) Multiset.cons_ne_zero
    | cut member =>
      rw [idle] at member
      exact absurd member (Multiset.notMem_zero _)

theorem endings_append (scene : Scene) (handle : Nat) (moves others : List Move) :
    scene.endings handle (moves ++ others) =
      scene.endings handle moves ++ (scene.play moves).endings handle others := by
  induction moves generalizing scene with
  | nil => rfl
  | cons move moves ih =>
    rw [List.cons_append, endings, ih, endings, List.append_assoc]
    rfl

theorem CutOff.append {moves : List Move} (cut : scene.CutOff handle moves) (others : List Move) :
    scene.CutOff handle (moves ++ others) := by
  induction moves generalizing scene with
  | nil => exact cut.elim
  | cons move moves ih => exact cut.imp_right ih

variable {results : List (Except Failure Completion)} {cut : Prop} {before : List Status}
  {first : Status}

theorem Standing.length_le (standing : scene.Standing handle results cut) :
    results.length ≤ 1 := by
  cases standing with
  | underWay _ _ _ unended | cutOff _ _ _ unended =>
    rw [unended]
    exact Nat.zero_le 1
  | ended _ _ ended =>
    rw [ended]
    exact Nat.le_refl 1

theorem Standing.idle (standing : scene.Standing handle results cut)
    (closed : results ≠ [] ∨ cut) : World.planned scene.run handle = 0 := by
  cases standing with
  | underWay _ _ _ unended uncut => exact (closed.elim (· unended) uncut).elim
  | ended idle | cutOff idle => exact idle

/-- A lifecycle that was cut off has not ended, and its status is unfinished. -/
theorem Standing.of_cut (standing : scene.Standing handle results cut)
    (showsLast : scene.run.state.ShowsLast) (here : cut) :
    results = [] ∧
      ∀ status ∈ scene.run.state.statuses.find? handle, status.isTerminal = false := by
  cases standing with
  | underWay _ _ _ _ uncut | ended _ _ _ uncut => exact absurd here uncut
  | cutOff idle last unfinished unended =>
    refine ⟨unended, fun status shown => ?_⟩
    rw [showsLast handle] at shown
    cases Option.mem_unique last shown
    exact unfinished

/-- Whoever looks at a handle gets the result with which its lifecycle has ended, or learns of the
shutdown that has cut it off. -/
theorem Standing.poll_eq_some_iff (standing : scene.Standing handle results cut)
    (showsLast : scene.run.state.ShowsLast) {result : Except Failure Completion} :
    scene.poll handle = some result ↔ results = [result] ∨
      cut ∧ World.isTracked scene.run handle = false ∧ result = .error .schedulerShutDown := by
  have shown := showsLast handle
  cases standing with
  -- a lifecycle under way has a task, and the status that its task announces is not final
  | underWay planned last announces unended uncut =>
    rename_i item status
    have member : item ∈ World.planned scene.run handle := by
      rw [planned]
      exact Multiset.mem_singleton_self item
    obtain ⟨appointed, own⟩ := Multiset.mem_filter.1 member
    have tracked := isTracked_of_mem_agenda appointed
    rw [own] at tracked
    have unsettled : World.isSettled handle scene.run = false := by
      rw [World.isSettled, shown, Option.mem_def.1 last, Option.any_some, announces.unfinished,
        tracked]
      rfl
    rw [poll, unsettled, unended]
    refine iff_of_false (fun nothing => by cases nothing) ?_
    rintro (nothing | ⟨here, -⟩)
    · cases nothing
    · exact uncut here
  | ended idle last ended uncut =>
    rename_i given
    obtain ⟨settled, gives⟩ := World.isSettled_of_ofResult (shown.trans last)
    rw [poll, if_pos settled, gives, ended]
    refine ⟨fun same => .inl (congrArg (fun result => [result]) (Option.some.inj same)), ?_⟩
    rintro (same | ⟨here, -⟩)
    · exact congrArg some (List.singleton_inj.1 same)
    · exact absurd here uncut
  -- without a task nobody will change the status again, so whoever looks learns of the shutdown
  | cutOff idle last unfinished unended here =>
    have gives : World.resultOf scene.run handle = .error .schedulerShutDown := by
      rw [World.resultOf, shown, Option.mem_def.1 last, Option.bind_some,
        Status.result?_eq_none unfinished]
      rfl
    have settled : World.isSettled handle scene.run = !World.isTracked scene.run handle := by
      rw [World.isSettled, shown, Option.mem_def.1 last, Option.any_some, unfinished]
      rfl
    rw [poll, settled, gives, unended]
    cases World.isTracked scene.run handle with
    | true => simp
    | false => simp [here, eq_comm]

/-! ## All handles keep to the protocol -/

theorem showsLast_play (world : World) (now : Nat) (moves : List Move) :
    ((opening world now).play moves).run.state.ShowsLast := by
  have nobody : (opening world now).run.state.ShowsLast := fun _ => rfl
  rw [state_play]
  exact nobody.performAll _

/-- What has become of a handle since a move gave it out. -/
theorem Tidy.recorded (tidy : scene.Tidy) (showsLast : scene.run.state.ShowsLast) {start : Move}
    {lifecycle : Lifecycle}
    (given : (scene.after start).handles = scene.handles ++ [lifecycle]) :
    (∃ executor unit, start = .submit executor unit ∧ (scene.after start).Recorded
        lifecycle.handle [] .pending (scene.ending? lifecycle.handle start).toList False) ∨
      ∃ index attempt delay, start = .leave index ∧ (scene.after start).Recorded
        lifecycle.handle [.pending] (.retryScheduled attempt delay)
        (scene.ending? lifecycle.handle start).toList False := by
  obtain ⟨fresh, hands⟩ := hands_of_given given
  cases hands with
  | submitted executor unit publishes =>
    exact .inl ⟨executor, unit, rfl, tidy.recorded_new showsLast fresh given publishes
      (.singleton _) rfl ⟨_, rfl, .next rfl (.submitted lifecycle)⟩⟩
  | failed outcome operation deals follows publishes =>
    exact .inr ⟨_, _, _, rfl, tidy.recorded_new showsLast fresh given publishes
      (follows.chain 0).tail follows.terminals follows.last⟩

/-- What is shown on a handle is the beginning of a way to an end. -/
theorem Tidy.shows_play (tidy : scene.Tidy) (showsLast : scene.run.state.ShowsLast) {start : Move}
    {lifecycle : Lifecycle}
    (given : (scene.after start).handles = scene.handles ++ [lifecycle]) (late : List Move) :
    start.Shows ((scene.play (start :: late)).run.state.published lifecycle.handle) := by
  have tidier := (tidy.after start).1
  rw [play_cons]
  rcases tidy.recorded showsLast given with ⟨_, _, rfl, recorded⟩ | ⟨_, attempt, delay, rfl, recorded⟩
  · obtain ⟨statuses, published, chain⟩ := (recorded.play tidier late).course
    rw [published]
    cases statuses with
    | nil => exact .submitted (.ended (.error .schedulerShutDown)) List.nil_prefix
    | cons second rest =>
      obtain ⟨begins, chain⟩ := List.isChain_cons_cons.1 chain
      cases begins
      obtain ⟨trail, goesOn, shown⟩ := Status.exists_trail chain
      exact .submitted goesOn (List.cons_prefix_cons.2 ⟨rfl, shown⟩)
  · obtain ⟨statuses, published, chain⟩ := (recorded.play tidier late).course
    rw [published]
    obtain ⟨trail, goesOn, shown⟩ := @Status.exists_trail 0 _ (.cons_cons (.failed 0 _ _) chain)
    exact .handed goesOn shown

/-- What has become of a handle after several moves from the one on that gave it out. -/
theorem Tidy.exists_recorded (tidy : scene.Tidy) (showsLast : scene.run.state.ShowsLast)
    {start : Move} {lifecycle : Lifecycle}
    (given : (scene.after start).handles = scene.handles ++ [lifecycle]) (late : List Move) :
    ∃ before first, (scene.play (start :: late)).Recorded lifecycle.handle before first
      (scene.endings lifecycle.handle (start :: late))
      (scene.CutOff lifecycle.handle (start :: late)) := by
  have tidier := (tidy.after start).1
  rcases tidy.recorded showsLast given with ⟨_, _, rfl, recorded⟩ | ⟨_, _, _, rfl, recorded⟩ <;>
    exact ⟨_, _, recorded.play tidier late⟩

theorem resolves_iff {moves : List Move} {result : Except Failure Completion} :
    scene.Resolves handle moves result ↔ scene.endings handle moves = [result] ∨
      scene.CutOff handle moves ∧ World.isTracked (scene.play moves).run handle = false ∧
        result = .error .schedulerShutDown := by
  constructor
  · rintro (ended | ⟨cut, gone⟩)
    · exact .inl ended
    · exact .inr ⟨cut, gone, rfl⟩
  · rintro (ended | ⟨cut, gone, rfl⟩)
    · exact .ended ended
    · exact .dropped cut gone

/-- What resolves a handle once resolves it for ever. -/
theorem Resolves.append {moves : List Move} {result : Except Failure Completion}
    (resolves : scene.Resolves handle moves result) (tidy : (scene.play moves).Tidy)
    (recorded : (scene.play moves).Recorded handle before first (scene.endings handle moves)
      (scene.CutOff handle moves)) (others : List Move) :
    scene.Resolves handle (moves ++ others) result := by
  have closed : scene.endings handle moves ≠ [] ∨ scene.CutOff handle moves := by
    cases resolves with
    | ended ended => exact .inl (ended ▸ List.cons_ne_nil _ _)
    | dropped cut => exact .inr cut
  obtain ⟨-, silent, gone⟩ :=
    tidy.idle_play recorded.given (recorded.standing.idle closed) others
  cases resolves with
  | ended ended =>
    refine .ended ?_
    rw [endings_append, ended, silent]
    rfl
  | dropped cut untracked =>
    refine .dropped (cut.append others) ?_
    rw [play_append]
    exact gone untracked

/-- Where what a handle gives stays the same, a wait gives it whenever it looks. -/
theorem awaited_eq_poll
    (lasts : ∀ moves more result, (scene.play moves).poll handle = some result →
      ((scene.play moves).play more).poll handle = some result)
    (looks : List (List Move)) :
    scene.awaited handle looks = (scene.play looks.flatten).poll handle := by
  induction looks generalizing scene with
  | nil => rfl
  | cons moves looks ih =>
    rw [awaited, List.flatten_cons, play_append]
    cases first : scene.poll handle with
    | some result =>
      rw [Option.some_or, ← play_append]
      exact (lasts [] (moves ++ looks.flatten) result first).symm
    | none =>
      rw [Option.none_or]
      refine ih fun others more result gives => ?_
      rw [← play_append scene] at gives ⊢
      exact lasts (moves ++ others) more result gives

/-- All handles keep to the protocol, whatever happens and whoever looks. -/
theorem handle_protocol (world : World) (now : Nat) (early : List Move) (start : Move)
    (lifecycle : Lifecycle)
    (given : (((opening world now).play early).after start).handles =
      ((opening world now).play early).handles ++ [lifecycle]) :
    ((opening world now).play early).Protocol start lifecycle.handle := by
  have tidy := (tidy_opening world now).play early
  have showsLast := showsLast_play world now early
  have later (late : List Move) :
      (((opening world now).play early).play (start :: late)).run.state.ShowsLast := by
    rw [← play_append]
    exact showsLast_play world now _
  have ordered := fun late => ordered_play
    (ordered_play (ordered_opening world now) early) (start :: late)
  generalize (opening world now).play early = scene at given tidy showsLast later ordered ⊢
  have recorded := tidy.exists_recorded showsLast given
  have gives (late : List Move) (result : Except Failure Completion) :
      (scene.play (start :: late)).poll lifecycle.handle = some result ↔
        scene.Resolves lifecycle.handle (start :: late) result := by
    obtain ⟨_, _, here⟩ := recorded late
    exact (here.standing.poll_eq_some_iff (later late)).trans resolves_iff.symm
  have lasts (late : List Move) {result : Except Failure Completion}
      (resolves : scene.Resolves lifecycle.handle (start :: late) result) (more : List Move) :
      scene.Resolves lifecycle.handle (start :: late ++ more) result := by
    obtain ⟨_, _, here⟩ := recorded late
    exact resolves.append (tidy.play _) here more
  -- every field is read off the record of the handle, which all moves keep
  exact
    { way := tidy.shows_play showsLast given
      shows := fun late => later late _
      terminals := fun late => by
        obtain ⟨_, _, here⟩ := recorded late
        exact here.terminals
      once := fun late => by
        obtain ⟨_, _, here⟩ := recorded late
        exact here.standing.length_le
      unfinished := fun late cut => by
        obtain ⟨_, _, here⟩ := recorded late
        exact here.standing.of_cut (later late) cut
      final := fun late closed more => by
        obtain ⟨_, _, here⟩ := recorded late
        rw [play_append]
        exact ((tidy.play _).idle_play here.given (here.standing.idle closed) more).1
      gives
      awaits := fun late looks result => by
        have stays (moves more : List Move) (result : Except Failure Completion)
            (given : ((scene.play (start :: late)).play moves).poll lifecycle.handle =
              some result) :
            (((scene.play (start :: late)).play moves).play more).poll lifecycle.handle =
              some result := by
          rw [← play_append] at given ⊢
          rw [← play_append, ← List.append_assoc]
          exact (gives (late ++ moves ++ more) result).2
            (lasts (late ++ moves) ((gives (late ++ moves) result).1 given) more)
        rw [awaited_eq_poll stays, ← play_append]
        exact gives (late ++ looks.flatten) result
      waits := fun late turns settled => by
        obtain ⟨moves, waited⟩ := wait_eq_play (ordered late) turns lifecycle.handle
        refine ⟨moves, waited, (gives (late ++ moves.map Move.loop) _).1 ?_⟩
        rw [← List.cons_append, play_append, waited]
        exact if_pos settled
      atOnce := fun late result resolves turns => by
        have found := (gives late result).2 resolves
        rw [poll] at found
        split at found
        · rename_i settled
          rw [World.wait_of_isSettled settled, Option.some.inj found]
        · cases found }

/-- While another unit is worked on, a call ends whose operation failed. The handle that it gives out
shows the retry, the attempt that is made then, and that this was the last one. -/
theorem handle_protocol_handed :
    let down : Operation :=
      { name := "down", respond := fun _ _ => ⟨.zero, .error (.of .timeout "late")⟩ }
    let quick : Operation := { name := "quick", respond := fun _ _ => ⟨.zero, .ok ()⟩ }
    let world : World := { operations := (Table.insert {} 0 down).insert 1 quick }
    let stubborn : Executor :=
      { counter := .inProcess "counts" { defaultTtl := none }
        handler := ⟨{ maxAttempts := 2, strategy := .fixed, baseDelay := .ofMillis 20 }, none⟩ }
    let brisk : Executor := { operation := 1, counter := default }
    let unit (id : String) : WorkUnit := ⟨id, "deliver", none, .empty⟩
    let before := (opening world 0).play [.submit brisk (unit "a"), .enter stubborn (unit "b")]
    let late : List Move := [.loop .turn, .loop .turn, .loop (.jump 20), .loop .turn]
    let names (moves : List Move) : List String :=
      ((before.play (.leave 0 :: moves)).run.state.published 1).map Status.name
    (before.after (.leave 0)).handles = before.handles ++ [⟨stubborn, unit "b", 1⟩] ∧
      names [] = ["pending", "retry_scheduled"] ∧
      names late = ["pending", "retry_scheduled", "in_progress", "failed"] ∧
      before.Protocol (.leave 0) 1 := by
  intro down quick world stubborn brisk unit before late names
  have given : (before.after (.leave 0)).handles =
      before.handles ++ [⟨stubborn, unit "b", 1⟩] := rfl
  exact ⟨given, by decide +kernel, by decide +kernel,
    handle_protocol world 0 [.submit brisk (unit "a"), .enter stubborn (unit "b")] (.leave 0)
      ⟨stubborn, unit "b", 1⟩ given⟩

end Scene

end Resilience
