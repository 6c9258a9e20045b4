import Resilience.Proofs.Compensation

/-!
# Composites and their leaves

However composites are nested, only their leaves count. They run from left to right, each on the
sources that those before it have left, and none is passed over because another one failed. The
composite recovers if one of them does and never fails, and whatever failure a leaf comes to is
noted once, under the name of the leaf.

## Main definitions

* `LeafRun`, `Compensation.runLeaves` — leaves that run one after the other
* `Verdict.of` — recovered or not

## Main statements

* `Compensation.runParts_eq`, `Compensation.run_composite` — a composite runs its leaves
* `Compensation.run_congr` — composites with the same leaves are the same to run
-/

namespace Resilience

/-- The verdict of an answer to whether something recovered. -/
def Verdict.of (recovered : Bool) : Verdict := if recovered then .recovered else .propagate

theorem Verdict.of_eq_recovered_iff {recovered : Bool} :
    Verdict.of recovered = .recovered ↔ recovered = true := by
  cases recovered with
  | true | false => simp [Verdict.of]

/-- A leaf that ran, with what it came to. -/
structure LeafRun where
  leaf : Compensation
  verdict : Except Failure Verdict

namespace LeafRun

def recovered (run : LeafRun) : Bool := Verdict.isRecovered run.verdict

theorem recovered_iff (run : LeafRun) : run.recovered = true ↔ run.verdict = .ok .recovered := by
  rw [recovered]
  rcases run.verdict with failure | (_ | _) <;> simp [Verdict.isRecovered]

def failure? (run : LeafRun) : Option Failure :=
  match run.verdict with
  | .ok _ => none
  | .error failure => some failure

/-- What is noted of a leaf: that it ran, and the failure it came to. -/
def notes (setback : Setback) (run : LeafRun) : List CompensationNote :=
  .ran run.leaf setback :: run.failure?.toList.map (.partFailed run.leaf.name setback)

end LeafRun

namespace Compensation

/-- Runs leaves one after the other, each on the sources that those before it have left. -/
def runLeaves (setback : Setback) :
    List Compensation → Table Nat Source → List LeafRun × Table Nat Source
  | [], sources => ([], sources)
  | leaf :: rest, sources =>
    let ran := leaf.run setback sources
    let (runs, sources) := runLeaves setback rest ran.sources
    (⟨leaf, ran.verdict⟩ :: runs, sources)

variable (setback : Setback)

theorem runLeaves_append (early late : List Compensation) (sources : Table Nat Source) :
    runLeaves setback (early ++ late) sources =
      ((runLeaves setback early sources).1 ++
          (runLeaves setback late (runLeaves setback early sources).2).1,
        (runLeaves setback late (runLeaves setback early sources).2).2) := by
  induction early generalizing sources with
  | nil => rfl
  | cons leaf early ih => rw [List.cons_append, runLeaves, ih, runLeaves, List.cons_append]

/-- Each leaf runs once, in order. -/
theorem map_leaf_runLeaves (leaves : List Compensation) (sources : Table Nat Source) :
    (runLeaves setback leaves sources).1.map LeafRun.leaf = leaves := by
  induction leaves generalizing sources with
  | nil => rfl
  | cons leaf leaves ih => rw [runLeaves, List.map_cons, ih]

/-! ## Leaves -/

/-- A compensation is a leaf or a composite. -/
theorem leaf_or_composite (compensation : Compensation) :
    compensation.size? = none ∨ ∃ parts, compensation = .composite parts := by
  cases compensation with
  | composite parts => exact .inr ⟨parts, rfl⟩
  | log | removeUnit | custom => exact .inl rfl

section

variable {leaf : Compensation} (isLeaf : leaf.size? = none)
include isLeaf

theorem leaves_of_leaf : leaf.leaves = [leaf] := by
  cases leaf with
  | composite parts => cases isLeaf
  | log | removeUnit | custom => rw [leaves]

theorem notes_of_leaf (sources : Table Nat Source) :
    (leaf.run setback sources).notes = [.ran leaf setback] := by
  cases leaf with
  | composite parts => cases isLeaf
  | log | custom => rw [run]
  | removeUnit source => rw [run, removeFrom_notes]

end

mutual

/-- The leaves of a compensation are no composites. -/
theorem size?_of_mem_leaves (compensation : Compensation) :
    ∀ leaf ∈ compensation.leaves, leaf.size? = none := by
  cases compensation with
  | composite parts =>
    rw [leaves]
    exact size?_of_mem_leavesOfParts parts
  | log | removeUnit | custom => simp [leaves, size?]

theorem size?_of_mem_leavesOfParts (parts : List Compensation) :
    ∀ leaf ∈ leavesOfParts parts, leaf.size? = none := by
  cases parts with
  | nil => exact List.forall_mem_nil _
  | cons part rest =>
    rw [leavesOfParts]
    intro leaf member
    rcases List.mem_append.1 member with member | member
    · exact size?_of_mem_leaves part leaf member
    · exact size?_of_mem_leavesOfParts rest leaf member

end

/-! ## Composites -/

/-- What leaves come to as the leaves of one composite, if something recovered before. -/
def together (leaves : List Compensation) (sources : Table Nat Source) (recovered : Bool) :
    Compensated :=
  let (runs, sources) := runLeaves setback leaves sources
  ⟨.ok (.of (recovered || runs.any LeafRun.recovered)), sources, runs.flatMap (·.notes setback)⟩

/-- A leaf in front adds its own run. -/
theorem together_cons (leaf : Compensation) (rest : List Compensation)
    (sources : Table Nat Source) (recovered : Bool) :
    together setback (leaf :: rest) sources recovered =
      let ran : LeafRun := ⟨leaf, (leaf.run setback sources).verdict⟩
      let others := together setback rest (leaf.run setback sources).sources
        (recovered || ran.recovered)
      { others with notes := ran.notes setback ++ others.notes } := by
  rw [together, runLeaves]
  dsimp only
  rw [List.any_cons, ← Bool.or_assoc, List.flatMap_cons]
  rfl

/-- Leaves in front add theirs. -/
theorem together_append (early late : List Compensation) (sources : Table Nat Source)
    (recovered : Bool) :
    together setback (early ++ late) sources recovered =
      let first := runLeaves setback early sources
      let others := together setback late first.2 (recovered || first.1.any LeafRun.recovered)
      { others with notes := first.1.flatMap (·.notes setback) ++ others.notes } := by
  rw [together, runLeaves_append]
  dsimp only
  rw [List.any_append, ← Bool.or_assoc, List.flatMap_append]
  rfl

/-- A leaf among the parts is run and what it comes to is noted. -/
theorem runParts_leaf {leaf : Compensation} (isLeaf : leaf.size? = none)
    (rest : List Compensation) (sources : Table Nat Source) (recovered : Bool) :
    runParts (leaf :: rest) setback sources (.of recovered) =
      let ran : LeafRun := ⟨leaf, (leaf.run setback sources).verdict⟩
      let others := runParts rest setback (leaf.run setback sources).sources
        (.of (recovered || ran.recovered))
      { others with notes := ran.notes setback ++ others.notes } := by
  rw [runParts, notes_of_leaf setback isLeaf]
  dsimp only
  cases (leaf.run setback sources).verdict with
  | error failure =>
    rw [LeafRun.recovered, Verdict.isRecovered, Bool.or_false]
    rfl
  | ok verdict =>
    cases verdict with
    | propagate =>
      rw [LeafRun.recovered, Verdict.isRecovered, Bool.or_false]
      rfl
    | recovered =>
      rw [LeafRun.recovered, Verdict.isRecovered, Bool.or_true]
      rfl

/-- A composite among the parts never fails, so that nothing is noted of itself. -/
theorem runParts_composite {parts leaves rest : List Compensation} {sources : Table Nat Source}
    (same : runParts parts setback sources (.of false) = together setback leaves sources false)
    (recovered : Bool) :
    runParts (.composite parts :: rest) setback sources (.of recovered) =
      let first := runLeaves setback leaves sources
      let others := runParts rest setback first.2 (.of (recovered || first.1.any LeafRun.recovered))
      { others with notes := first.1.flatMap (·.notes setback) ++ others.notes } := by
  have inner : (composite parts).run setback sources = together setback leaves sources false := by
    rw [run]
    exact same
  rw [runParts, inner, together]
  dsimp only
  -- the parts of a composite start without a recovery, whatever there was before it
  rw [Bool.false_or]
  cases (runLeaves setback leaves sources).1.any LeafRun.recovered with
  | true =>
    rw [Bool.or_true]
    rfl
  | false =>
    rw [Bool.or_false]
    rfl

/-- Running parts is running their leaves. -/
theorem runParts_eq (parts : List Compensation) (sources : Table Nat Source) (recovered : Bool) :
    runParts parts setback sources (.of recovered) =
      together setback (leavesOfParts parts) sources recovered := by
  -- the induction goes along the parts, and first into those of a composite in front
  match parts with
  | [] =>
    rw [runParts, leavesOfParts, together, runLeaves]
    dsimp only
    rw [List.any_nil, Bool.or_false, List.flatMap_nil]
  | part :: rest =>
    rw [leavesOfParts]
    rcases part.leaf_or_composite with isLeaf | ⟨parts, rfl⟩
    · rw [leaves_of_leaf isLeaf, List.singleton_append, together_cons,
        runParts_leaf setback isLeaf]
      dsimp only
      rw [runParts_eq rest]
    · rw [leaves, together_append, runParts_composite setback (runParts_eq parts sources false)]
      dsimp only
      rw [runParts_eq rest]

/-- Running a composite is running its leaves. -/
theorem run_composite (parts : List Compensation) (sources : Table Nat Source) :
    (composite parts).run setback sources =
      together setback (leavesOfParts parts) sources false := by
  rw [run]
  exact runParts_eq setback parts sources false

/-- Composites with the same leaves are the same to run. -/
theorem run_congr {parts others : List Compensation}
    (same : leavesOfParts parts = leavesOfParts others) (sources : Table Nat Source) :
    (composite parts).run setback sources = (composite others).run setback sources := by
  rw [run_composite, run_composite, same]

end Compensation

end Resilience
