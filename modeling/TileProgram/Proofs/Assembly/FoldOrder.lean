import TileProgram.Proofs.Assembly.Dataflow
import TileProgram.Proofs.Assembly.RoundTrip
import TileProgram.Proofs.Stage.FoldOrder

/-!
# The order of folded nodes in programs

The bytes of a program determine how the nodes of its network were grouped and
which kinds of nodes each record folds.  They do not determine the order of the
folded nodes: a result that is scaled before something is added to it gives the
same program as one that is scaled afterwards.
-/

namespace TileProgram
namespace Assembly

open Network Stage Container

variable {policy otherPolicy : Layout.Policy} {network otherNetwork : Network}
  {container : Container}

/-- The kinds of the folded nodes of a stage, in order. -/
def foldedKinds (network : Network) (stage : Stage) : List (Nat × Nat) :=
  (foldedOperations network stage).map kind

/-- The binary operations among folded nodes that have the same register are the same. -/
theorem pointwise_eq_of_code_eq
    {first second : Option Pointwise}
    (same : (first.map fun operator => operator.code + 1).getD 0 =
      (second.map fun operator => operator.code + 1).getD 0) :
    first = second := by
  cases first with
  | none =>
      cases second with
      | none => rfl
      | some operator => cases operator <;> cases same
  | some first =>
      cases second with
      | none => cases first <;> cases same
      | some second => cases first <;> cases second <;> first | rfl | cases same

/-- A grown stage begins with its primary node, and its other nodes are the folded ones. -/
theorem exists_nodesOf
    {stage : Stage}
    (grown : Grown network stage) :
    ∃ primary folded, network.nodes[stage.primary]? = some primary ∧
      stage.nodesOf network = primary :: folded ∧
      foldedOperations network stage = folded.map Node.operation ∧
      folded.length = stage.folded.length := by
  obtain ⟨primary, folded, present, mapped, nodesEq⟩ := nodesOf_grown grown
  refine ⟨primary, folded, present, nodesEq, ?_, ?_⟩
  · rw [nodesOf, Stage.nodes, List.filterMap_cons, present, List.cons.injEq] at nodesEq
    rw [foldedOperations, nodesEq.2]
  · have lengths := congrArg List.length mapped
    rwa [List.length_map, List.length_map, eq_comm] at lengths

namespace Run

/-- A record says how many nodes are folded and of which kinds they are. -/
theorem foldedRegisters
    {index : Nat}
    {stage : Stage}
    {entry : Entry}
    (run : Run policy network container)
    (stagePresent : run.stages[index]? = some stage)
    (entryPresent : container.entries[index]? = some entry) :
    entry.descriptor.get Registers.foldedCount = .ok stage.folded.length ∧
      (stage.folded ≠ [] →
        entry.descriptor.get Registers.foldedPointwise =
            .ok ((((foldedOperations network stage).filterMap pointwise?).getLast?.map
              fun operator => operator.code + 1).getD 0) ∧
          entry.descriptor.get Registers.scaleMode =
            .ok ((((foldedOperations network stage).filterMap scaling?).getLast?.map
              fun _ => 1).getD 0)) := by
  have grown := grown_of_plan run.planned stage (List.mem_of_getElem? stagePresent)
  obtain ⟨primary, folded, present, nodesEq, operations, length⟩ := exists_nodesOf grown
  obtain ⟨weights, record, encoded, numbered, -⟩ := run.encodes stagePresent entryPresent
  rw [nodesEq] at encoded
  refine ⟨?_, ?_⟩
  · have room : stage.folded.length ≤ 7 := grown.length_folded_le
    have fits : min stage.folded.length greatestFoldedCount = stage.folded.length :=
      Nat.min_eq_left (Nat.le_trans room (by decide))
    rw [numbered.unchanged _ (by decide), foldedCount_of_encode encoded, length, fits]
  · intro nonempty
    have isPrimary := grown.isPrimary nonempty
    rw [present, Option.any_some] at isPrimary
    rw [numbered.unchanged _ (by decide), numbered.unchanged _ (by decide), operations]
    exact ⟨foldedPointwise_of_encode encoded isPrimary, scaleMode_of_encode encoded isPrimary⟩

/-- Networks that are assembled to the same program have the same stages. -/
theorem stages_eq
    (run : Run policy network container)
    (other : Run otherPolicy otherNetwork container) :
    other.stages = run.stages := by
  have count : other.stages.length = run.stages.length := by
    rw [← other.length_entries, run.length_entries]
  have lengths : other.stages.map (fun stage => stage.folded.length) =
      run.stages.map fun stage => stage.folded.length := by
    apply List.ext_getElem
    · rw [List.length_map, List.length_map, count]
    · intro index otherInside inside
      rw [List.length_map] at inside otherInside
      rw [List.getElem_map, List.getElem_map]
      have present := List.getElem?_eq_getElem inside
      have otherPresent := List.getElem?_eq_getElem otherInside
      obtain ⟨entry, entryPresent⟩ := run.exists_entry present
      have here := (run.foldedRegisters present entryPresent).1
      rw [(other.foldedRegisters otherPresent entryPresent).1, Except.ok.injEq] at here
      exact here
  have divided := run.divided
  have otherDivided := other.divided
  rw [List.range_eq_range'] at divided otherDivided
  exact eq_of_lengths other.consecutive run.consecutive otherDivided divided lengths

/-- Networks that are assembled to the same program have the same kinds of folded nodes. -/
theorem foldedKinds_perm
    {stage : Stage}
    (run : Run policy network container)
    (other : Run otherPolicy otherNetwork container)
    (member : stage ∈ run.stages) :
    (foldedKinds otherNetwork stage).Perm (foldedKinds network stage) := by
  have stages := run.stages_eq other
  have grown := grown_of_plan run.planned stage member
  have otherGrown := grown_of_plan other.planned stage (stages ▸ member)
  by_cases nonempty : stage.folded = []
  · rw [foldedKinds, foldedKinds, foldedOperations, foldedOperations, nonempty]
    exact .nil
  · obtain ⟨index, present⟩ := List.mem_iff_getElem?.mp member
    have otherPresent : other.stages[index]? = some stage := by rwa [stages]
    obtain ⟨entry, entryPresent⟩ := run.exists_entry present
    obtain ⟨pointwise, scaling⟩ := (run.foldedRegisters present entryPresent).2 nonempty
    obtain ⟨otherPointwise, otherScaling⟩ :=
      (other.foldedRegisters otherPresent entryPresent).2 nonempty
    rw [pointwise, Except.ok.injEq] at otherPointwise
    rw [scaling, Except.ok.injEq] at otherScaling
    obtain ⟨-, folded, -, -, operations, length⟩ := exists_nodesOf grown
    obtain ⟨-, otherFolded, -, -, otherOperations, otherLength⟩ := exists_nodesOf otherGrown
    refine kinds_perm_of_same otherGrown.slotted grown.slotted ?_
      (pointwise_eq_of_code_eq otherPointwise.symm) otherScaling.symm
    rw [operations, otherOperations, List.length_map, List.length_map, length, otherLength]

end Run

/-- Two networks that are assembled to the same bytes are grouped in the same
way, and corresponding records fold the same kinds of operations, in whatever
order. -/
theorem foldedKinds_perm_of_write_eq
    {other : Container}
    (success : assemble policy network = .ok container)
    (otherSuccess : assemble otherPolicy otherNetwork = .ok other)
    (equal : container.write = other.write) :
    ∃ stages, Stage.plan policy.fusion network = .ok stages ∧
      Stage.plan otherPolicy.fusion otherNetwork = .ok stages ∧
      ∀ stage ∈ stages, (foldedKinds otherNetwork stage).Perm (foldedKinds network stage) := by
  obtain ⟨run⟩ := exists_run success
  obtain ⟨otherRun⟩ := exists_run otherSuccess
  cases run.eq_of_write_eq otherRun equal
  exact ⟨run.stages, run.planned, run.stages_eq otherRun ▸ otherRun.planned,
    fun stage member => run.foldedKinds_perm otherRun member⟩

/-- A convolution whose result is scaled before an input is added to it. -/
def scaledThenAdded : Network :=
  { inputs := [strip, strip]
    nodes :=
      [ ⟨.convolution (1, 1) (1, 1) (0, 0) 1, [.input 0], strip, ⟨.identity, ⟨0⟩, ⟨0⟩⟩,
          none, none⟩,
        ⟨.scaleBias ⟨0x40000000⟩ ⟨0x3F000000⟩, [.node 0], strip, ⟨.identity, ⟨0⟩, ⟨0⟩⟩,
          none, none⟩,
        ⟨.pointwise .add, [.node 1, .input 1], strip, ⟨.identity, ⟨0⟩, ⟨0⟩⟩,
          none, none⟩ ] }

/-- A convolution whose result is scaled after an input is added to it. -/
def addedThenScaled : Network :=
  { inputs := [strip, strip]
    nodes :=
      [ ⟨.convolution (1, 1) (1, 1) (0, 0) 1, [.input 0], strip, ⟨.identity, ⟨0⟩, ⟨0⟩⟩,
          none, none⟩,
        ⟨.pointwise .add, [.node 0, .input 1], strip, ⟨.identity, ⟨0⟩, ⟨0⟩⟩,
          none, none⟩,
        ⟨.scaleBias ⟨0x40000000⟩ ⟨0x3F000000⟩, [.node 1], strip, ⟨.identity, ⟨0⟩, ⟨0⟩⟩,
          none, none⟩ ] }

/-- In both, the second and the third node are folded into the first one. -/
theorem fold_orders_planned :
    Stage.plan Layout.Policy.standard.fusion scaledThenAdded = .ok [⟨0, [1, 2]⟩] ∧
      Stage.plan Layout.Policy.standard.fusion addedThenScaled = .ok [⟨0, [1, 2]⟩] := by
  decide +kernel

/-- Both are assembled to the same program. -/
theorem fold_orders_assembled :
    ∃ container, assemble .standard scaledThenAdded = .ok container ∧
      assemble .standard addedThenScaled = .ok container := by
  obtain ⟨container, success⟩ : ∃ container, assemble .standard scaledThenAdded = .ok container :=
    exists_assemble_iff.mpr (by decide +kernel)
  obtain ⟨other, otherSuccess⟩ : ∃ other, assemble .standard addedThenScaled = .ok other :=
    exists_assemble_iff.mpr (by decide +kernel)
  obtain ⟨run⟩ := exists_run success
  obtain ⟨otherRun⟩ := exists_run otherSuccess
  obtain ⟨planned, otherPlanned⟩ := fold_orders_planned
  have stages := Except.ok.inj (run.planned.symm.trans planned)
  have otherStages := Except.ok.inj (otherRun.planned.symm.trans otherPlanned)
  have reads : otherRun.reads = run.reads := by
    have same : stageReads addedThenScaled [⟨0, [1, 2]⟩] =
        stageReads scaledThenAdded [⟨0, [1, 2]⟩] := by decide +kernel
    have read := otherRun.read
    rw [otherStages, same, ← stages, run.read] at read
    exact (Except.ok.inj read).symm
  have placement : otherRun.placement = run.placement := by
    have placed := otherRun.placed
    rw [otherStages] at placed
    have runPlaced := run.placed
    rw [stages] at runPlaced
    exact Except.ok.inj (placed.symm.trans runPlaced)
  have slotted := (grown_of_plan planned _ List.mem_cons_self).slotted
  refine ⟨container, success, ?_⟩
  rw [otherSuccess, run.eq_of_steps_eq otherRun (otherStages.trans stages.symm) reads placement ?_
    (by decide)]
  intro stage member draft index inputs output hints
  rw [stages, List.mem_singleton] at member
  subst member
  refine Draft.addStage_congr ?_ ?_ draft _ index inputs output hints
  · rfl
  · intro number binding
    exact encode_perm_bare (by decide) slotted (List.Perm.swap _ _ [])

/-- The two orders fold the same kinds of operations. -/
theorem fold_orders_kinds_perm :
    ∃ container, assemble .standard scaledThenAdded = .ok container ∧
      assemble .standard addedThenScaled = .ok container ∧
      ∃ stages, Stage.plan Layout.Policy.standard.fusion scaledThenAdded = .ok stages ∧
        Stage.plan Layout.Policy.standard.fusion addedThenScaled = .ok stages ∧
        ∀ stage ∈ stages,
          (foldedKinds addedThenScaled stage).Perm (foldedKinds scaledThenAdded stage) := by
  obtain ⟨container, success, otherSuccess⟩ := fold_orders_assembled
  exact ⟨container, success, otherSuccess, foldedKinds_perm_of_write_eq success otherSuccess rfl⟩

/-- Their orders are different, although the bytes are the same. -/
theorem fold_order_lost :
    ∃ container other stages, assemble .standard scaledThenAdded = .ok container ∧
      assemble .standard addedThenScaled = .ok other ∧ container.write = other.write ∧
      Stage.plan Layout.Policy.standard.fusion scaledThenAdded = .ok stages ∧
      Stage.plan Layout.Policy.standard.fusion addedThenScaled = .ok stages ∧
      ∃ stage ∈ stages, foldedKinds scaledThenAdded stage ≠ foldedKinds addedThenScaled stage := by
  obtain ⟨container, success, otherSuccess⟩ := fold_orders_assembled
  obtain ⟨planned, otherPlanned⟩ := fold_orders_planned
  exact ⟨container, container, _, success, otherSuccess, rfl, planned, otherPlanned, _,
    List.mem_cons_self, by decide⟩

end Assembly
end TileProgram
