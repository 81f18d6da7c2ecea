import TileProgram.Proofs.Assembly.RoundTrip
import TileProgram.Proofs.Stage.Registers

/-!
# Shapes of assembled programs

Every record of an assembled program holds the shape of the first operand of its
stage, and the shape of the result with the groups of that operand.  Operations
that work element by element keep all extents, so their records hold both shapes
as they are; those of other operations may not.
-/

namespace TileProgram
namespace Assembly

open Network Stage Container

variable {policy : Layout.Policy} {network : Network} {container : Container}

namespace Run

variable (run : Run policy network container) {index : Nat} {stage : Stage} {entry : Entry}

include run

/-- The record of a stage holds the shapes of its first operand and its result, up to the groups
of the result. -/
theorem shapes
    {primary : Node}
    {operand : Operand}
    {tensor : Tensor}
    (present : run.stages[index]? = some stage)
    (entryPresent : container.entries[index]? = some entry)
    (primaryPresent : network.nodes[stage.primary]? = some primary)
    (first : primary.operands.head? = some operand)
    (found : network.tensorOf? operand = some tensor) :
    entry.descriptor.inputShape = .ok tensor.shape ∧
      entry.descriptor.outputShape =
        .ok { (resultTensor network stage).shape with group := tensor.shape.group } := by
  obtain ⟨other, otherPresent, -, changedPresent, -⟩ := run.entry entryPresent
  obtain ⟨nodes, folded, weights, record, -, encoded, -, numbered⟩ :=
    run.toChained.changed present changedPresent
  have inputs := (inputsOf_eq run.accepted run.valid run.planned run.read run.placed present).1
  have head := head?_tensorsOf (foldedOperands network stage.primary stage.folded) first found
  rw [← operandsAt_eq primaryPresent, ← outsideOperands, ← inputs, List.head?_eq_getElem?,
    List.getElem?_map, Option.map_eq_some_iff] at head
  obtain ⟨input, inputPresent, rfl⟩ := head
  rw [numbered.inputShape, numbered.outputShape, inputShape_of_encode encoded inputPresent,
    outputShape_of_encode encoded inputPresent,
    tensor_result run.accepted run.placed present]
  exact ⟨rfl, rfl⟩

/-- An operation that works element by element has the shape of its first operand. -/
theorem shape_of_isSecondary
    {primary : Node}
    {operand : Operand}
    {tensor : Tensor}
    (present : run.stages[index]? = some stage)
    (primaryPresent : network.nodes[stage.primary]? = some primary)
    (first : primary.operands.head? = some operand)
    (found : network.tensorOf? operand = some tensor)
    (secondary : primary.operation.isSecondary = true) :
    (resultTensor network stage).shape = tensor.shape := by
  have member := List.mem_of_getElem? present
  -- Nothing is folded into the record of such an operation.
  have alone : stage.folded = [] := by
    by_contra nonempty
    have isPrimary := (run.grown stage member).isPrimary nonempty
    rw [primaryPresent, Option.any_some] at isPrimary
    cases operation : primary.operation <;>
      simp [operation, Operation.isPrimary, Operation.isSecondary] at isPrimary secondary
  have result : resultTensor network stage = primary.output := by
    rw [resultTensor, Stage.output, alone, List.getLast?_nil, Option.getD_none, primaryPresent]
    rfl
  obtain ⟨other, folded, nodesEq, encodable⟩ := run.assemblable.encodable stage member
  rw [nodesOf, Stage.nodes, List.filterMap_cons, primaryPresent] at nodesEq
  cases nodesEq
  have inputs := head?_tensorsOf (foldedOperands network stage.primary stage.folded) first found
  rw [← operandsAt_eq primaryPresent, ← outsideOperands] at inputs
  rw [result]
  refine (shape_of_shapesAgree secondary encodable.shapes tensor ?_).symm
  have positive : 0 < primary.operands.length := by
    rw [List.length_pos_iff]
    rintro none
    rw [none] at first
    cases first
  refine List.mem_of_getElem? (i := 0) ?_
  rw [List.getElem?_take_of_lt positive, ← List.head?_eq_getElem?, inputs]

end Run

/-- Every record of an assembled program holds the shape of the first operand of its stage, and
the shape of the result with the groups of that operand.  So it holds the shape of the result
exactly when the groups are the same, as they are for operations that work element by element. -/
theorem shapes_of_assemble (success : assemble policy network = .ok container) :
    ∃ stages, Stage.plan policy.fusion network = .ok stages ∧
      container.entries.length = stages.length ∧
      ∀ (index : Nat) (stage : Stage), stages[index]? = some stage →
        ∃ primary operand tensor entry, network.nodes[stage.primary]? = some primary ∧
          primary.operands.head? = some operand ∧ network.tensorOf? operand = some tensor ∧
          container.entries[index]? = some entry ∧
          entry.descriptor.inputShape = .ok tensor.shape ∧
          entry.descriptor.outputShape =
            .ok { (resultTensor network stage).shape with group := tensor.shape.group } ∧
          (entry.descriptor.outputShape = .ok (resultTensor network stage).shape ↔
            (resultTensor network stage).shape.group = tensor.shape.group) ∧
          (primary.operation.isSecondary = true →
            entry.descriptor.outputShape = .ok (resultTensor network stage).shape) := by
  obtain ⟨run⟩ := exists_run success
  refine ⟨run.stages, run.planned, run.length_entries, ?_⟩
  intro index stage present
  obtain ⟨primary, -, primaryPresent, -, -⟩ :=
    nodesOf_grown (run.grown stage (List.mem_of_getElem? present))
  obtain ⟨operand, tensor, first, found⟩ := exists_firstOperand run.valid primaryPresent
  obtain ⟨entry, entryPresent⟩ := run.exists_entry present
  obtain ⟨input, output⟩ := run.shapes present entryPresent primaryPresent first found
  have equalIff : entry.descriptor.outputShape = .ok (resultTensor network stage).shape ↔
      (resultTensor network stage).shape.group = tensor.shape.group := by
    rw [output, Except.ok.injEq]
    constructor
    · intro equal
      exact (congrArg Tensor.Shape.group equal).symm
    · intro equal
      rw [← equal]
  refine ⟨primary, operand, tensor, entry, primaryPresent, first, found, entryPresent, input,
    output, equalIff, ?_⟩
  intro secondary
  rw [equalIff, run.shape_of_isSecondary present primaryPresent first found secondary]

/-- The shapes in the assembled network. -/
theorem blend_shapes :
    ∃ container, assemble .standard blend = .ok container ∧
      ∃ stages, Stage.plan Layout.Policy.standard.fusion blend = .ok stages ∧
        container.entries.length = stages.length ∧
        ∀ (index : Nat) (stage : Stage), stages[index]? = some stage →
          ∃ primary operand tensor entry, blend.nodes[stage.primary]? = some primary ∧
            primary.operands.head? = some operand ∧ blend.tensorOf? operand = some tensor ∧
            container.entries[index]? = some entry ∧
            entry.descriptor.inputShape = .ok tensor.shape ∧
            entry.descriptor.outputShape =
              .ok { (resultTensor blend stage).shape with group := tensor.shape.group } ∧
            (entry.descriptor.outputShape = .ok (resultTensor blend stage).shape ↔
              (resultTensor blend stage).shape.group = tensor.shape.group) ∧
            (primary.operation.isSecondary = true →
              entry.descriptor.outputShape = .ok (resultTensor blend stage).shape) := by
  obtain ⟨container, assembled⟩ := blend_assembled
  exact ⟨container, assembled, shapes_of_assemble assembled⟩

/-- A surface of one group with four planes, as two groups of two planes. -/
def regrouped : Network :=
  { inputs := [⟨⟨1, 1, 4, 8, 8⟩, .half⟩]
    nodes :=
      [ ⟨.reshape, [.input 0], ⟨⟨2, 1, 2, 8, 8⟩, .half⟩, ⟨.identity, ⟨0⟩, ⟨0⟩⟩, none, none⟩ ] }

/-- The groups of its result are lost. -/
theorem groups_lost :
    ∃ container entry stage, assemble .standard regrouped = .ok container ∧
      Stage.plan Layout.Policy.standard.fusion regrouped = .ok [stage] ∧
      container.entries[0]? = some entry ∧
      (resultTensor regrouped stage).shape = ⟨2, 1, 2, 8, 8⟩ ∧
      entry.descriptor.outputShape = .ok ⟨1, 1, 2, 8, 8⟩ := by
  obtain ⟨container, assembled⟩ : ∃ container, assemble .standard regrouped = .ok container :=
    exists_assemble_iff.mpr (by decide +kernel)
  obtain ⟨run⟩ := exists_run assembled
  have planned : Stage.plan Layout.Policy.standard.fusion regrouped = .ok [⟨0, []⟩] := by
    decide +kernel
  have stages := Except.ok.inj (run.planned.symm.trans planned)
  have present : run.stages[0]? = some ⟨0, []⟩ := by rw [stages]; rfl
  obtain ⟨entry, entryPresent⟩ := run.exists_entry present
  exact ⟨container, entry, ⟨0, []⟩, assembled, planned, entryPresent, rfl,
    (run.shapes present entryPresent rfl rfl rfl).2⟩

end Assembly
end TileProgram
