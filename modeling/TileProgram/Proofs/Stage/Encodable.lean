import TileProgram.Proofs.Descriptor.Assignments
import TileProgram.Stage.Encoding

/-!
# When stages can be encoded

A stage can be encoded when its operands and weights have channels, the shapes
agree, and the registers have room for the extents, the parameters of the
operations and the counts.  Everything else that is assigned has room whatever
it is, so neither addresses nor residency hints matter.
-/

namespace TileProgram
namespace Stage

open Network Register

/-- Whether the shapes of operands agree with the operation of a node. -/
def shapesAgree (node : Node) (operands : List Tensor) : Bool :=
  match node.operation with
  | .pointwise _ => operands.all fun operand => operand.shape == node.output.shape
  | .scaleBias _ _ => operands.all fun operand => operand.shape == node.output.shape
  | .activation => operands.all fun operand => operand.shape == node.output.shape
  | .reshape =>
      operands.head?.all fun operand =>
        operand.shape.elementCount == node.output.shape.elementCount
  | _ => true

/-- No operand has another shape exactly when all have the same. -/
theorem find?_shape_eq_none_iff {inputs : List Placed} {shape : Tensor.Shape} :
    (inputs.find? fun input => input.tensor.shape != shape) = none ↔
      ((inputs.map Placed.tensor).all fun operand => operand.shape == shape) = true := by
  simp

/-- The shapes of a node have no defect exactly when they agree. -/
theorem shapeDefect?_eq_none_iff {node : Node} {inputs : List Placed} :
    shapeDefect? node inputs = none ↔ shapesAgree node (inputs.map Placed.tensor) = true := by
  unfold shapeDefect? shapesAgree
  cases node.operation with
  | pointwise operator => exact Option.map_eq_none_iff.trans find?_shape_eq_none_iff
  | scaleBias scale bias => exact Option.map_eq_none_iff.trans find?_shape_eq_none_iff
  | activation => exact Option.map_eq_none_iff.trans find?_shape_eq_none_iff
  | reshape =>
      cases inputs with
      | nil => simp
      | cons input rest => simp
  | _ => simp

/-- The assignments of a stage whose amounts may have no room: the extents, the
parameters of the operations and the count of folded ones. -/
def demandingAssignments (primary : Node) (folded : List Node) (inputs : List Tensor)
    (output : Tensor) : List Assignment :=
  (inputs.head?.toList.flatMap fun input => Descriptor.inputAssignments input.shape) ++
    Descriptor.outputAssignments output.shape ++ primaryAssignments primary.operation ++
    (primary :: folded).flatMap activationAssignments ++
    [.unsigned Registers.foldedCount (min folded.length greatestFoldedCount)]

/-- The demanding assignments have room when each part of them has. -/
theorem takes_demanding_iff
    {primary : Node}
    {folded : List Node}
    {inputs : List Tensor}
    {output : Tensor} :
    Table.standard.Takes (demandingAssignments primary folded inputs output) ↔
      (∀ input, inputs.head? = some input →
          Table.standard.Takes (Descriptor.inputAssignments input.shape)) ∧
        Table.standard.Takes (Descriptor.outputAssignments output.shape) ∧
        Table.standard.Takes (primaryAssignments primary.operation) ∧
        (∀ node ∈ primary :: folded, Table.standard.Takes (activationAssignments node)) ∧
        (Assignment.unsigned Registers.foldedCount
          (min folded.length greatestFoldedCount)).hasRoom .standard = true := by
  simp only [demandingAssignments, Table.takes_append, Table.takes_flatMap, Table.takes_cons,
    Table.takes_nil, Option.mem_toList, and_true, and_assoc]

/-- What has to hold of a stage for it to be encoded, wherever its operands and
its result lie. -/
structure Encodable (primary : Node) (folded : List Node) (inputs : List Tensor)
    (output : Tensor) (weighted : Bool) : Prop where
  channels : inputs.length + weighted.toNat ≤ Standard.channelCount
  shapes : shapesAgree primary (inputs.take primary.operands.length) = true
  demands : Table.standard.Takes (demandingAssignments primary folded inputs output)

section Room

/-- The registers of 32 bits that do not belong to channels. -/
def wideNames : List Name :=
  ([SourceLane.first, SourceLane.second].flatMap fun lane =>
      [ Registers.sourceBase lane, (Registers.sourceStrides lane).row,
        (Registers.sourceStrides lane).plane, (Registers.sourceStrides lane).depth,
        (Registers.sourceStrides lane).batch, (Registers.cacheSource lane).base,
        (Registers.cacheSource lane).plane, (Registers.cacheSource lane).row ]) ++
    [ Registers.destinationBase, Registers.destinationStrides.row,
      Registers.destinationStrides.plane, Registers.destinationStrides.depth,
      Registers.destinationStrides.batch, Registers.cacheResult.base,
      Registers.cacheResult.plane, Registers.cacheResult.row ]

theorem width_wide :
    ∀ name ∈ wideNames, (Table.standard.find? name).map Field.width = some 32 := by
  decide +kernel

/-- An address or a stride has room in its register. -/
theorem hasRoom_wide
    {name : Name}
    (member : name ∈ wideNames)
    (value : UInt32) :
    (Assignment.unsigned name value.toNat).hasRoom .standard = true :=
  Table.hasRoom_unsigned (width_wide name member) value.toNat_lt

theorem width_channel :
    ∀ channel < Standard.channelCount,
      (Table.standard.find? (Registers.channelEnabled channel)).map Field.width = some 1 ∧
        (Table.standard.find? (Registers.channelOffset channel)).map Field.width = some 32 ∧
        (Table.standard.find? (Registers.channelLength channel)).map Field.width = some 32 := by
  decide +kernel

/-- The data of every channel there is has room. -/
theorem takes_channels
    {first : Nat}
    {channels : List ChannelData}
    (few : first + channels.length ≤ Standard.channelCount) :
    Table.standard.Takes (Binding.channelAssignments first channels) := by
  induction channels generalizing first with
  | nil => exact Table.takes_nil
  | cons data rest inductionHypothesis =>
      rw [List.length_cons] at few
      obtain ⟨enabled, offset, length⟩ := width_channel first (by omega)
      rw [Binding.channelAssignments, Table.takes_append]
      refine ⟨?_, inductionHypothesis (by omega)⟩
      simp only [Descriptor.channelAssignments, Table.takes_cons, Table.takes_nil, and_true]
      exact ⟨Table.hasRoom_unsigned enabled (by decide),
        Table.hasRoom_unsigned offset data.offset.toNat_lt,
        Table.hasRoom_unsigned length data.length.toNat_lt⟩

/-- Registers of few bits whose values are bounded, with their widths. -/
def narrowNames : List (Name × Nat) :=
  [ (Registers.sourceEnabled .first, 1), (Registers.sourceEnabled .second, 1),
    (Registers.destinationEnabled, 1), (Registers.sourceInterleave .first, 4),
    (Registers.sourceInterleave .second, 4), (Registers.destinationInterleave, 4),
    (Registers.inputFormat, 2), (Registers.secondFormat, 2), (Registers.outputFormat, 2),
    (Registers.residency .first, 2), (Registers.residency .second, 2),
    (Registers.residency .result, 2), (Registers.foldedPointwise, 3),
    (Registers.scaleMode, 1), (Registers.scale, 16), (Registers.biasMode, 1),
    (Registers.bias, 16), (Registers.operationType, 5), (Registers.operationVariant, 4) ]

theorem width_narrow :
    ∀ pair ∈ narrowNames, (Table.standard.find? pair.1).map Field.width = some pair.2 := by
  decide +kernel

/-- A value that is small enough has room in a register of few bits. -/
theorem hasRoom_narrow
    {name : Name}
    {value : Nat}
    (width : Nat)
    (member : (name, width) ∈ narrowNames)
    (fits : value < Nat.pow 2 width) :
    (Assignment.unsigned name value).hasRoom .standard = true :=
  Table.hasRoom_unsigned (width_narrow _ member) fits

/-- The places of sources have room. -/
theorem takes_source
    {binding : Binding}
    (interleaved : ∀ input ∈ binding.inputs, input.surface.interleave.toNat < 16)
    (lane : SourceLane)
    (index : Nat) :
    Table.standard.Takes (binding.sourceAssignments lane index) := by
  unfold Binding.sourceAssignments
  split
  · exact Table.takes_nil
  · next input present =>
      have small := interleaved input (List.mem_of_getElem? present)
      have enabled : (Assignment.unsigned (Registers.sourceEnabled lane) 1).hasRoom .standard :=
        hasRoom_narrow 1 (by cases lane <;> simp [narrowNames]) (by decide)
      have interleave : (Assignment.unsigned (Registers.sourceInterleave lane)
          input.surface.interleave.toNat).hasRoom .standard :=
        hasRoom_narrow 4 (by cases lane <;> simp [narrowNames]) small
      cases lane <;>
        simp [Descriptor.sourceAssignments, Descriptor.strideAssignments,
          Descriptor.cacheAssignments, hasRoom_wide, wideNames, enabled, interleave]

/-- The codes of element types have room. -/
theorem takes_types (binding : Binding) : Table.standard.Takes binding.typeAssignments := by
  have small : ∀ type : Tensor.ElementType, type.code < Nat.pow 2 2 := by
    intro type
    cases type <;> decide
  simp only [Binding.typeAssignments, Descriptor.typeAssignments, Table.takes_cons,
    Table.takes_nil, and_true]
  exact ⟨hasRoom_narrow 2 (by simp [narrowNames]) (small _),
    hasRoom_narrow 2 (by simp [narrowNames]) (small _),
    hasRoom_narrow 2 (by simp [narrowNames]) (small _)⟩

/-- The place of the result has room. -/
theorem takes_destination
    {surface : StridedSurface}
    (interleaved : surface.interleave.toNat < 16) :
    Table.standard.Takes (Descriptor.destinationAssignments surface) ∧
      Table.standard.Takes (Descriptor.cacheAssignments Registers.cacheResult surface) := by
  have enabled : (Assignment.unsigned Registers.destinationEnabled 1).hasRoom .standard :=
    hasRoom_narrow 1 (by simp [narrowNames]) (by decide)
  have interleave : (Assignment.unsigned Registers.destinationInterleave
      surface.interleave.toNat).hasRoom .standard :=
    hasRoom_narrow 4 (by simp [narrowNames]) interleaved
  simp [Descriptor.destinationAssignments, Descriptor.strideAssignments,
    Descriptor.cacheAssignments, hasRoom_wide, wideNames, enabled, interleave]

/-- The codes of residency hints have room. -/
theorem takes_hints (binding : Binding) : Table.standard.Takes binding.hintAssignments := by
  have small : ∀ hint : Residency.Hint, hint.code < Nat.pow 2 2 := by
    intro hint
    cases hint <;> decide
  simp only [Binding.hintAssignments, Descriptor.residencyAssignments, Table.takes_append,
    Table.takes_cons, Table.takes_nil, and_true]
  exact ⟨⟨hasRoom_narrow 2 (by simp [narrowNames]) (small _),
    hasRoom_narrow 2 (by simp [narrowNames]) (small _)⟩,
    hasRoom_narrow 2 (by simp [narrowNames]) (small _)⟩

/-- The parameters of folded operations have room. -/
theorem takes_folded (operation : Operation) :
    Table.standard.Takes (foldedAssignments operation) := by
  cases operation with
  | scaleBias scale bias =>
      simp only [foldedAssignments, scaleBiasAssignments, Descriptor.scaleAssignments,
        Descriptor.biasAssignments, Table.takes_append, Table.takes_cons, Table.takes_nil,
        and_true]
      exact ⟨⟨hasRoom_narrow 1 (by simp [narrowNames]) (by decide),
        hasRoom_narrow 16 (by simp [narrowNames]) scale.toHalf.bits.toNat_lt⟩,
        hasRoom_narrow 1 (by simp [narrowNames]) (by decide),
        hasRoom_narrow 16 (by simp [narrowNames]) bias.toHalf.bits.toNat_lt⟩
  | pointwise operator =>
      simp only [foldedAssignments, Table.takes_cons, Table.takes_nil, and_true]
      exact hasRoom_narrow 3 (by simp [narrowNames]) (by cases operator <;> decide)
  | _ => exact Table.takes_nil

/-- The codes of operations have room. -/
theorem hasRoom_operation (operation : Operation) :
    (Assignment.unsigned Registers.operationType operation.classCode).hasRoom .standard = true ∧
      (Assignment.unsigned Registers.operationVariant operation.variantCode).hasRoom .standard =
        true := by
  have class_ : operation.classCode < Nat.pow 2 5 := by
    cases operation <;> simp [Operation.classCode]
  have variant : operation.variantCode < Nat.pow 2 4 := by
    cases operation with
    | pooling mode kernel stride => cases mode <;> simp [Operation.variantCode, PoolMode.code]
    | pointwise operator => cases operator <;> simp [Operation.variantCode, Pointwise.code]
    | normalization kind epsilon => cases kind <;> simp [Operation.variantCode, NormKind.code]
    | _ => simp [Operation.variantCode]
  exact ⟨hasRoom_narrow 5 (by simp [narrowNames]) class_,
    hasRoom_narrow 4 (by simp [narrowNames]) variant⟩

/-- The assignments of a stage have room exactly when the demanding ones have. -/
theorem takes_assignments_iff
    {primary : Node}
    {folded : List Node}
    {binding : Binding}
    (few : binding.channels.length ≤ Standard.channelCount)
    (interleaved : ∀ input ∈ binding.inputs, input.surface.interleave.toNat < 16)
    (outputInterleaved : binding.output.surface.interleave.toNat < 16) :
    Table.standard.Takes (assignments primary folded binding) ↔
      Table.standard.Takes (demandingAssignments primary folded
        (binding.inputs.map Placed.tensor) binding.output.tensor) := by
  have channels := takes_channels (show 0 + binding.channels.length ≤ _ by omega)
  have first := takes_source interleaved .first 0
  have second := takes_source interleaved .second 1
  have types := takes_types binding
  obtain ⟨destination, cached⟩ := takes_destination outputInterleaved
  have hints := takes_hints binding
  obtain ⟨class_, variant⟩ := hasRoom_operation primary.operation
  have shape : binding.inputShapeAssignments =
      (binding.inputs.map Placed.tensor).head?.toList.flatMap fun input =>
        Descriptor.inputAssignments input.shape := by
    unfold Binding.inputShapeAssignments
    cases binding.inputs with
    | nil => rfl
    | cons input rest => simp
  simp only [assignments, Binding.assignments, Binding.outputAssignments, demandingAssignments,
    Descriptor.operationAssignments, Table.takes_append, Table.takes_cons, Table.takes_nil,
    Table.takes_flatMap, List.forall_mem_cons, channels, first, second, types, destination, cached,
    hints, class_, variant, takes_folded, shape, true_and, and_true]
  tauto

end Room

/-- A stage is encoded exactly when it can be. -/
theorem exists_encode_iff
    {index : Nat}
    {primary : Node}
    {folded : List Node}
    {binding : Binding}
    (interleaved : ∀ input ∈ binding.inputs, input.surface.interleave.toNat < 16)
    (outputInterleaved : binding.output.surface.interleave.toNat < 16) :
    (∃ record, encode index (primary :: folded) binding = .ok record) ↔
      Encodable primary folded (binding.inputs.map Placed.tensor) binding.output.tensor
        binding.weights.isSome := by
  have lengthEq : binding.channels.length =
      (binding.inputs.map Placed.tensor).length + binding.weights.isSome.toNat := by
    rw [Binding.channels, List.length_append, List.length_map, List.length_map]
    cases binding.weights <;> rfl
  have run := Descriptor.exists_assigned_iff .empty (assignments primary folded binding)
  unfold encode
  dsimp only
  constructor
  · rintro ⟨record, success⟩
    split at success
    · cases success
    next few =>
      split at success
      · cases success
      next agree =>
        split at success
        · cases success
        next descriptor assigned =>
          have few : binding.channels.length ≤ Standard.channelCount := Nat.le_of_not_lt few
          have agree := shapeDefect?_eq_none_iff.mp agree
          rw [List.map_take] at agree
          have room := run.mp ⟨descriptor, assigned⟩
          exact ⟨lengthEq ▸ few, agree,
            (takes_assignments_iff few interleaved outputInterleaved).mp room⟩
  · intro encodable
    have few : binding.channels.length ≤ Standard.channelCount := lengthEq ▸ encodable.channels
    have agree : shapeDefect? primary (binding.inputs.take primary.operands.length) = none := by
      rw [shapeDefect?_eq_none_iff, List.map_take]
      exact encodable.shapes
    obtain ⟨descriptor, assigned⟩ := run.mpr
      ((takes_assignments_iff few interleaved outputInterleaved).mpr encodable.demands)
    rw [if_neg (Nat.not_lt_of_le few), agree]
    dsimp only
    rw [assigned]
    exact ⟨_, rfl⟩

end Stage
end TileProgram
