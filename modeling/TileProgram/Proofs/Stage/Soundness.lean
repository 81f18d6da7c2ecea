import TileProgram.Proofs.Descriptor.Soundness
import TileProgram.Proofs.Layout.Allocator
import TileProgram.Proofs.Stage.Registers

/-!
# Encoded stages are sound

The record of a stage whose surfaces have aligned strides is sound.  Its
selector is that of the last node with an activation, so it is valid unless
that activation is a lookup table and no node of the stage has samples.
-/

namespace TileProgram
namespace Stage

open Network Register Assignment

section Sound

/-- Registers of an instruction that may hold any value. -/
def freeNames : List Name :=
  ([SourceLane.first, SourceLane.second].flatMap fun lane =>
      [ Registers.sourceEnabled lane, Registers.sourceBase lane,
        Registers.sourceInterleave lane, (Registers.cacheSource lane).base ]) ++
    [ Registers.destinationEnabled, Registers.destinationBase, Registers.destinationInterleave,
      Registers.cacheResult.base, Registers.group, Registers.inputColumn, Registers.inputRow,
      Registers.inputPlane, Registers.inputDepth, Registers.outputColumn, Registers.outputRow,
      Registers.outputPlane, Registers.outputDepth, Registers.kernelWidth,
      Registers.kernelHeight, Registers.stepAcross, Registers.stepDown,
      Registers.paddingAcross, Registers.paddingDown, Registers.operationType,
      Registers.operationVariant, Registers.foldedCount, Registers.groupCount,
      Registers.multiplyMode, Registers.poolWidth, Registers.poolHeight, Registers.axis,
      Registers.transposeMode, Registers.broadcastMask, Registers.epsilon,
      Registers.residency .first, Registers.residency .second, Registers.residency .result,
      Registers.activationFirst, Registers.activationSecond, Registers.foldedPointwise,
      Registers.biasMode, Registers.bias, Registers.scaleMode, Registers.scale,
      Registers.lookupLength, Registers.taskId, Registers.nextPointer, Registers.nextSize,
      Registers.lastOfNetwork, Registers.endOfNetwork ]

theorem isFree_of_mem : ∀ name ∈ freeNames, name.isFree = true := by
  decide +kernel

/-- Any value is sound for a register that may hold any value. -/
theorem sound_unsigned {name : Name} (member : name ∈ freeNames) (value : Nat) :
    (Assignment.unsigned name value).Sound :=
  Name.allows_of_isFree (isFree_of_mem name member) value

theorem sound_signed {name : Name} (member : name ∈ freeNames) (value : Int) :
    (Assignment.signed name value).Sound :=
  isFree_of_mem name member

/-- The registers of strides that belong to no channel. -/
def strideNames : List Name :=
  ([SourceLane.first, SourceLane.second].flatMap fun lane =>
      [ (Registers.sourceStrides lane).row, (Registers.sourceStrides lane).plane,
        (Registers.sourceStrides lane).depth, (Registers.sourceStrides lane).batch,
        (Registers.cacheSource lane).plane, (Registers.cacheSource lane).row ]) ++
    [ Registers.destinationStrides.row, Registers.destinationStrides.plane,
      Registers.destinationStrides.depth, Registers.destinationStrides.batch,
      Registers.cacheResult.plane, Registers.cacheResult.row ]

theorem alone_of_mem :
    ∀ name ∈ strideNames, name ∉ Registers.formats ∧ name ≠ Registers.activationKind := by
  decide +kernel

/-- An aligned stride is sound. -/
theorem sound_stride
    {name : Name}
    {value : Nat}
    (member : name ∈ strideNames)
    (aligned : Descriptor.strideAlignment ∣ value) :
    (Assignment.unsigned name value).Sound :=
  Name.allows_stride (alone_of_mem name member) aligned

/-- The code of an element type is sound for a format. -/
theorem sound_format
    {name : Name}
    (member : name ∈ Registers.formats)
    (type : Tensor.ElementType) :
    (Assignment.unsigned name type.code).Sound := by
  have other : ∀ name ∈ Registers.formats,
      name.isStride = false ∧ name ≠ Registers.activationKind := by
    decide +kernel
  obtain ⟨noStride, different⟩ := other name member
  constructor
  · intro isStride
    cases noStride.symm.trans isStride
  · intro _
    cases type <;> decide
  · intro equal
    exact absurd equal different

/-- The code of an activation is sound for the selector. -/
theorem sound_activation (kind : Activation.Kind) :
    (Assignment.unsigned Registers.activationKind kind.code).Sound := by
  have other : Registers.activationKind.isStride = false ∧
      Registers.activationKind ∉ Registers.formats := by
    decide +kernel
  constructor
  · intro isStride
    cases other.1.symm.trans isStride
  · intro member
    exact absurd member other.2
  · intro _
    cases kind <;> decide

/-- The letter t is in the word for strides, but neither in a numeral nor in the
labels of channels. -/
theorem isFree_indexed
    {label rest : String}
    (labelFree : 't' ∉ label.toList)
    (restFree : 't' ∉ rest.toList)
    (channel : Nat) :
    (Name.mk .kernelSource (Standard.indexed label channel rest)).isFree = true := by
  have numeral : 't' ∉ Nat.toDigits 10 channel := by
    intro member
    have digit := Nat.isDigit_of_mem_toDigits (by decide) (by decide) member
    exact absurd digit (by decide)
  have absent : 't' ∉ (Standard.indexed label channel rest).toList := by
    simp [Standard.indexed, labelFree, restFree, numeral]
  have noStride : (Name.mk .kernelSource (Standard.indexed label channel rest)).isStride =
      false := by
    rw [Name.isStride, ← Bool.not_eq_true]
    intro occurs
    exact absent ((Field.occursIn_iff.mp occurs).subset (by decide))
  simp [Name.isFree, noStride, Registers.formats, Registers.inputFormat,
    Registers.secondFormat, Registers.outputFormat, Registers.activationKind]

/-- The assignments of channels are sound. -/
theorem sound_channels (first : Nat) (channels : List ChannelData) :
    ∀ assignment ∈ Binding.channelAssignments first channels, assignment.Sound := by
  induction channels generalizing first with
  | nil => simp [Binding.channelAssignments]
  | cons data rest inductionHypothesis =>
      rw [Binding.channelAssignments, List.forall_mem_append]
      refine ⟨?_, inductionHypothesis (first + 1)⟩
      simp only [Descriptor.channelAssignments, List.forall_mem_cons, List.not_mem_nil,
        false_imp_iff, implies_true, and_true]
      exact ⟨Name.allows_of_isFree (isFree_indexed (by decide) (by decide) _) _,
        Name.allows_of_isFree (isFree_indexed (by decide) (by decide) _) _,
        Name.allows_of_isFree (isFree_indexed (by decide) (by decide) _) _⟩

/-- The assignments of aligned strides are sound. -/
theorem sound_strides
    {names : Registers.StrideNames}
    {strides : Strides}
    (members : [names.row, names.plane, names.depth, names.batch] ⊆ strideNames)
    (aligned : strides.Aligned) :
    ∀ assignment ∈ Descriptor.strideAssignments names strides, assignment.Sound := by
  simp only [Descriptor.strideAssignments, List.forall_mem_cons, List.not_mem_nil,
    false_imp_iff, implies_true, and_true]
  exact ⟨sound_stride (members (by simp)) aligned.row,
    sound_stride (members (by simp)) aligned.plane,
    sound_stride (members (by simp)) aligned.depth,
    sound_stride (members (by simp)) aligned.batch⟩

/-- So are those of the cached view of a surface with aligned strides. -/
theorem sound_cached
    {names : Registers.CacheNames}
    {surface : StridedSurface}
    (base : names.base ∈ freeNames)
    (members : [names.plane, names.row] ⊆ strideNames)
    (aligned : surface.strides.Aligned) :
    ∀ assignment ∈ Descriptor.cacheAssignments names surface, assignment.Sound := by
  simp only [Descriptor.cacheAssignments, List.forall_mem_cons, List.not_mem_nil,
    false_imp_iff, implies_true, and_true]
  exact ⟨sound_unsigned base _, sound_stride (members (by simp)) aligned.plane,
    sound_stride (members (by simp)) aligned.row⟩

/-- The assignments of a source are sound when its strides are aligned. -/
theorem sound_source
    {binding : Binding}
    (aligned : ∀ input ∈ binding.inputs, input.surface.strides.Aligned)
    (lane : SourceLane)
    (index : Nat) :
    ∀ assignment ∈ binding.sourceAssignments lane index, assignment.Sound := by
  unfold Binding.sourceAssignments
  split
  · simp
  · next input present =>
      have here := aligned input (List.mem_of_getElem? present)
      simp only [Descriptor.sourceAssignments, List.forall_mem_append, List.forall_mem_cons,
        List.not_mem_nil, false_imp_iff, implies_true, and_true]
      cases lane <;>
        exact ⟨⟨⟨⟨sound_unsigned (by simp [freeNames]) _, sound_unsigned (by simp [freeNames]) _⟩,
          sound_strides (by simp [strideNames]) here⟩, sound_unsigned (by simp [freeNames]) _⟩,
          sound_cached (by simp [freeNames]) (by simp [strideNames]) here⟩

/-- So are those of the result. -/
theorem sound_destination
    {surface : StridedSurface}
    (aligned : surface.strides.Aligned) :
    (∀ assignment ∈ Descriptor.destinationAssignments surface, assignment.Sound) ∧
      ∀ assignment ∈ Descriptor.cacheAssignments Registers.cacheResult surface,
        assignment.Sound := by
  simp only [Descriptor.destinationAssignments, List.forall_mem_append, List.forall_mem_cons,
    List.not_mem_nil, false_imp_iff, implies_true, and_true]
  exact ⟨⟨⟨⟨sound_unsigned (by simp [freeNames]) _, sound_unsigned (by simp [freeNames]) _⟩,
    sound_strides (by simp [strideNames]) aligned⟩, sound_unsigned (by simp [freeNames]) _⟩,
    sound_cached (by simp [freeNames]) (by simp [strideNames]) aligned⟩

/-- The assignments of the parameters of an operation are sound. -/
theorem sound_primary (operation : Operation) :
    ∀ assignment ∈ primaryAssignments operation, assignment.Sound := by
  unfold primaryAssignments
  cases operation with
  | pointwise operator => cases operator <;> simp [sound_unsigned, freeNames]
  | _ =>
      simp [Descriptor.windowAssignments, scaleBiasAssignments, Descriptor.scaleAssignments,
        Descriptor.biasAssignments, sound_unsigned, sound_signed, freeNames]

/-- The assignments of a folded operation are sound. -/
theorem sound_folded (operation : Operation) :
    ∀ assignment ∈ foldedAssignments operation, assignment.Sound := by
  unfold foldedAssignments
  cases operation with
  | _ =>
      simp [scaleBiasAssignments, Descriptor.scaleAssignments, Descriptor.biasAssignments,
        sound_unsigned, freeNames]

/-- The assignments of an activation are sound. -/
theorem sound_activationAssignments (node : Node) :
    ∀ assignment ∈ activationAssignments node, assignment.Sound := by
  unfold activationAssignments
  split
  · simp
  · simp only [Descriptor.activationAssignments, List.forall_mem_append, List.forall_mem_cons,
      List.not_mem_nil, false_imp_iff, implies_true, and_true]
    refine ⟨⟨sound_activation _, sound_unsigned (by simp [freeNames]) _,
      sound_unsigned (by simp [freeNames]) _⟩, ?_⟩
    split
    · simp
    · simp [sound_unsigned, freeNames]

/-- All assignments of a stage are sound when the strides of its surfaces are aligned. -/
theorem sound_assignments
    {primary : Node}
    {folded : List Node}
    {binding : Binding}
    (aligned : ∀ input ∈ binding.inputs, input.surface.strides.Aligned)
    (outputAligned : binding.output.surface.strides.Aligned) :
    ∀ assignment ∈ assignments primary folded binding, assignment.Sound := by
  obtain ⟨destination, cached⟩ := sound_destination outputAligned
  have inputShape : ∀ assignment ∈ binding.inputShapeAssignments, assignment.Sound := by
    unfold Binding.inputShapeAssignments
    split
    · simp
    · simp [Descriptor.inputAssignments, sound_unsigned, freeNames]
  have types : ∀ assignment ∈ binding.typeAssignments, assignment.Sound := by
    simp only [Binding.typeAssignments, Descriptor.typeAssignments, List.forall_mem_cons,
      List.not_mem_nil, false_imp_iff, implies_true, and_true]
    exact ⟨sound_format (by simp [Registers.formats]) _,
      sound_format (by simp [Registers.formats]) _, sound_format (by simp [Registers.formats]) _⟩
  have outputShape : ∀ assignment ∈ Descriptor.outputAssignments binding.output.tensor.shape,
      assignment.Sound := by
    simp [Descriptor.outputAssignments, sound_unsigned, freeNames]
  have hints : ∀ assignment ∈ binding.hintAssignments, assignment.Sound := by
    simp [Binding.hintAssignments, Descriptor.residencyAssignments, sound_unsigned, freeNames]
  have operation : ∀ assignment ∈ Descriptor.operationAssignments primary.operation.classCode
      primary.operation.variantCode (min folded.length greatestFoldedCount),
      assignment.Sound := by
    simp [Descriptor.operationAssignments, sound_unsigned, freeNames]
  have nodes : ∀ assignment ∈ folded.flatMap fun node =>
      foldedAssignments node.operation ++ activationAssignments node, assignment.Sound := by
    simp only [List.mem_flatMap, List.mem_append]
    rintro assignment ⟨node, -, member | member⟩
    · exact sound_folded _ _ member
    · exact sound_activationAssignments _ _ member
  simp only [assignments, Binding.assignments, Binding.outputAssignments,
    List.forall_mem_append]
  exact ⟨⟨⟨⟨⟨⟨⟨⟨⟨⟨sound_channels 0 _, sound_source aligned .first 0⟩, inputShape⟩,
    sound_source aligned .second 1⟩, types⟩, ⟨outputShape, destination⟩, cached⟩, hints⟩,
    sound_primary _⟩, sound_activationAssignments _⟩, nodes⟩, operation⟩

end Sound

section Validity

variable {primary : Node} {folded : List Node} {binding : Binding} {index : Nat}
  {record : Descriptor}

/-- The record of a stage whose surfaces have aligned strides is sound. -/
theorem sound_of_encode
    (aligned : ∀ input ∈ binding.inputs, input.surface.strides.Aligned)
    (outputAligned : binding.output.surface.strides.Aligned)
    (success : encode index (primary :: folded) binding = .ok record) :
    record.Sound := by
  obtain ⟨first, others, descriptor, equal, -, assigned, rfl⟩ := encode_eq_ok success
  cases equal
  have sound : descriptor.Sound := Descriptor.sound_empty.assigned Table.standard_separate
    (sound_assignments aligned outputAligned) assigned
  exact sound

/-- The last node of a stage with an activation. -/
def lastActive? (nodes : List Node) : Option Node :=
  (nodes.filter fun node => !node.activation.isNone).getLast?

/-- The activation that the record of a stage selects. -/
def selected (nodes : List Node) : Activation.Kind :=
  ((lastActive? nodes).map fun node => node.activation.kind).getD .identity

/-- Whether the activation of a stage needs a lookup table that no node has. -/
def tableMissing (nodes : List Node) : Bool :=
  (selected nodes).needsTable && (lookup? nodes).isNone

/-- A later node with an activation prevails over an earlier one. -/
theorem lastActive?_cons (node : Node) (rest : List Node) :
    lastActive? (node :: rest) =
      (lastActive? rest).or (if node.activation.isNone then none else some node) := by
  unfold lastActive?
  cases active : node.activation.isNone with
  | true => simp [active]
  | false =>
      rw [List.filter_cons, if_pos (by simp [active]), List.getLast?_cons]
      cases (rest.filter fun node => !node.activation.isNone).getLast? with
      | none => rfl
      | some final => rfl

/-- The activation of a node selects its kind, if there is one. -/
theorem last?_activationKind_activation (node : Node) :
    last? Registers.activationKind (activationAssignments node) =
      if node.activation.isNone then none
      else some (.unsigned node.activation.kind.code) := by
  unfold activationAssignments
  split
  · rfl
  · cases tableOf? node with
    | none =>
        simp [Descriptor.activationAssignments, Registers.activationKind,
          Registers.activationFirst, Registers.activationSecond]
    | some table =>
        simp [Descriptor.activationAssignments, Registers.activationKind,
          Registers.activationFirst, Registers.activationSecond, Registers.lookupLength]

/-- The activation that is selected last is that of the last node with one. -/
theorem last?_activationKind (nodes : List Node) :
    last? Registers.activationKind (nodes.flatMap fun node =>
        foldedAssignments node.operation ++ activationAssignments node) =
      (lastActive? nodes).map fun node => .unsigned node.activation.kind.code := by
  induction nodes with
  | nil => rfl
  | cons node rest inductionHypothesis =>
      rw [List.flatMap_cons, last?_append, inductionHypothesis, last?_append,
        last?_activationKind_activation, last?_folded (by simp [activationNames]), Option.or_none,
        lastActive?_cons, Option.map_or]
      cases node.activation.isNone <;> rfl

/-- The record of a stage selects the activation of its last node with one. -/
theorem activationKind_of_encode
    (success : encode index (primary :: folded) binding = .ok record) :
    record.get Registers.activationKind = .ok (selected (primary :: folded)).code := by
  have last : last? Registers.activationKind (share .engine primary folded binding) =
      (lastActive? (primary :: folded)).map fun node =>
        .unsigned node.activation.kind.code := by
    show last? _ (primaryAssignments primary.operation ++ activationAssignments primary ++ _) = _
    rw [last?_append, last?_append, last?_activationKind,
      last?_primary (by simp [activationNames]), last?_activationKind_activation, Option.or_none,
      lastActive?_cons, Option.map_or]
    cases primary.activation.isNone <;> rfl
  unfold selected
  cases active : lastActive? (primary :: folded) with
  | none =>
      rw [active] at last
      exact get_of_share_none success (show Table.standard.lookup Registers.activationKind =
        .ok (Standard.unsigned .engine "MACCfg.NonlinearMode" 562 0 6) from rfl) last
  | some node =>
      rw [active] at last
      exact get_of_share success last

/-- The record of a stage with aligned surfaces is valid unless a lookup table is missing. -/
theorem validate_of_encode
    (aligned : ∀ input ∈ binding.inputs, input.surface.strides.Aligned)
    (outputAligned : binding.output.surface.strides.Aligned)
    (success : encode index (primary :: folded) binding = .ok record) :
    record.validate =
      if tableMissing (primary :: folded) then .error .missingTable else .ok () := by
  rw [(sound_of_encode aligned outputAligned success).validate_eq
    (activationKind_of_encode success), (lookup_of_encode success).2.1]
  rfl

end Validity
end Stage
end TileProgram
