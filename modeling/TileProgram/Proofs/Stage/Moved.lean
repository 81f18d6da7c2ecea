import TileProgram.Proofs.Descriptor.Moved
import TileProgram.Proofs.Stage.Registers

/-!
# Stages whose surfaces are moved

The record of a stage holds device addresses in few registers: those of the
kernel channels and sources of its operands, of its destination and of the
cached views.  When all surfaces of a stage are moved by the same distance,
these registers are, and nothing else in the record changes.
-/

namespace TileProgram
namespace Stage

open Network Assignment Register

/-- A place in device memory and the place that is moved. -/
structure Placed.Moved (source target : Nat) (first second : Placed) : Prop where
  tensor : second.tensor = first.tensor
  size : second.size = first.size
  strides : second.surface.strides = first.surface.strides
  interleave : second.surface.interleave = first.surface.interleave
  base : first.surface.base.toNat + target = second.surface.base.toNat + source

/-- The same stage with all its surfaces moved. -/
structure Binding.Moved (source target : Nat) (first second : Binding) : Prop where
  inputs : List.Forall₂ (Placed.Moved source target) first.inputs second.inputs
  output : Placed.Moved source target first.output second.output
  weights : second.weights = first.weights
  hints : second.hints = first.hints

/-- The registers with the addresses of sources, of the destination and of cached views. -/
def surfaceAddressNames (operands : Nat) : List Name :=
  ([SourceLane.first, .second].filter fun lane => operandOf lane < operands).flatMap (fun lane =>
      [Registers.sourceBase lane, (Registers.cacheSource lane).base]) ++
    [Registers.destinationBase, Registers.cacheResult.base]

/-- The registers of a record with a given number of operands that hold device addresses. -/
def addressNames (operands : Nat) : List Name :=
  (List.range operands).map Registers.channelOffset ++ surfaceAddressNames operands

/-- A register with the address of a surface has it for an operand of a record or for the result. -/
theorem mem_of_mem_surfaceAddressNames {operands : Nat} :
    ∀ name ∈ surfaceAddressNames operands, name ∈ surfaceAddressNames 2 := by
  intro name member
  rcases List.mem_append.mp member with source | result
  · obtain ⟨lane, -, names⟩ := List.mem_flatMap.mp source
    refine List.mem_append_left _ (List.mem_flatMap.mpr ⟨lane, ?_, names⟩)
    cases lane <;> decide
  · exact List.mem_append_right _ result

/-- No surface is addressed by a register of the regions that describe kernels,
shapes and operations. -/
theorem region_of_mem_surfaceAddressNames :
    ∀ name ∈ surfaceAddressNames 2,
      name.region ∉ [Region.kernelSource, .header, .common, .engine] := by
  decide

variable {operands : Nat} {name : Name}

/-- A register of another region than the kernel channels, and not with the
address of a surface, holds no address. -/
theorem not_mem_addressNames
    (region : name.region ≠ .kernelSource)
    (other : name ∉ surfaceAddressNames 2) :
    name ∉ addressNames operands := by
  intro member
  rcases List.mem_append.mp member with channel | surface
  · obtain ⟨index, -, rfl⟩ := List.mem_map.mp channel
    exact region rfl
  · exact other (mem_of_mem_surfaceAddressNames name surface)

/-- Only some regions have registers with addresses. -/
theorem not_mem_addressNames_of_region
    (region : name.region ∈ [Region.header, .common, .engine]) :
    name ∉ addressNames operands := by
  apply not_mem_addressNames
  · intro same
    rw [same] at region
    revert region
    decide
  · exact fun member => region_of_mem_surfaceAddressNames name member (List.mem_cons_of_mem _ region)

/-- Of the registers of kernel channels only offsets of operands are addresses. -/
theorem exists_of_mem_addressNames
    (member : name ∈ addressNames operands)
    (region : name.region = .kernelSource) :
    ∃ channel < operands, name = Registers.channelOffset channel := by
  rcases List.mem_append.mp member with offset | surface
  · obtain ⟨channel, inside, rfl⟩ := List.mem_map.mp offset
    exact ⟨channel, List.mem_range.mp inside, rfl⟩
  · refine absurd ?_ (region_of_mem_surfaceAddressNames _ (mem_of_mem_surfaceAddressNames _ surface))
    rw [region]
    exact List.mem_cons_self

/-- The offset of a kernel channel is an address when an operand is read through it. -/
theorem channelOffset_mem_iff {channel : Nat} :
    Registers.channelOffset channel ∈ addressNames operands ↔ channel < operands := by
  constructor
  · intro member
    obtain ⟨other, inside, same⟩ := exists_of_mem_addressNames member rfl
    rw [Registers.channelOffset_inj] at same
    exact same ▸ inside
  · intro inside
    exact List.mem_append_left _ (List.mem_map_of_mem (List.mem_range.mpr inside))

theorem channelEnabled_not_mem (channel : Nat) :
    Registers.channelEnabled channel ∉ addressNames operands := by
  intro member
  obtain ⟨other, -, same⟩ := exists_of_mem_addressNames member rfl
  exact Registers.channelEnabled_ne_offset channel other same

theorem channelLength_not_mem (channel : Nat) :
    Registers.channelLength channel ∉ addressNames operands := by
  intro member
  obtain ⟨other, -, same⟩ := exists_of_mem_addressNames member rfl
  exact Registers.channelOffset_ne_length other channel same.symm

/-- The base of a source is an address when there is an operand to read. -/
theorem sourceBases_mem
    {lane : SourceLane}
    (inside : operandOf lane < operands) :
    Registers.sourceBase lane ∈ addressNames operands ∧
      (Registers.cacheSource lane).base ∈ addressNames operands := by
  have chosen : lane ∈ [SourceLane.first, .second].filter fun lane => operandOf lane < operands := by
    rw [List.mem_filter]
    refine ⟨?_, decide_eq_true inside⟩
    cases lane <;> decide
  constructor
  · exact List.mem_append_right _ (List.mem_append_left _
      (List.mem_flatMap.mpr ⟨lane, chosen, List.mem_cons_self⟩))
  · exact List.mem_append_right _ (List.mem_append_left _
      (List.mem_flatMap.mpr ⟨lane, chosen, List.mem_cons_of_mem _ List.mem_cons_self⟩))

theorem destinationBases_mem (operands : Nat) :
    Registers.destinationBase ∈ addressNames operands ∧
      Registers.cacheResult.base ∈ addressNames operands := by
  simp [addressNames, surfaceAddressNames]

/-- The other registers of sources and cached views hold no addresses. -/
theorem sourceNames_not_mem (lane : SourceLane) :
    ∀ name ∈ [Registers.sourceEnabled lane, (Registers.sourceStrides lane).row,
        (Registers.sourceStrides lane).plane, (Registers.sourceStrides lane).depth,
        (Registers.sourceStrides lane).batch, Registers.sourceInterleave lane,
        (Registers.cacheSource lane).plane, (Registers.cacheSource lane).row],
      name ∉ addressNames operands := by
  have separate : ∀ name ∈ [Registers.sourceEnabled lane, (Registers.sourceStrides lane).row,
      (Registers.sourceStrides lane).plane, (Registers.sourceStrides lane).depth,
      (Registers.sourceStrides lane).batch, Registers.sourceInterleave lane,
      (Registers.cacheSource lane).plane, (Registers.cacheSource lane).row],
      name.region ≠ .kernelSource ∧ name ∉ surfaceAddressNames 2 := by
    cases lane <;> decide
  exact fun name member => not_mem_addressNames (separate name member).1 (separate name member).2

/-- Neither do those of the destination, and those with hints. -/
theorem destinationNames_not_mem :
    ∀ name ∈ [Registers.destinationEnabled, Registers.destinationStrides.row,
        Registers.destinationStrides.plane, Registers.destinationStrides.depth,
        Registers.destinationStrides.batch, Registers.destinationInterleave,
        Registers.cacheResult.plane, Registers.cacheResult.row, Registers.residency .first,
        Registers.residency .second, Registers.residency .result],
      name ∉ addressNames operands := by
  have separate : ∀ name ∈ [Registers.destinationEnabled, Registers.destinationStrides.row,
      Registers.destinationStrides.plane, Registers.destinationStrides.depth,
      Registers.destinationStrides.batch, Registers.destinationInterleave,
      Registers.cacheResult.plane, Registers.cacheResult.row, Registers.residency .first,
      Registers.residency .second, Registers.residency .result],
      name.region ≠ .kernelSource ∧ name ∉ surfaceAddressNames 2 := by
    decide
  exact fun name member => not_mem_addressNames (separate name member).1 (separate name member).2

variable {source target : Nat} {first second : Binding}

/-- Assignments to registers without addresses are the same. -/
theorem moved_self
    {assignments : List Assignment}
    (unlisted : ∀ assignment ∈ assignments, assignment.name ∉ addressNames operands) :
    List.Forall₂ (Assignment.Moved source target (addressNames operands)) assignments
      assignments :=
  List.forall₂_same.mpr fun assignment member => ⟨rfl, .same (unlisted assignment member)⟩

theorem moved_of_within
    {assignments : List Assignment}
    (within : Within [.header, .common, .engine] assignments) :
    List.Forall₂ (Assignment.Moved source target (addressNames operands)) assignments
      assignments :=
  moved_self fun assignment member => not_mem_addressNames_of_region (within assignment member)

/-- Assignments of a moved address. -/
theorem moved_address
    {value other : Nat}
    (listed : name ∈ addressNames operands)
    (distance : value + target = other + source) :
    Assignment.Moved source target (addressNames operands) (.unsigned name value)
      (.unsigned name other) :=
  ⟨rfl, .address listed distance⟩

/-- Assignments of the same amount. -/
theorem moved_kept
    {value : Nat}
    (unlisted : name ∉ addressNames operands) :
    Assignment.Moved source target (addressNames operands) (.unsigned name value)
      (.unsigned name value) :=
  ⟨rfl, .same unlisted⟩

/-- The channels behind those of operands are not moved. -/
theorem unlisted_of_mem_channels
    {channel : Nat}
    {channels : List ChannelData}
    (behind : operands ≤ channel) :
    ∀ assignment ∈ Binding.channelAssignments channel channels,
      assignment.name ∉ addressNames operands := by
  induction channels generalizing channel with
  | nil => exact fun assignment member => absurd member List.not_mem_nil
  | cons data rest inductionHypothesis =>
      rw [Binding.channelAssignments, List.forall_mem_append]
      refine ⟨?_, inductionHypothesis (Nat.le_succ_of_le behind)⟩
      have offset : Registers.channelOffset channel ∉ addressNames operands := by
        rw [channelOffset_mem_iff]
        omega
      simp only [Descriptor.channelAssignments, List.forall_mem_cons, Assignment.unsigned]
      exact ⟨channelEnabled_not_mem channel, offset, channelLength_not_mem channel,
        fun assignment member => absurd member List.not_mem_nil⟩

/-- The channels of moved operands are moved, and channels behind them are not. -/
theorem moved_channels
    {inputs others : List Placed}
    {channel : Nat}
    {weights : List ChannelData}
    (moved : List.Forall₂ (Placed.Moved source target) inputs others)
    (last : channel + inputs.length = operands) :
    List.Forall₂ (Assignment.Moved source target (addressNames operands))
      (Binding.channelAssignments channel
        (inputs.map (fun input => ⟨input.surface.base, input.size⟩) ++ weights))
      (Binding.channelAssignments channel
        (others.map (fun input => ⟨input.surface.base, input.size⟩) ++ weights)) := by
  induction moved generalizing channel with
  | nil => exact moved_self (unlisted_of_mem_channels (by simpa using last.ge))
  | @cons input other inputs others here moved inductionHypothesis =>
      rw [List.length_cons] at last
      have inside : Registers.channelOffset channel ∈ addressNames operands :=
        channelOffset_mem_iff.mpr (by omega)
      refine List.rel_append (.cons (moved_kept (channelEnabled_not_mem channel))
        (.cons (moved_address inside here.base) (.cons ?_ .nil)))
        (inductionHypothesis (by omega))
      dsimp only
      rw [here.size]
      exact moved_kept (channelLength_not_mem channel)

/-- The shape that is assigned for the input is that of the first operand. -/
theorem inputShapeAssignments_eq_getD (binding : Binding) :
    binding.inputShapeAssignments = ((binding.inputs[0]?.map Placed.tensor).map fun tensor =>
      Descriptor.inputAssignments tensor.shape).getD [] := by
  unfold Binding.inputShapeAssignments
  cases binding.inputs[0]? with
  | none => rfl
  | some input => rfl

namespace Binding.Moved

variable (moved : Binding.Moved source target first second)

include moved

theorem sources (lane : SourceLane) :
    List.Forall₂ (Assignment.Moved source target (addressNames first.inputs.length))
      (first.sourceAssignments lane (operandOf lane))
      (second.sourceAssignments lane (operandOf lane)) := by
  have operand := rel_getElem? moved.inputs (operandOf lane)
  unfold Binding.sourceAssignments
  cases present : first.inputs[operandOf lane]? with
  | none =>
      rw [present] at operand
      generalize second.inputs[operandOf lane]? = other at operand
      cases operand with
      | none => exact .nil
  | some input =>
      rw [present] at operand
      generalize second.inputs[operandOf lane]? = other at operand
      cases operand with
      | some here =>
          obtain ⟨base, cached⟩ := sourceBases_mem (List.getElem?_eq_some_iff.mp present).1
          have kept := @sourceNames_not_mem first.inputs.length lane
          simp only [List.forall_mem_cons] at kept
          obtain ⟨enabled, row, plane, depth, batch, interleave, cachedPlane, cachedRow, -⟩ := kept
          simp only [Descriptor.sourceAssignments, Descriptor.strideAssignments,
            Descriptor.cacheAssignments, here.strides, here.interleave]
          exact .cons (moved_kept enabled) (.cons (moved_address base here.base)
            (.cons (moved_kept row) (.cons (moved_kept plane) (.cons (moved_kept depth)
              (.cons (moved_kept batch) (.cons (moved_kept interleave)
                (.cons (moved_address cached here.base) (.cons (moved_kept cachedPlane)
                  (.cons (moved_kept cachedRow) .nil)))))))))

theorem outputs :
    List.Forall₂ (Assignment.Moved source target (addressNames operands))
      (Descriptor.destinationAssignments first.output.surface ++
        Descriptor.cacheAssignments Registers.cacheResult first.output.surface)
      (Descriptor.destinationAssignments second.output.surface ++
        Descriptor.cacheAssignments Registers.cacheResult second.output.surface) := by
  obtain ⟨base, cached⟩ := destinationBases_mem operands
  have kept := @destinationNames_not_mem operands
  simp only [List.forall_mem_cons] at kept
  obtain ⟨enabled, row, plane, depth, batch, interleave, cachedPlane, cachedRow, -⟩ := kept
  simp only [Descriptor.destinationAssignments, Descriptor.strideAssignments,
    Descriptor.cacheAssignments, moved.output.strides, moved.output.interleave]
  exact .cons (moved_kept enabled) (.cons (moved_address base moved.output.base)
    (.cons (moved_kept row) (.cons (moved_kept plane) (.cons (moved_kept depth)
      (.cons (moved_kept batch) (.cons (moved_kept interleave)
        (.cons (moved_address cached moved.output.base) (.cons (moved_kept cachedPlane)
          (.cons (moved_kept cachedRow) .nil)))))))))

theorem hints_kept :
    List.Forall₂ (Assignment.Moved source target (addressNames operands))
      first.hintAssignments second.hintAssignments := by
  rw [Binding.hintAssignments, Binding.hintAssignments, moved.hints]
  have kept := @destinationNames_not_mem operands
  simp only [List.forall_mem_cons] at kept
  obtain ⟨-, -, -, -, -, -, -, -, one, two, three, -⟩ := kept
  exact .cons (moved_kept one) (.cons (moved_kept two) (.cons (moved_kept three) .nil))

/-- What is assigned for the shapes and types of tensors does not depend on places. -/
theorem shapes :
    second.inputShapeAssignments = first.inputShapeAssignments ∧
      second.typeAssignments = first.typeAssignments := by
  have tensors : ∀ index : Nat, (second.inputs[index]?.map Placed.tensor) =
      first.inputs[index]?.map Placed.tensor := by
    intro index
    have operand := rel_getElem? moved.inputs index
    generalize first.inputs[index]? = placed at operand
    generalize second.inputs[index]? = other at operand
    cases operand with
    | none => rfl
    | some here => exact congrArg some here.tensor
  have types : ∀ index : Nat, (second.inputs[index]?.map fun input => input.tensor.elementType) =
      first.inputs[index]?.map fun input => input.tensor.elementType := by
    intro index
    have elements := congrArg (Option.map Tensor.elementType) (tensors index)
    rwa [Option.map_map, Option.map_map] at elements
  constructor
  · rw [inputShapeAssignments_eq_getD, inputShapeAssignments_eq_getD, tensors]
  · unfold Binding.typeAssignments
    simp only [types, moved.output.tensor]

/-- The assignments of a stage with moved surfaces are moved. -/
theorem assignments (primary : Node) (folded : List Node) :
    List.Forall₂ (Assignment.Moved source target (addressNames first.inputs.length))
      (Stage.assignments primary folded first) (Stage.assignments primary folded second) := by
  obtain ⟨inputShape, types⟩ := moved.shapes
  unfold Stage.assignments Binding.assignments Binding.outputAssignments Binding.channels
  rw [inputShape, types, moved.output.tensor, moved.weights]
  refine List.rel_append (List.rel_append (List.rel_append (List.rel_append ?_
    (moved_of_within ?_)) (moved_of_within ?_)) (moved_of_within ?_)) (moved_of_within ?_)
  · refine List.rel_append (List.rel_append (List.rel_append (List.rel_append (List.rel_append
      (List.rel_append ?_ (moved.sources .first)) (moved_of_within ?_)) (moved.sources .second))
      (moved_of_within ?_)) ?_) moved.hints_kept
    · exact moved_channels moved.inputs (Nat.zero_add _)
    · exact (within_inputShape first).mono (by decide)
    · exact (within_types first).mono (by decide)
    · rw [List.append_assoc, List.append_assoc]
      exact List.rel_append
        (moved_of_within ((within_outputShape first.output.tensor.shape).mono (by decide)))
        moved.outputs
  · exact (within_primary primary.operation).mono (by decide)
  · exact (within_activation primary).mono (by decide)
  · exact (within_foldedNodes folded).mono (by decide)
  · exact (within_operation _ _ _).mono (by decide)

end Binding.Moved

/-- Every register with an address is assigned. -/
theorem mem_names_of_mem_addressNames
    {binding : Binding}
    (member : name ∈ addressNames binding.inputs.length) :
    name ∈ binding.assignments.map Assignment.name := by
  unfold Binding.assignments Binding.outputAssignments
  simp only [List.map_append, List.mem_append]
  rcases List.mem_append.mp member with offset | surface
  · obtain ⟨channel, inside, rfl⟩ := List.mem_map.mp offset
    have operand := List.getElem?_eq_getElem (List.mem_range.mp inside)
    have last := Binding.last?_channelOffset binding.channels channel
    rw [Binding.channels_operand operand] at last
    obtain ⟨assignment, present, same, -⟩ := mem_of_last? last
    simp only [List.mem_map.mpr ⟨assignment, present, same⟩, true_or]
  rcases List.mem_append.mp surface with source | result
  · obtain ⟨lane, chosen, listed⟩ := List.mem_flatMap.mp source
    have operand := List.getElem?_eq_getElem (of_decide_eq_true (List.mem_filter.mp chosen).2)
    have assigned : name ∈ (binding.sourceAssignments lane (operandOf lane)).map
        Assignment.name := by
      have names : (binding.sourceAssignments lane (operandOf lane)).map Assignment.name =
          sourceNames lane ++ cacheNames (Registers.cacheSource lane) := by
        rw [Binding.sourceAssignments, operand]
        rfl
      rw [names]
      rcases List.mem_cons.mp listed with rfl | cached
      · simp [sourceNames]
      · simp [List.mem_singleton.mp cached, cacheNames]
    cases lane with
    | first =>
        rw [operandOf] at assigned
        simp only [assigned, true_or, or_true]
    | second =>
        rw [operandOf] at assigned
        simp only [assigned, true_or, or_true]
  · rcases List.mem_cons.mp result with rfl | cached
    · simp [Descriptor.destinationAssignments, Assignment.unsigned]
    · simp [List.mem_singleton.mp cached, Descriptor.cacheAssignments, Assignment.unsigned]

/-- The records of a stage and of the same stage with moved surfaces agree up to addresses. -/
theorem encode_moved
    {index : Nat}
    {nodes : List Node}
    {record other : Descriptor}
    (moved : Binding.Moved source target first second)
    (encoded : encode index nodes first = .ok record)
    (otherEncoded : encode index nodes second = .ok other) :
    Descriptor.Moved source target (addressNames first.inputs.length) record other := by
  obtain ⟨primary, folded, descriptor, rfl, -, assigned, rfl⟩ := encode_eq_ok encoded
  obtain ⟨_, _, otherDescriptor, equal, -, otherAssigned, rfl⟩ := encode_eq_ok otherEncoded
  cases equal
  have records := Descriptor.moved_of_assigned Table.standard_separate
    (moved.assignments primary folded) (fun name member => ?_) assigned otherAssigned
  · exact ⟨records.table, rfl, records.address, records.register, records.outside⟩
  · obtain ⟨assignment, present, same⟩ := List.mem_map.mp (mem_names_of_mem_addressNames member)
    refine ⟨assignment, ?_, same⟩
    simp only [Stage.assignments, List.mem_append, present, true_or]

end Stage
end TileProgram
