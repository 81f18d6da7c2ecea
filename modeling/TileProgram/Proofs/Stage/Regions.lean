import TileProgram.Proofs.Descriptor.Access
import TileProgram.Proofs.Descriptor.Assignments
import TileProgram.Stage.Encoding

/-!
# Where the assignments of a stage are

The registers that the assignments of a stage give values to: those of the kernel
channels, and the regions of the record that each part keeps to.
-/

/-!
## Assignments of kernel channels

The registers of different channels are different, and so are the three
registers of one channel.  So the assignments that use a list of channels give
each of them its own data and leave all others alone.
-/

namespace TileProgram

open Register

namespace Stage
namespace Binding

open Assignment

/-- Assignments to a register of each channel from a given one on give the data
of the channel. -/
theorem last?_channels
    {register : Nat → Name}
    (amount : ChannelData → Amount)
    (assigned : ∀ channel data other,
      last? (register other) (Descriptor.channelAssignments channel data) =
        if channel = other then some (amount data) else none)
    (first : Nat)
    (channels : List ChannelData)
    (channel : Nat) :
    last? (register channel) (channelAssignments first channels) =
      if first ≤ channel then channels[channel - first]?.map amount else none := by
  induction channels generalizing first with
  | nil => simp [channelAssignments]
  | cons data rest inductionHypothesis =>
      rw [channelAssignments, last?_append, inductionHypothesis, assigned]
      rcases Nat.lt_trichotomy channel first with before | here | behind
      · rw [if_neg (by omega), if_neg (by omega), if_neg (by omega)]
        rfl
      · rw [if_neg (by omega), if_pos here.symm, if_pos (by omega), here, Nat.sub_self]
        rfl
      · obtain ⟨distance, rfl⟩ : ∃ distance, channel = first + 1 + distance :=
          ⟨channel - (first + 1), by omega⟩
        rw [if_pos (by omega), if_neg (by omega), if_pos (by omega), Option.or_none,
          Nat.add_sub_cancel_left, Nat.add_assoc, Nat.add_sub_cancel_left, Nat.add_comm 1,
          List.getElem?_cons_succ]

/-- The channels of a list are enabled. -/
theorem last?_channelEnabled (channels : List ChannelData) (channel : Nat) :
    last? (Registers.channelEnabled channel) (channelAssignments 0 channels) =
      channels[channel]?.map fun _ => .unsigned 1 := by
  rw [last?_channels fun _ => .unsigned 1]
  · simp
  · intro channel data other
    simp [Descriptor.channelAssignments, Ne.symm]

/-- The channels of a list begin where their data does. -/
theorem last?_channelOffset (channels : List ChannelData) (channel : Nat) :
    last? (Registers.channelOffset channel) (channelAssignments 0 channels) =
      channels[channel]?.map fun data => .unsigned data.offset.toNat := by
  rw [last?_channels fun data => .unsigned data.offset.toNat]
  · simp
  · intro channel data other
    simp [Descriptor.channelAssignments, Ne.symm]

/-- The channels of a list are as long as their data. -/
theorem last?_channelLength (channels : List ChannelData) (channel : Nat) :
    last? (Registers.channelLength channel) (channelAssignments 0 channels) =
      channels[channel]?.map fun data => .unsigned data.length.toNat := by
  rw [last?_channels fun data => .unsigned data.length.toNat]
  · simp
  · intro channel data other
    simp [Descriptor.channelAssignments, Ne.symm]

variable {binding : Binding}

/-- There is a channel for each operand and one for the weights, if there are any. -/
theorem length_channels :
    binding.channels.length = binding.inputs.length + binding.weights.toList.length := by
  rw [channels, List.length_append, List.length_map]

/-- The channel of an operand reads its surface. -/
theorem channels_operand
    {position : Nat}
    {input : Placed}
    (present : binding.inputs[position]? = some input) :
    binding.channels[position]? = some ⟨input.surface.base, input.size⟩ := by
  have inside := (List.getElem?_eq_some_iff.mp present).1
  rw [channels, List.getElem?_append_left (by rwa [List.length_map]), List.getElem?_map, present]
  rfl

/-- The channel behind the operands reads the weights. -/
theorem channels_weights
    {data : ChannelData}
    (present : binding.weights = some data) :
    binding.channels[binding.inputs.length]? = some data := by
  rw [channels, List.getElem?_append_right (by rw [List.length_map]), List.length_map, Nat.sub_self,
    present]
  rfl

end Binding
end Stage
end TileProgram

/-!
## Regions of assignments

Each part of the assignments of a stage keeps to few regions of the record.
A register of another region is therefore left alone by the whole part.
-/

namespace TileProgram

open Register

namespace Assignment

/-- All assignments are to registers of some regions. -/
def Within (regions : List Region) (assignments : List Assignment) : Prop :=
  ∀ assignment ∈ assignments, assignment.name.region ∈ regions

variable {regions : List Region} {first second : List Assignment}

@[simp] theorem within_nil (regions : List Region) : Within regions [] := by simp [Within]

@[simp] theorem within_cons {assignment : Assignment} :
    Within regions (assignment :: first) ↔
      assignment.name.region ∈ regions ∧ Within regions first := by
  simp [Within]

@[simp] theorem within_append :
    Within regions (first ++ second) ↔ Within regions first ∧ Within regions second := by
  simp only [Within, List.mem_append]
  constructor
  · intro all
    exact ⟨fun one present => all one (Or.inl present), fun one present => all one (Or.inr present)⟩
  · rintro ⟨left, right⟩ one (present | present)
    · exact left one present
    · exact right one present

theorem Within.mono
    {others : List Region}
    (within : Within regions first)
    (subset : ∀ region ∈ regions, region ∈ others) :
    Within others first :=
  fun one present => subset _ (within one present)

/-- Nothing is assigned to a register of another region. -/
theorem Within.last?_eq_none
    {name : Name}
    (within : Within regions first)
    (elsewhere : name.region ∉ regions) :
    last? name first = none := by
  apply last?_eq_none_of_region
  intro assignment present equal
  exact elsewhere (equal ▸ within assignment present)

end Assignment

namespace Stage

open Assignment Network

theorem within_channels (first : Nat) (channels : List ChannelData) :
    Within [.kernelSource] (Binding.channelAssignments first channels) := by
  induction channels generalizing first with
  | nil => exact within_nil _
  | cons data rest inductionHypothesis =>
      rw [Binding.channelAssignments, within_append]
      refine ⟨?_, inductionHypothesis (first + 1)⟩
      simp [Descriptor.channelAssignments, Registers.channelEnabled, Registers.channelOffset,
        Registers.channelLength]

theorem within_source (binding : Binding) (lane : SourceLane) (index : Nat) :
    Within [.tileSource, .cache] (binding.sourceAssignments lane index) := by
  unfold Binding.sourceAssignments
  split
  · exact within_nil _
  · cases lane <;> simp [Descriptor.sourceAssignments, Descriptor.strideAssignments,
      Descriptor.cacheAssignments, Registers.sourceEnabled, Registers.sourceBase,
      Registers.sourceStrides, Registers.sourceInterleave, Registers.cacheSource]

theorem within_inputShape (binding : Binding) :
    Within [.common] binding.inputShapeAssignments := by
  unfold Binding.inputShapeAssignments
  split
  · exact within_nil _
  · simp [Descriptor.inputAssignments, Registers.inputColumn, Registers.inputRow,
      Registers.inputPlane, Registers.inputDepth, Registers.group]

theorem within_types (binding : Binding) : Within [.common] binding.typeAssignments := by
  simp [Binding.typeAssignments, Descriptor.typeAssignments, Registers.inputFormat,
    Registers.secondFormat, Registers.outputFormat]

theorem within_destination (surface : StridedSurface) :
    Within [.tileDestination] (Descriptor.destinationAssignments surface) := by
  simp [Descriptor.destinationAssignments, Descriptor.strideAssignments,
    Registers.destinationEnabled, Registers.destinationBase, Registers.destinationStrides,
    Registers.destinationInterleave]

theorem within_outputShape (shape : Tensor.Shape) :
    Within [.common] (Descriptor.outputAssignments shape) := by
  simp [Descriptor.outputAssignments, Registers.outputColumn, Registers.outputRow,
    Registers.outputPlane, Registers.outputDepth]

theorem within_cacheResult (surface : StridedSurface) :
    Within [.cache] (Descriptor.cacheAssignments Registers.cacheResult surface) := by
  simp [Descriptor.cacheAssignments, Registers.cacheResult]

theorem within_hints (binding : Binding) : Within [.cache] binding.hintAssignments := by
  simp [Binding.hintAssignments, Descriptor.residencyAssignments, Registers.residency]

theorem within_scaleBias (scale bias : Binary.Single) :
    Within [.engine] (scaleBiasAssignments scale bias) := by
  simp [scaleBiasAssignments, Descriptor.scaleAssignments, Descriptor.biasAssignments,
    Registers.scaleMode, Registers.scale, Registers.biasMode, Registers.bias]

theorem within_primary (operation : Operation) :
    Within [.common, .engine] (primaryAssignments operation) := by
  unfold primaryAssignments
  cases operation with
  | scaleBias scale bias => exact (within_scaleBias scale bias).mono (by simp)
  | pointwise operator => cases operator <;> simp [Registers.multiplyMode]
  | _ =>
      simp [Descriptor.windowAssignments, Registers.kernelWidth, Registers.kernelHeight,
        Registers.stepAcross, Registers.stepDown, Registers.paddingAcross,
        Registers.paddingDown, Registers.groupCount, Registers.poolWidth, Registers.poolHeight,
        Registers.axis, Registers.transposeMode, Registers.broadcastMask, Registers.epsilon]

theorem within_folded (operation : Operation) :
    Within [.engine] (foldedAssignments operation) := by
  cases operation with
  | scaleBias scale bias => exact within_scaleBias scale bias
  | _ => simp [foldedAssignments, Registers.foldedPointwise]

theorem within_activation (node : Node) : Within [.engine] (activationAssignments node) := by
  unfold activationAssignments
  split
  · exact within_nil _
  · rw [within_append]
    constructor
    · simp [Descriptor.activationAssignments, Registers.activationKind,
        Registers.activationFirst, Registers.activationSecond]
    · split
      · exact within_nil _
      · simp [Registers.lookupLength]

theorem within_operation (class_ variant folded : Nat) :
    Within [.common] (Descriptor.operationAssignments class_ variant folded) := by
  simp [Descriptor.operationAssignments, Registers.operationType, Registers.operationVariant,
    Registers.foldedCount]

/-- What the folded nodes assign. -/
theorem within_foldedNodes (folded : List Node) :
    Within [.engine] (folded.flatMap fun node =>
      foldedAssignments node.operation ++ activationAssignments node) := by
  induction folded with
  | nil => exact within_nil _
  | cons node rest inductionHypothesis =>
      rw [List.flatMap_cons, within_append, within_append]
      exact ⟨⟨within_folded _, within_activation _⟩, inductionHypothesis⟩

end Stage
end TileProgram

/-!
## Assignments of sources

The two source lanes have registers of their own.  So the registers of a lane
are given those of its operand, whatever the other lane reads.
-/

namespace TileProgram

/-- The hint of a lane. -/
def Residency.StageHints.at (hints : Residency.StageHints) : Residency.Lane → Residency.Hint
  | .first => hints.first
  | .second => hints.second
  | .result => hints.result

namespace Stage

open Assignment Register

/-- The operand that a source lane reads. -/
def operandOf : SourceLane → Nat
  | .first => 0
  | .second => 1

/-- The registers of a source lane. -/
def sourceNames (lane : SourceLane) : List Name :=
  [ Registers.sourceEnabled lane, Registers.sourceBase lane, (Registers.sourceStrides lane).row,
    (Registers.sourceStrides lane).plane, (Registers.sourceStrides lane).depth,
    (Registers.sourceStrides lane).batch, Registers.sourceInterleave lane ]

/-- The registers of a cached view. -/
def cacheNames (names : Registers.CacheNames) : List Name :=
  [names.base, names.plane, names.row]

theorem region_of_mem_sourceNames {lane : SourceLane} :
    ∀ name ∈ sourceNames lane, name.region = .tileSource := by
  cases lane with
  | first => decide
  | second => decide

/-- Lanes have no register in common. -/
theorem sourceNames_apart {lane other : SourceLane} (different : lane ≠ other) :
    ∀ name ∈ sourceNames lane,
      name ∉ sourceNames other ++ cacheNames (Registers.cacheSource other) := by
  cases lane with
  | first =>
      cases other with
      | first => exact absurd rfl different
      | second => decide
  | second =>
      cases other with
      | first => decide
      | second => exact absurd rfl different

variable {binding : Binding} {lane : SourceLane}

/-- The assignments of a lane leave the registers of the other one alone. -/
theorem last?_otherSource
    {other : SourceLane}
    {name : Name}
    (different : lane ≠ other)
    (member : name ∈ sourceNames lane)
    (index : Nat) :
    last? name (binding.sourceAssignments other index) = none := by
  unfold Binding.sourceAssignments
  split
  · rfl
  · next input present =>
      have names : (Descriptor.sourceAssignments other input.surface ++
          Descriptor.cacheAssignments (Registers.cacheSource other) input.surface).map
            Assignment.name = sourceNames other ++ cacheNames (Registers.cacheSource other) := rfl
      apply last?_eq_none
      intro assignment assigned equal
      apply sourceNames_apart different name member
      rw [← names, ← equal]
      exact List.mem_map_of_mem assigned

/-- Of the assignments of both lanes only those of its own reach the registers
of a lane. -/
theorem last?_sources
    {name : Name}
    (member : name ∈ sourceNames lane) :
    last? name (binding.sourceAssignments .first 0 ++ binding.sourceAssignments .second 1) =
      last? name (binding.sourceAssignments lane (operandOf lane)) := by
  rw [last?_append]
  cases lane with
  | first =>
      have alone : last? name (binding.sourceAssignments .second 1) = none :=
        last?_otherSource (by decide) member 1
      rw [alone, Option.none_or]
      rfl
  | second =>
      have alone : last? name (binding.sourceAssignments .first 0) = none :=
        last?_otherSource (by decide) member 0
      rw [alone, Option.or_none]
      rfl

/-- The registers of a lane describe the surface of its operand. -/
theorem last?_source
    {index : Nat}
    {input : Placed}
    (present : binding.inputs[index]? = some input) :
    last? (Registers.sourceEnabled lane) (binding.sourceAssignments lane index) =
        some (.unsigned 1) ∧
      last? (Registers.sourceBase lane) (binding.sourceAssignments lane index) =
        some (.unsigned input.surface.base.toNat) ∧
      last? (Registers.sourceStrides lane).row (binding.sourceAssignments lane index) =
        some (.unsigned input.surface.strides.row.toNat) ∧
      last? (Registers.sourceStrides lane).plane (binding.sourceAssignments lane index) =
        some (.unsigned input.surface.strides.plane.toNat) ∧
      last? (Registers.sourceStrides lane).depth (binding.sourceAssignments lane index) =
        some (.unsigned input.surface.strides.depth.toNat) ∧
      last? (Registers.sourceStrides lane).batch (binding.sourceAssignments lane index) =
        some (.unsigned input.surface.strides.batch.toNat) ∧
      last? (Registers.sourceInterleave lane) (binding.sourceAssignments lane index) =
        some (.unsigned input.surface.interleave.toNat) := by
  unfold Binding.sourceAssignments
  rw [present]
  cases lane with
  | first =>
      simp [Descriptor.sourceAssignments, Descriptor.strideAssignments,
        Descriptor.cacheAssignments, Registers.sourceEnabled, Registers.sourceBase,
        Registers.sourceStrides, Registers.sourceInterleave, Registers.cacheSource]
  | second =>
      simp [Descriptor.sourceAssignments, Descriptor.strideAssignments,
        Descriptor.cacheAssignments, Registers.sourceEnabled, Registers.sourceBase,
        Registers.sourceStrides, Registers.sourceInterleave, Registers.cacheSource]

end Stage
end TileProgram
