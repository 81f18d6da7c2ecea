import TileProgram.Proofs.Stage.Regions

/-!
# Registers of encoded stages

The record of a stage reads back what the stage is bound to: its kernel
channels are the operands and the weights, its sources are the first two
operands, its destination is the place of the result, and it announces the
lookup table that is attached to it.
-/

namespace TileProgram

open Register Assignment

namespace Network.Node

/-- A node that says of its operands only how many there are. -/
def bare (node : Node) : Node :=
  { node with operands := List.replicate node.operands.length (.input 0) }

end Network.Node

namespace Stage

open Network

variable {primary : Node} {folded : List Node} {binding : Binding} {name : Name}

/-- The assignments of a stage that reach a region. -/
def share (region : Region) (primary : Node) (folded : List Node) (binding : Binding) :
    List Assignment :=
  match region with
  | .kernelSource => Binding.channelAssignments 0 binding.channels
  | .tileSource => binding.sourceAssignments .first 0 ++ binding.sourceAssignments .second 1
  | .tileDestination => Descriptor.destinationAssignments binding.output.surface
  | .engine =>
      primaryAssignments primary.operation ++ activationAssignments primary ++
        folded.flatMap fun node => foldedAssignments node.operation ++ activationAssignments node
  | _ => assignments primary folded binding

/-- A register holds what the share of its region assigns. -/
theorem last?_assignments (name : Name) :
    last? name (assignments primary folded binding) =
      last? name (share name.region primary folded binding) := by
  have untouched : ∀ {regions part}, Within regions part → name.region ∉ regions →
      last? name part = none := fun within absent => within.last?_eq_none absent
  have channels := untouched (within_channels 0 binding.channels)
  have first := untouched (within_source binding .first 0)
  have second := untouched (within_source binding .second 1)
  have inputShape := untouched (within_inputShape binding)
  have types := untouched (within_types binding)
  have outputShape := untouched (within_outputShape binding.output.tensor.shape)
  have destination := untouched (within_destination binding.output.surface)
  have cacheResult := untouched (within_cacheResult binding.output.surface)
  have hints := untouched (within_hints binding)
  have parameters := untouched (within_primary primary.operation)
  have activation := untouched (within_activation primary)
  have nodes := untouched (within_foldedNodes folded)
  have operation := untouched (within_operation primary.operation.classCode
    primary.operation.variantCode (min folded.length greatestFoldedCount))
  generalize name.region = region at *
  cases region <;>
    simp_all [share, assignments, Binding.assignments, Binding.outputAssignments]

/-- The record of a stage is the zero record after the assignments, with the
lookup table of the stage. -/
theorem encode_eq_ok
    {index : Nat}
    {nodes : List Node}
    {record : Descriptor}
    (success : encode index nodes binding = .ok record) :
    ∃ primary folded descriptor, nodes = primary :: folded ∧
      binding.channels.length ≤ Standard.channelCount ∧
      Descriptor.empty.assigned (assignments primary folded binding) = .ok descriptor ∧
      { descriptor with lookup := lookup? nodes } = record := by
  unfold encode at success
  split at success
  · cases success
  · next primary folded =>
      dsimp only at success
      split at success
      · cases success
      next fits =>
        split at success
        · cases success
        split at success
        · cases success
        next descriptor assigned =>
          exact ⟨primary, folded, descriptor, rfl, Nat.le_of_not_lt fits, assigned,
            Except.ok.inj success⟩

section Encoded

variable {index : Nat} {record : Descriptor}

/-- A register of the record of a stage holds the value that its share assigns last. -/
theorem get_of_share
    {value : Nat}
    (success : encode index (primary :: folded) binding = .ok record)
    (last : last? name (share name.region primary folded binding) = some (.unsigned value)) :
    record.get name = .ok value := by
  obtain ⟨first, others, descriptor, equal, -, assigned, rfl⟩ := encode_eq_ok success
  cases equal
  rw [← last?_assignments] at last
  show descriptor.get name = .ok value
  exact Descriptor.get_assigned_of_some Table.standard_separate assigned last

/-- A register of the record of a stage holds zero when its share leaves it alone. -/
theorem get_of_share_none
    {field : Field}
    (success : encode index (primary :: folded) binding = .ok record)
    (found : Table.standard.lookup name = .ok field)
    (untouched : last? name (share name.region primary folded binding) = none) :
    record.get name = .ok 0 := by
  obtain ⟨first, others, descriptor, equal, -, assigned, rfl⟩ := encode_eq_ok success
  cases equal
  rw [← last?_assignments] at untouched
  rw [← Descriptor.get_empty found]
  show descriptor.get name = Descriptor.empty.get name
  exact Descriptor.get_assigned_of_none Table.standard_separate assigned untouched

/-- The enabling register of every channel is in the built-in table. -/
theorem exists_channelEnabled
    {channel : Nat}
    (inside : channel < Standard.channelCount) :
    ∃ field, Table.standard.lookup (Registers.channelEnabled channel) = .ok field := by
  have configured : Standard.unsigned .kernelSource
      (Standard.indexed "CoeffDMAConfig" channel ".En") (44 + 4 * channel) 0 1 ∈
        Standard.channelConfiguration :=
    List.mem_flatMap.mpr ⟨channel, List.mem_range.mpr inside, List.mem_cons_self⟩
  have present : Standard.unsigned .kernelSource
      (Standard.indexed "CoeffDMAConfig" channel ".En") (44 + 4 * channel) 0 1 ∈
        Table.standard.fields := by
    simp only [Table.standard, Standard.kernelSource, List.mem_append, configured, true_or,
      or_true]
  exact Table.exists_lookup present

/-- Whether a channel of the record of a stage is enabled. -/
theorem channelEnabled_of_encode
    {channel : Nat}
    (success : encode index (primary :: folded) binding = .ok record)
    (inside : channel < Standard.channelCount) :
    record.get (Registers.channelEnabled channel) =
      .ok (if channel < binding.channels.length then 1 else 0) := by
  have last := Binding.last?_channelEnabled binding.channels channel
  split
  · next used =>
      rw [List.getElem?_eq_getElem used] at last
      exact get_of_share success last
  · next unused =>
      rw [List.getElem?_eq_none (by omega)] at last
      obtain ⟨field, found⟩ := exists_channelEnabled inside
      exact get_of_share_none success found last

/-- The kernel channels of the record of a stage are the operands and the weights. -/
theorem channel_of_encode
    {channel : Nat}
    (success : encode index (primary :: folded) binding = .ok record)
    (inside : channel < Standard.channelCount) :
    record.channel channel = .ok binding.channels[channel]? := by
  have enabled := channelEnabled_of_encode success inside
  by_cases used : channel < binding.channels.length
  · have present := List.getElem?_eq_getElem used
    have offset := Binding.last?_channelOffset binding.channels channel
    have length := Binding.last?_channelLength binding.channels channel
    rw [present] at offset length
    rw [if_pos used] at enabled
    rw [present]
    exact Descriptor.channel_of_registers inside enabled (get_of_share success offset)
      (get_of_share success length)
  · rw [Descriptor.channel, Descriptor.checkChannel, if_pos inside, enabled, if_neg used,
      List.getElem?_eq_none (by omega)]
    rfl

/-- A channel that a stage uses reads its data. -/
theorem channel_of_present
    {channel : Nat}
    {data : ChannelData}
    (success : encode index (primary :: folded) binding = .ok record)
    (present : binding.channels[channel]? = some data) :
    record.channel channel = .ok (some data) := by
  obtain ⟨-, -, -, -, fits, -, -⟩ := encode_eq_ok success
  have used := (List.getElem?_eq_some_iff.mp present).1
  rw [channel_of_encode success (Nat.lt_of_lt_of_le used fits), present]

/-- The numbers below a bound, chosen from more of them. -/
theorem filterMap_range
    {count more : Nat} :
    ((List.range (count + more)).filterMap fun number =>
      if number < count then some number else none) = List.range count := by
  induction more with
  | zero =>
      rw [Nat.add_zero]
      conv => rhs; rw [← List.filterMap_some (l := List.range count)]
      apply List.filterMap_congr
      intro number present
      rw [if_pos (List.mem_range.mp present)]
  | succ more inductionHypothesis =>
      rw [← Nat.add_assoc, List.range_succ, List.filterMap_append, inductionHypothesis]
      simp

/-- The used channels of the record of a stage are as many as there are operands
and weights. -/
theorem usedChannels_of_encode
    (success : encode index (primary :: folded) binding = .ok record) :
    record.usedChannels = .ok (List.range binding.channels.length) := by
  obtain ⟨-, -, -, -, fits, -, -⟩ := encode_eq_ok success
  obtain ⟨more, total⟩ := Nat.exists_eq_add_of_le fits
  unfold Descriptor.usedChannels
  rw [Outcome.filterMapM_eq_ok fun channel =>
    if channel < binding.channels.length then some channel else none, total, filterMap_range]
  intro channel present
  rw [channelEnabled_of_encode success (List.mem_range.mp present)]
  split
  · rfl
  · rfl

/-- The enabling register of a source lane is in the built-in table. -/
theorem exists_sourceEnabled (lane : SourceLane) :
    ∃ field, Table.standard.lookup (Registers.sourceEnabled lane) = .ok field := by
  cases lane with
  | first => exact ⟨_, rfl⟩
  | second => exact ⟨_, rfl⟩

/-- The sources of the record of a stage are its first two operands. -/
theorem source_of_encode
    (success : encode index (primary :: folded) binding = .ok record)
    (lane : SourceLane) :
    record.source lane = .ok (binding.inputs[operandOf lane]?.map Placed.surface) := by
  have reaching : ∀ {name}, name ∈ sourceNames lane →
      last? name (share name.region primary folded binding) =
        last? name (binding.sourceAssignments lane (operandOf lane)) := by
    intro name member
    rw [region_of_mem_sourceNames name member]
    exact last?_sources member
  have held : ∀ {name value}, name ∈ sourceNames lane →
      last? name (binding.sourceAssignments lane (operandOf lane)) = some (.unsigned value) →
      record.get name = .ok value :=
    fun member last => get_of_share success ((reaching member).trans last)
  unfold Descriptor.source
  cases present : binding.inputs[operandOf lane]? with
  | none =>
      obtain ⟨field, found⟩ := exists_sourceEnabled lane
      have unused : binding.sourceAssignments lane (operandOf lane) = [] := by
        rw [Binding.sourceAssignments, present]
      apply Descriptor.surface_of_disabled
      apply get_of_share_none success found
      rw [reaching (by simp [sourceNames]), unused, last?_nil]
  | some input =>
      obtain ⟨enabled, base, row, plane, depth, batch, interleave⟩ :=
        @last?_source binding lane (operandOf lane) input present
      exact Descriptor.surface_of_registers (held (by simp [sourceNames]) enabled)
        (held (by simp [sourceNames]) base) (held (by simp [sourceNames]) row)
        (held (by simp [sourceNames]) plane) (held (by simp [sourceNames]) depth)
        (held (by simp [sourceNames]) batch) (held (by simp [sourceNames]) interleave)

/-- The destination of the record of a stage is the place of its result. -/
theorem destination_of_encode
    (success : encode index (primary :: folded) binding = .ok record) :
    record.destination = .ok (some binding.output.surface) := by
  have held : ∀ {name value}, name.region = .tileDestination →
      last? name (Descriptor.destinationAssignments binding.output.surface) =
        some (.unsigned value) →
      record.get name = .ok value := by
    intro name value region last
    refine get_of_share success ?_
    rw [region]
    exact last
  unfold Descriptor.destination
  apply Descriptor.surface_of_registers
  all_goals
    apply held rfl
    simp [Descriptor.destinationAssignments, Descriptor.strideAssignments,
      Registers.destinationEnabled, Registers.destinationBase, Registers.destinationStrides,
      Registers.destinationInterleave]

/-- The hints of the record of a stage are those it is bound to. -/
theorem residency_of_encode
    (success : encode index (primary :: folded) binding = .ok record)
    (lane : Residency.Lane) :
    record.residency lane = .ok (binding.hints.at lane) := by
  have elsewhere : ∀ {regions part}, Within regions part → .cache ∉ regions →
      last? (Registers.residency lane) part = none := by
    intro regions part within absent
    apply within.last?_eq_none
    cases lane <;> exact absent
  have assigned : last? (Registers.residency lane) (share (Registers.residency lane).region
      primary folded binding) = some (.unsigned (binding.hints.at lane).code) := by
    rw [← last?_assignments]
    simp only [assignments, Binding.assignments, last?_append,
      elsewhere (within_primary _) (by decide), elsewhere (within_activation _) (by decide),
      elsewhere (within_foldedNodes _) (by decide),
      elsewhere (within_operation _ _ _) (by decide), Option.none_or]
    cases lane <;>
      simp [Binding.hintAssignments, Descriptor.residencyAssignments, Registers.residency,
        Residency.StageHints.at]
  exact Descriptor.residency_of_get (get_of_share success assigned)

/-- The registers of an activation. -/
def activationNames : List Name :=
  [ Registers.activationKind, Registers.activationFirst, Registers.activationSecond,
    Registers.lookupLength ]

/-- The registers of the parameters of operations. -/
def parameterNames : List Name :=
  [ Registers.kernelWidth, Registers.kernelHeight, Registers.stepAcross, Registers.stepDown,
    Registers.paddingAcross, Registers.paddingDown, Registers.groupCount, Registers.poolWidth,
    Registers.poolHeight, Registers.multiplyMode, Registers.axis, Registers.transposeMode,
    Registers.broadcastMask, Registers.epsilon, Registers.scaleMode, Registers.scale,
    Registers.biasMode, Registers.bias ]

/-- The parameters of an operation are assigned to registers of parameters. -/
theorem name_mem_parameterNames (operation : Operation) :
    ∀ assignment ∈ primaryAssignments operation, assignment.name ∈ parameterNames := by
  unfold primaryAssignments
  cases operation with
  | pointwise operator => cases operator <;> simp [parameterNames]
  | _ =>
      simp [Descriptor.windowAssignments, scaleBiasAssignments, Descriptor.scaleAssignments,
        Descriptor.biasAssignments, parameterNames]

theorem not_mem_activationNames : ∀ name ∈ parameterNames, name ∉ activationNames := by
  decide +kernel

/-- The parameters of an operation leave the registers of activations alone. -/
theorem last?_primary
    (member : name ∈ activationNames)
    (operation : Operation) :
    last? name (primaryAssignments operation) = none :=
  last?_eq_none fun assignment present same =>
    not_mem_activationNames _ (name_mem_parameterNames operation assignment present)
      (same ▸ member)

/-- So do the parameters of a folded operation. -/
theorem last?_folded
    (member : name ∈ activationNames)
    (operation : Operation) :
    last? name (foldedAssignments operation) = none := by
  have elsewhere : ∀ assignment ∈ foldedAssignments operation,
      assignment.name ∉ activationNames := by
    cases operation with
    | _ =>
        simp [foldedAssignments, Registers.foldedPointwise, scaleBiasAssignments,
          Descriptor.scaleAssignments, Descriptor.biasAssignments, Registers.scaleMode,
          Registers.scale, Registers.biasMode, Registers.bias, activationNames,
          Registers.activationKind, Registers.activationFirst, Registers.activationSecond,
          Registers.lookupLength]
  exact last?_eq_none fun assignment present same => elsewhere assignment present (same ▸ member)

/-- An activation is assigned to its own registers. -/
theorem name_mem_activationNames (node : Node) :
    ∀ assignment ∈ activationAssignments node, assignment.name ∈ activationNames := by
  unfold activationAssignments
  split
  · simp
  · cases tableOf? node <;> simp [Descriptor.activationAssignments, activationNames]

/-- An activation leaves all other registers alone. -/
theorem last?_activation
    (absent : name ∉ activationNames)
    (node : Node) :
    last? name (activationAssignments node) = none :=
  last?_eq_none fun assignment present same =>
    absent (same ▸ name_mem_activationNames node assignment present)

/-- The activation of a node announces the length of its lookup table, if it has one. -/
theorem last?_lookupLength_activation (node : Node) :
    last? Registers.lookupLength (activationAssignments node) =
      (tableOf? node).map fun table => .unsigned table.length := by
  unfold activationAssignments
  split
  · next plain =>
      have identity : node.activation.kind = .identity := by
        simpa [Activation.isNone] using plain
      simp [tableOf?, identity, Activation.Kind.needsTable]
  · cases tableOf? node with
    | none =>
        simp [Descriptor.activationAssignments, Registers.activationKind,
          Registers.activationFirst, Registers.activationSecond, Registers.lookupLength]
    | some table => simp

/-- A later node with a lookup table prevails over an earlier one. -/
theorem lookup?_cons (node : Node) (rest : List Node) :
    lookup? (node :: rest) = (lookup? rest).or (tableOf? node) := by
  unfold lookup?
  rw [List.filterMap_cons]
  cases tableOf? node with
  | none => simp
  | some table =>
      rw [List.getLast?_cons]
      cases (rest.filterMap tableOf?).getLast? with
      | none => rfl
      | some final => rfl

/-- The length that is announced last is that of the lookup table of the stage. -/
theorem last?_lookupLength (nodes : List Node) :
    last? Registers.lookupLength (nodes.flatMap fun node =>
        foldedAssignments node.operation ++ activationAssignments node) =
      (lookup? nodes).map fun table => .unsigned table.length := by
  induction nodes with
  | nil => rfl
  | cons node rest inductionHypothesis =>
      rw [List.flatMap_cons, last?_append, inductionHypothesis, last?_append,
        last?_lookupLength_activation, last?_folded (by simp [activationNames]), Option.or_none,
        lookup?_cons, Option.map_or]

/-- The record of a stage is one of the built-in table, has the lookup table of
its nodes and announces its length. -/
theorem lookup_of_encode
    {nodes : List Node}
    (success : encode index nodes binding = .ok record) :
    record.table = .standard ∧ record.lookup = lookup? nodes ∧
      ∀ table, lookup? nodes = some table →
        record.get Registers.lookupLength = .ok table.length := by
  obtain ⟨primary, folded, descriptor, rfl, -, assigned, recordEq⟩ := encode_eq_ok success
  refine ⟨?_, ?_, ?_⟩
  · rw [← recordEq]
    exact (Descriptor.assigned_frame assigned).1
  · rw [← recordEq]
  · intro table present
    refine get_of_share success ?_
    show last? _ (primaryAssignments primary.operation ++ activationAssignments primary ++ _) = _
    rw [last?_append, last?_append, last?_lookupLength, last?_lookupLength_activation,
      last?_primary (by simp [activationNames]), Option.or_none, ← Option.map_or, ← lookup?_cons,
      present]
    rfl

end Encoded

/-- The record of a stage depends on operands of nodes only by how many there are. -/
theorem encode_bare (number : Nat) (nodes : List Node) (binding : Binding) :
    encode number (nodes.map Node.bare) binding = encode number nodes binding := by
  cases nodes with
  | nil => rfl
  | cons primary folded =>
      have table : lookup? ((primary :: folded).map Node.bare) = lookup? (primary :: folded) := by
        rw [lookup?, lookup?, List.filterMap_map]
        rfl
      have length : primary.bare.operands.length = primary.operands.length :=
        List.length_replicate
      have defect : ∀ inputs, shapeDefect? primary.bare inputs = shapeDefect? primary inputs :=
        fun _ => rfl
      have assigned : assignments primary.bare (folded.map Node.bare) binding =
          assignments primary folded binding := by
        unfold assignments
        rw [List.flatMap_map, List.length_map]
        rfl
      unfold encode
      rw [table, List.map_cons]
      dsimp only
      rw [length, defect, assigned]

end Stage
end TileProgram

/-!
## Shapes that records hold

The registers of the extents are assigned by the shapes of a stage and by
nothing else in it.  So its record holds the shape of its first operand as it
is, and the shape of its result except for the groups: there is one register for
the groups of both, and it holds those of the operand.
-/

namespace TileProgram

open Register

namespace Stage

open Network Assignment

/-- The registers of extents. -/
def extentNames : List Name :=
  [ Registers.inputColumn, Registers.inputRow, Registers.inputPlane, Registers.inputDepth,
    Registers.group, Registers.outputColumn, Registers.outputRow, Registers.outputPlane,
    Registers.outputDepth ]

/-- The other registers that may be assigned in the region of the extents. -/
def codeNames : List Name :=
  [ Registers.inputFormat, Registers.secondFormat, Registers.outputFormat,
    Registers.kernelWidth, Registers.kernelHeight, Registers.stepAcross, Registers.stepDown,
    Registers.paddingAcross, Registers.paddingDown, Registers.groupCount, Registers.poolWidth,
    Registers.poolHeight, Registers.multiplyMode, Registers.axis, Registers.transposeMode,
    Registers.broadcastMask, Registers.epsilon, Registers.scaleMode, Registers.scale,
    Registers.biasMode, Registers.bias, Registers.operationType, Registers.operationVariant,
    Registers.foldedCount ]

theorem region_of_mem_extentNames : ∀ name ∈ extentNames, name.region = .common := by
  decide

theorem parameter_mem_codeNames : ∀ name ∈ parameterNames, name ∈ codeNames := by
  simp [parameterNames, codeNames]

theorem not_mem_extentNames : ∀ name ∈ codeNames, name ∉ extentNames := by
  decide +kernel

variable {primary : Node} {folded : List Node} {binding : Binding} {name : Name}

/-- Assignments of codes leave the extents alone. -/
theorem last?_codes
    {assignments : List Assignment}
    (member : name ∈ extentNames)
    (codes : ∀ assignment ∈ assignments, assignment.name ∈ codeNames) :
    last? name assignments = none := by
  apply last?_eq_none
  intro assignment present same
  exact not_mem_extentNames _ (codes assignment present) (same ▸ member)

/-- A register of an extent holds what the shapes of the stage assign. -/
theorem last?_extent (member : name ∈ extentNames) :
    last? name (assignments primary folded binding) =
      (last? name (Descriptor.outputAssignments binding.output.tensor.shape)).or
        (last? name binding.inputShapeAssignments) := by
  have elsewhere : ∀ {regions part}, Within regions part → .common ∉ regions →
      last? name part = none :=
    fun within absent => within.last?_eq_none (region_of_mem_extentNames name member ▸ absent)
  have types : last? name binding.typeAssignments = none :=
    last?_codes member
      (by simp [Binding.typeAssignments, Descriptor.typeAssignments, codeNames])
  have parameters : last? name (primaryAssignments primary.operation) = none :=
    last?_codes member fun assignment present =>
      parameter_mem_codeNames _ (name_mem_parameterNames _ assignment present)
  have operation : last? name (Descriptor.operationAssignments primary.operation.classCode
      primary.operation.variantCode (min folded.length greatestFoldedCount)) = none :=
    last?_codes member (by simp [Descriptor.operationAssignments, codeNames])
  simp only [assignments, Binding.assignments, Binding.outputAssignments, last?_append,
    elsewhere (within_channels _ _) (by decide), elsewhere (within_source _ _ _) (by decide),
    elsewhere (within_destination _) (by decide), elsewhere (within_cacheResult _) (by decide),
    elsewhere (within_hints _) (by decide), elsewhere (within_activation _) (by decide),
    elsewhere (within_foldedNodes _) (by decide), types, parameters, operation, Option.none_or,
    Option.or_none]

section Encoded

variable {index : Nat} {record : Descriptor} {input : Placed}

/-- A register of an extent reads what the shapes of the stage assign to it. -/
theorem get_extent
    {value : Nat}
    (success : encode index (primary :: folded) binding = .ok record)
    (member : name ∈ extentNames)
    (assigned : (last? name (Descriptor.outputAssignments binding.output.tensor.shape)).or
      (last? name binding.inputShapeAssignments) = some (.unsigned value)) :
    record.get name = .ok value := by
  refine get_of_share success ?_
  rw [← last?_assignments, last?_extent member]
  exact assigned

theorem inputShapeAssignments_eq (present : binding.inputs[0]? = some input) :
    binding.inputShapeAssignments = Descriptor.inputAssignments input.tensor.shape := by
  rw [Binding.inputShapeAssignments, present]

/-- The record of a stage holds the shape of its first operand. -/
theorem inputShape_of_encode
    (success : encode index (primary :: folded) binding = .ok record)
    (present : binding.inputs[0]? = some input) :
    record.inputShape = .ok input.tensor.shape := by
  apply Descriptor.inputShape_of_registers
  all_goals
    apply get_extent success (by simp [extentNames])
    rw [inputShapeAssignments_eq present]
    simp [Descriptor.inputAssignments, Descriptor.outputAssignments, Registers.inputColumn,
      Registers.inputRow, Registers.inputPlane, Registers.inputDepth, Registers.group,
      Registers.outputColumn, Registers.outputRow, Registers.outputPlane,
      Registers.outputDepth]

/-- It holds the shape of its result, with the groups of its first operand. -/
theorem outputShape_of_encode
    (success : encode index (primary :: folded) binding = .ok record)
    (present : binding.inputs[0]? = some input) :
    record.outputShape =
      .ok { binding.output.tensor.shape with group := input.tensor.shape.group } := by
  apply Descriptor.outputShape_of_registers
  all_goals
    apply get_extent success (by simp [extentNames])
    rw [inputShapeAssignments_eq present]
    simp [Descriptor.inputAssignments, Descriptor.outputAssignments, Registers.inputColumn,
      Registers.inputRow, Registers.inputPlane, Registers.inputDepth, Registers.group,
      Registers.outputColumn, Registers.outputRow, Registers.outputPlane,
      Registers.outputDepth]

end Encoded
end Stage
end TileProgram
