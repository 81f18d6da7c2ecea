import TileProgram.Proofs.Assembly.RoundTrip

/-!
# Dataflow of assembled programs

Every record reads what its stage reads: the channels and sources of the record
of a stage point to the surfaces of the stage's outside operands, which are
inputs of the program and results of earlier stages.  No two of these surfaces
have an address in common.
-/

namespace TileProgram
namespace Assembly

open Network Stage Container

/-- A stretch of device memory, or of the data section. -/
structure Stretch where
  base : Nat
  size : Nat
  deriving DecidableEq

/-- Stretches without a common position. -/
def Stretch.Disjoint (first second : Stretch) : Prop :=
  first.base + first.size ≤ second.base ∨ second.base + second.size ≤ first.base

/-- Where the inputs of a program and the results of its stages lie. -/
structure Surfaces where
  inputs : List Stretch
  results : List Stretch
  deriving DecidableEq

/-- The stretch of a tensor that is placed. -/
def stretchOf (placed : Placed) : Stretch :=
  ⟨placed.surface.base.toNat, placed.size.toNat⟩

/-- The surfaces of a placement. -/
def Placement.surfaces (placement : Placement) : Surfaces :=
  ⟨placement.inputs.map stretchOf, placement.results.map stretchOf⟩

/-- Surfaces have the padded sizes of their tensors; inputs lie where their
relocations say, results where the destinations of the records say. -/
structure Located (policy : Layout.Policy) (network : Network) (stages : List Stage)
    (container : Container) (surfaces : Surfaces) : Prop where
  inputSizes : surfaces.inputs.map Stretch.size =
    network.inputs.map fun tensor => (policy.extent tensor).size
  resultSizes : surfaces.results.map Stretch.size =
    stages.map fun stage => (policy.extent (resultTensor network stage)).size
  input : ∀ (number : Nat) (stretch : Stretch), surfaces.inputs[number]? = some stretch →
    ∃ relocation ∈ container.relocations, relocation.kind = .surface ∧
      relocation.name = "input" ++ toString number ∧
      relocation.offset.toNat = stretch.base ∧ relocation.size.toNat = stretch.size ∧
      ∀ other ∈ container.relocations, other.name = relocation.name → other = relocation
  result : ∀ (index : Nat) (stretch : Stretch), surfaces.results[index]? = some stretch →
    ∃ entry surface, container.entries[index]? = some entry ∧
      entry.descriptor.destination = .ok (some surface) ∧ surface.base.toNat = stretch.base

/-- The surface that a stage with a given index reads for an operand: an input,
or the result of an earlier stage. -/
def ReadsFrom (stages : List Stage) (surfaces : Surfaces) (index : Nat) (stretch : Stretch) :
    Operand → Prop
  | .input number => surfaces.inputs[number]? = some stretch
  | .node node => ∃ producer stage, producer < index ∧ stages[producer]? = some stage ∧
      stage.output = node ∧ surfaces.results[producer]? = some stretch

/-- The bytes of the weights of the first node of a stage. -/
def stageWeights (network : Network) (stage : Stage) : Option Bytes :=
  network.nodes[stage.primary]?.bind weightBytes

/-- A record whose channels and sources point to what its stage reads. -/
structure Wired (network : Network) (stages : List Stage) (container : Container)
    (surfaces : Surfaces) (index : Nat) (stage : Stage) (record : Descriptor) : Prop where
  used : record.usedChannels = .ok (List.range
    ((outsideOperands network stage).length + (stageWeights network stage).toList.length))
  operand : ∀ (position : Nat) (operand : Operand),
    (outsideOperands network stage)[position]? = some operand →
    ∃ stretch data, ReadsFrom stages surfaces index stretch operand ∧
      record.channel position = .ok (some data) ∧
      data.offset.toNat = stretch.base ∧ data.length.toNat = stretch.size
  weights : ∀ blob, stageWeights network stage = some blob →
    ∃ data, record.channel (outsideOperands network stage).length = .ok (some data) ∧
      Holds container.data data blob ∧
      Relocation.ofBlob .weight index ("weights" ++ toString index) data ∈ container.relocations
  source : ∀ lane, if operandOf lane < (outsideOperands network stage).length then
      ∃ surface data, record.source lane = .ok (some surface) ∧
        record.channel (operandOf lane) = .ok (some data) ∧ surface.base = data.offset
    else record.source lane = .ok none

variable {policy : Layout.Policy} {network : Network} {container : Container}

/-- The first node of a stage is its primary one. -/
theorem head?_nodesOf
    {stages : List Stage}
    {stage : Stage}
    (divided : stages.flatMap Stage.nodes = List.range network.nodes.length)
    (present : stage ∈ stages) :
    (stage.nodesOf network).head? = network.nodes[stage.primary]? := by
  have inside : stage.primary < network.nodes.length :=
    lt_of_mem_nodes divided present List.mem_cons_self
  have first := List.getElem?_eq_getElem inside
  rw [nodesOf, Stage.nodes, List.filterMap_cons, first]
  rfl

/-- Tensors that are placed have the padded sizes of their policy. -/
theorem sizes_eq
    {placed : List Placed}
    {tensors : List Tensor}
    (tensorsEq : placed.map Placed.tensor = tensors)
    (sizes : ∀ one ∈ placed, one.size.toNat = (policy.extent one.tensor).size) :
    (placed.map stretchOf).map Stretch.size =
      tensors.map fun tensor => (policy.extent tensor).size := by
  rw [← tensorsEq, List.map_map, List.map_map]
  exact List.map_congr_left sizes

namespace Run

variable (run : Run policy network container)

theorem length_inputs : run.placement.inputs.length = network.inputs.length := by
  have tensors := (placeNetwork_eq_ok run.accepted run.placed).1
  rw [← tensors, List.length_map]

theorem length_results : run.placement.results.length = run.stages.length := by
  have tensors := congrArg List.length (placeNetwork_eq_ok run.accepted run.placed).2.1
  rwa [List.length_map, List.length_map] at tensors

/-- No two surfaces have an address in common. -/
theorem disjoint :
    (run.placement.surfaces.inputs ++ run.placement.surfaces.results).Pairwise
      Stretch.Disjoint := by
  have ordered := (placeNetwork_eq_ok run.accepted run.placed).2.2.2
  show (run.placement.inputs.map stretchOf ++ run.placement.results.map stretchOf).Pairwise _
  rw [← List.map_append, List.pairwise_map]
  exact ordered.imp fun before => Or.inl before

/-- Only one relocation has the name of an input. -/
theorem input_unique
    {number : Nat}
    {placed : Placed}
    (present : run.placement.inputs[number]? = some placed) :
    ∀ other ∈ container.relocations, other.name = "input" ++ toString number →
      other = surfaceRelocation "input" number placed := by
  obtain ⟨-, relocations, -, -⟩ := run.container_eq
  obtain ⟨blobs, drafted, named⟩ := encodeFrom_named run.positive run.encoded
  rw [relocations, drafted]
  intro other member isInput
  rcases List.mem_append.mp member with drafted | output
  · rcases List.mem_append.mp drafted with input | blob
    · obtain ⟨position, inside, rfl⟩ := List.mem_mapIdx.mp input
      have same : position = number := Text.append_toString_inj.mp isInput
      subst same
      rw [List.getElem?_eq_getElem inside] at present
      rw [Option.some.inj present]
    · obtain ⟨-, stage, -, weights | table⟩ := named other blob
      · rw [weights] at isInput
        exact absurd isInput (Text.append_ne_append ⟨0, by decide⟩ _ _)
      · rw [table] at isInput
        exact absurd isInput (Text.append_ne_append ⟨0, by decide⟩ _ _)
  · obtain ⟨position, result, rfl⟩ := mem_outputRelocations output
    exact absurd isInput (Text.append_ne_append ⟨0, by decide⟩ _ _)

/-- The record of a stage is what the stage was encoded as, numbered and linked. -/
theorem encodes
    {index : Nat}
    {stage : Stage}
    {entry : Entry}
    (stagePresent : run.stages[index]? = some stage)
    (entryPresent : container.entries[index]? = some entry) :
    ∃ weights record,
      Stage.encode index (stage.nodesOf network)
        ⟨inputsOf run.placement run.reads index, run.placement.lookup (.stage index), weights,
          ((Residency.Reads.plan run.reads)[index]?).getD default⟩ = .ok record ∧
      Numbered run.stages.length index record entry.descriptor ∧
      Option.Rel (Holds container.data) weights (stageWeights network stage) ∧
      ∀ relocation ∈ blobRelocation .weight "weights" index weights,
        relocation ∈ container.relocations := by
  obtain ⟨-, relocations, -, data⟩ := run.container_eq
  obtain ⟨weights, record, changed, -, changedPresent, encoded, numbered, held, located⟩ :=
    run.record stagePresent
  obtain ⟨other, -, -, linkedPresent, -, -⟩ := run.entry entryPresent
  rw [changedPresent] at linkedPresent
  rw [head?_nodesOf run.divided (List.mem_of_getElem? stagePresent)] at held
  refine ⟨weights, record, encoded, Option.some.inj linkedPresent ▸ numbered, data ▸ held, ?_⟩
  rw [relocations]
  exact fun relocation present => List.mem_append_left _ (located relocation present)

/-- The surfaces of the program are where its relocations and its records say. -/
theorem located : Located policy network run.stages container run.placement.surfaces := by
  obtain ⟨-, relocations, -, -⟩ := run.container_eq
  have positive := (Layout.Policy.alignments_pos run.accepted).2
  obtain ⟨inputTensors, resultTensors, sizes, -⟩ := placeNetwork_eq_ok run.accepted run.placed
  refine ⟨?_, ?_, ?_, ?_⟩
  · exact sizes_eq inputTensors fun one present => sizes one (List.mem_append_left _ present)
  · have equal := sizes_eq resultTensors fun one present =>
      sizes one (List.mem_append_right _ present)
    exact equal.trans List.map_map
  · intro number stretch present
    obtain ⟨placed, placedPresent, rfl⟩ := Option.map_eq_some_iff.mp
      ((List.getElem?_map).symm.trans present)
    refine ⟨surfaceRelocation "input" number placed, ?_, rfl, rfl, toNat_widened _,
      toNat_widened _, run.input_unique placedPresent⟩
    rw [relocations]
    obtain ⟨extension, -⟩ := encodeFrom_extends positive run.encoded
    refine List.mem_append_left _ (extension.relocations.subset ?_)
    obtain ⟨inside, rfl⟩ := List.getElem?_eq_some_iff.mp placedPresent
    exact List.mem_mapIdx.mpr ⟨number, inside, rfl⟩
  · intro index stretch present
    obtain ⟨placed, placedPresent, rfl⟩ := Option.map_eq_some_iff.mp
      ((List.getElem?_map).symm.trans present)
    have inside := (List.getElem?_eq_some_iff.mp placedPresent).1
    rw [run.length_results] at inside
    have entryInside : index < container.entries.length := by
      rwa [run.length_entries]
    have entryPresent := List.getElem?_eq_getElem entryInside
    obtain ⟨weights, record, encoded, numbered, -, -⟩ :=
      run.encodes (List.getElem?_eq_getElem inside) entryPresent
    obtain ⟨primary, folded, -, nodesEq, -⟩ := encode_eq_ok encoded
    rw [nodesEq] at encoded
    refine ⟨_, placed.surface, entryPresent, ?_, rfl⟩
    rw [numbered.destination, destination_of_encode encoded, Placement.lookup, placedPresent]
    rfl

/-- What a stage reads are the surfaces of its outside operands. -/
theorem sources
    {index : Nat}
    {stage : Stage}
    (present : run.stages[index]? = some stage) :
    ∃ sources, run.reads[index]? = some sources ∧
      (outsideOperands network stage).map (surfaceOf? run.stages) = sources.map some :=
  (stageReads_eq_ok run.consecutive run.read).2 index stage present

/-- A stage reads as many surfaces as it has outside operands. -/
theorem length_inputsOf
    {index : Nat}
    {stage : Stage}
    (present : run.stages[index]? = some stage) :
    (inputsOf run.placement run.reads index).length = (outsideOperands network stage).length := by
  obtain ⟨sources, found, equal⟩ := run.sources present
  have lengths := congrArg List.length equal
  rw [List.length_map, List.length_map] at lengths
  rw [inputsOf, found, Option.getD_some, List.length_map, lengths]

/-- What a stage reads for an operand is the surface of that operand. -/
theorem readsFrom
    {index position : Nat}
    {stage : Stage}
    {operand : Operand}
    (present : run.stages[index]? = some stage)
    (operandPresent : (outsideOperands network stage)[position]? = some operand) :
    ∃ placed, (inputsOf run.placement run.reads index)[position]? = some placed ∧
      ReadsFrom run.stages run.placement.surfaces index (stretchOf placed) operand := by
  obtain ⟨sources, found, equal⟩ := run.sources present
  have here := congrArg (fun list => list[position]?) equal
  simp only [List.getElem?_map, operandPresent, Option.map_some] at here
  obtain ⟨source, sourcePresent, surface⟩ := Option.map_eq_some_iff.mp here.symm
  have member := List.mem_of_getElem? operandPresent
  refine ⟨run.placement.lookup source, ?_, ?_⟩
  · rw [inputsOf, found, Option.getD_some, List.getElem?_map, sourcePresent]
    rfl
  · cases operand with
    | input number =>
        cases surface
        obtain ⟨node, nodeMember, used⟩ := operand_of_mem_outside
          (run.consecutive stage (List.mem_of_getElem? present)) member
        have nodeInside := lt_of_mem_nodes run.divided (List.mem_of_getElem? present) nodeMember
        rw [operandsAt, List.getElem?_eq_getElem nodeInside] at used
        have back := refersBack_of_validate run.valid (List.getElem?_eq_getElem nodeInside) _ used
        have inside : number < run.placement.inputs.length := by
          rw [run.length_inputs]
          simpa [refersBack] using back
        show (run.placement.inputs.map stretchOf)[number]? = _
        rw [List.getElem?_map, Placement.lookup, List.getElem?_eq_getElem inside]
        rfl
    | node node =>
        obtain ⟨producer, produced, rfl⟩ := Option.map_eq_some_iff.mp surface.symm
        have earlier := producer?_lt run.valid run.consecutive run.divided present member produced
        obtain ⟨other, otherPresent, output⟩ := output_of_producer? produced
        have inside := (List.getElem?_eq_some_iff.mp otherPresent).1
        rw [← run.length_results] at inside
        refine ⟨producer, other, earlier, otherPresent, output, ?_⟩
        show (run.placement.results.map stretchOf)[producer]? = _
        rw [List.getElem?_map, Placement.lookup, List.getElem?_eq_getElem inside]
        rfl

/-- The record of a stage is wired to what the stage reads. -/
theorem wired
    {index : Nat}
    {stage : Stage}
    {entry : Entry}
    (stagePresent : run.stages[index]? = some stage)
    (entryPresent : container.entries[index]? = some entry) :
    Wired network run.stages container run.placement.surfaces index stage entry.descriptor := by
  obtain ⟨weights, record, encoded, numbered, held, located⟩ :=
    run.encodes stagePresent entryPresent
  obtain ⟨primary, folded, -, nodesEq, -⟩ := encode_eq_ok encoded
  rw [nodesEq] at encoded
  have lengthEq := run.length_inputsOf stagePresent
  refine ⟨?_, ?_, ?_, ?_⟩
  · have lengthWeights : weights.toList.length = (stageWeights network stage).toList.length := by
      generalize stageWeights network stage = blob at held
      cases held with
      | none => rfl
      | some holds => rfl
    rw [numbered.usedChannels, usedChannels_of_encode encoded, Binding.length_channels, lengthEq,
      lengthWeights]
  · intro position operand present
    obtain ⟨placed, placedPresent, reads⟩ := run.readsFrom stagePresent present
    refine ⟨stretchOf placed, ⟨placed.surface.base, placed.size⟩, reads, ?_, rfl, rfl⟩
    rw [numbered.channel]
    exact channel_of_present encoded (Binding.channels_operand placedPresent)
  · intro blob present
    rw [present] at held
    cases held with
    | some holds =>
        next data =>
        refine ⟨data, ?_, holds, located _ (mem_blobRelocation.mpr ⟨data, rfl, rfl⟩)⟩
        rw [numbered.channel, ← lengthEq]
        exact channel_of_present encoded (Binding.channels_weights rfl)
  · intro lane
    rw [numbered.source, source_of_encode encoded, ← lengthEq]
    split
    · next inside =>
        obtain ⟨input, present⟩ : ∃ input,
            (inputsOf run.placement run.reads index)[operandOf lane]? = some input :=
          ⟨_, List.getElem?_eq_getElem inside⟩
        refine ⟨input.surface, ⟨input.surface.base, input.size⟩, ?_, ?_, rfl⟩
        · rw [present]
          rfl
        · rw [numbered.channel]
          exact channel_of_present encoded (Binding.channels_operand present)
    · next outside =>
        rw [List.getElem?_eq_none (Nat.le_of_not_lt outside)]
        rfl

end Run

/-- Dataflow is kept by assembling: the records are wired to what the stages
read, and no two surfaces overlap. -/
theorem dataflow_of_assemble (success : assemble policy network = .ok container) :
    ∃ stages surfaces, Stage.plan policy.fusion network = .ok stages ∧
      container.entries.length = stages.length ∧
      Located policy network stages container surfaces ∧
      (∀ (index : Nat) (stage : Stage) (entry : Entry), stages[index]? = some stage →
        container.entries[index]? = some entry →
        Wired network stages container surfaces index stage entry.descriptor) ∧
      (surfaces.inputs ++ surfaces.results).Pairwise Stretch.Disjoint := by
  obtain ⟨run⟩ := exists_run success
  exact ⟨run.stages, run.placement.surfaces, run.planned, run.length_entries, run.located,
    fun _ _ _ stagePresent entryPresent => run.wired stagePresent entryPresent, run.disjoint⟩

/-- Dataflow of the assembled network. -/
theorem blend_dataflow :
    ∃ container, assemble .standard blend = .ok container ∧
      ∃ stages surfaces, Stage.plan Layout.Policy.standard.fusion blend = .ok stages ∧
        container.entries.length = stages.length ∧
        Located .standard blend stages container surfaces ∧
        (∀ (index : Nat) (stage : Stage) (entry : Entry), stages[index]? = some stage →
          container.entries[index]? = some entry →
          Wired blend stages container surfaces index stage entry.descriptor) ∧
        (surfaces.inputs ++ surfaces.results).Pairwise Stretch.Disjoint := by
  obtain ⟨container, assembled⟩ := blend_assembled
  exact ⟨container, assembled, dataflow_of_assemble assembled⟩

end Assembly
end TileProgram
