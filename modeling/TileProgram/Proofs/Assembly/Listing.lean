import TileProgram.Proofs.Assembly.Contiguous
import TileProgram.Proofs.Assembly.Dataflow
import TileProgram.Proofs.Assembly.Success

/-!
# The surfaces that a program lists

A program lists each input of its network and each result that no node reads,
once and in order.  Inputs are listed where they lie side by side from the base
address on, results where the records of their stages write them.
-/

namespace TileProgram

namespace Network

variable {network : Network}

/-- The results that nobody reads. -/
theorem mem_outputNodes_iff {index : Nat} :
    index ∈ network.outputNodes ↔ index < network.nodes.length ∧
      ∀ node ∈ network.nodes, .node index ∉ node.operands := by
  rw [outputNodes, List.mem_filter, List.mem_range, beq_iff_eq, readerCount, List.count_eq_zero,
    operands, List.mem_flatMap]
  simp only [not_exists, not_and]

theorem outputNodes_increasing (network : Network) :
    network.outputNodes.Pairwise (· < ·) :=
  List.pairwise_lt_range.filter _

/-- Nobody reads the result of the last node of a valid network. -/
theorem outputNodes_ne_nil (valid : network.validate = .ok ()) : network.outputNodes ≠ [] := by
  have some := List.length_pos_of_ne_nil (facts_of_validate valid).1
  have last : network.nodes.length - 1 ∈ network.outputNodes := by
    rw [mem_outputNodes_iff]
    refine ⟨by omega, ?_⟩
    intro node member read
    obtain ⟨index, present⟩ := List.mem_iff_getElem?.mp member
    have inside := (List.getElem?_eq_some_iff.mp present).1
    have back := refersBack_of_validate valid present _ read
    have before : network.nodes.length - 1 < index := by simpa [refersBack] using back
    omega
  exact List.ne_nil_of_mem last

end Network

namespace Assembly

open Network Stage Container

/-- The inputs of a network, listed in order and by number, where they lie. -/
structure ListsInputs (policy : Layout.Policy) (network : Network) (container : Container) :
    Prop where
  length : container.inputs.length = network.inputs.length
  listed : ∀ (number : Nat) (tensor : Tensor), network.inputs[number]? = some tensor →
    ∃ relocation, container.inputs[number]? = some relocation ∧
      relocation.kind = .surface ∧ relocation.name = "input" ++ toString number ∧
      relocation.offset.toNat =
        policy.baseAddress.toNat + policy.room (network.inputs.take number) ∧
      relocation.size.toNat = (policy.extent tensor).size

/-- The results that no node reads, listed in order and by number, where records write them. -/
structure ListsOutputs (policy : Layout.Policy) (network : Network) (stages : List Stage)
    (container : Container) (unread : List Nat) : Prop where
  increasing : unread.Pairwise (· < ·)
  mem_iff : ∀ index, index ∈ unread ↔ index < network.nodes.length ∧
    ∀ node ∈ network.nodes, .node index ∉ node.operands
  nonempty : unread ≠ []
  length : container.outputs.length = unread.length
  listed : ∀ number index : Nat, unread[number]? = some index →
    ∃ (node : Node) (place : Nat) (stage : Stage) (entry : Entry) (surface : StridedSurface)
      (relocation : Relocation),
      network.nodes[index]? = some node ∧
      stages[place]? = some stage ∧ stage.output = index ∧
      container.entries[place]? = some entry ∧
      entry.descriptor.destination = .ok (some surface) ∧
      container.outputs[number]? = some relocation ∧
      relocation.kind = .surface ∧ relocation.name = "output" ++ toString number ∧
      relocation.offset.toNat = surface.base.toNat ∧
      relocation.size.toNat = (policy.extent node.output).size

variable {policy : Layout.Policy} {network : Network} {container : Container}

namespace Run

variable (run : Run policy network container)

include run

/-- Inputs and results lie side by side. -/
theorem placement_eq :
    run.placement.inputs = placedFrom policy policy.baseAddress.toNat network.inputs ∧
      run.placement.results = placedFrom policy
        (policy.baseAddress.toNat + policy.room network.inputs)
        (run.stages.map (resultTensor network)) ∧
      policy.baseAddress.toNat + policy.room network.inputs +
        policy.room (run.stages.map (resultTensor network)) ≤ UInt32.size :=
  Assembly.placement_eq run.accepted run.valid (grown_of_plan run.planned) run.placed

/-- A program lists the inputs of its network. -/
theorem listsInputs : ListsInputs policy network container where
  length := by
    rw [run.inputs_eq, inputRelocations, List.length_mapIdx, run.length_inputs]
  listed := by
    intro number tensor present
    obtain ⟨inputs, -, room⟩ := run.placement_eq
    obtain ⟨-, -, sizes, -⟩ := placeNetwork_eq_ok run.accepted run.placed
    have placed : run.placement.inputs[number]? = some (placedAt policy
        (policy.baseAddress.toNat + policy.room (network.inputs.take number)) tensor) := by
      rw [inputs, getElem?_placedFrom, present]
      rfl
    have size := sizes _ (List.mem_append_left _ (List.mem_of_getElem? placed))
    have positive := Layout.Policy.size_pos run.accepted
      ((facts_of_validate run.valid).2.1 tensor (List.mem_of_getElem? present))
    have before := policy.room_take_add_le present
    refine ⟨surfaceRelocation "input" number (placedAt policy
      (policy.baseAddress.toNat + policy.room (network.inputs.take number)) tensor), ?_, rfl, rfl,
      ?_, (toNat_widened _).trans size⟩
    · rw [run.inputs_eq, inputRelocations, List.getElem?_mapIdx, placed]
      rfl
    · refine (toNat_widened _).trans (UInt32.toNat_ofNat_of_lt' ?_)
      omega

/-- A program lists the results that no node reads. -/
theorem listsOutputs : ListsOutputs policy network run.stages container network.outputNodes where
  increasing := outputNodes_increasing network
  mem_iff := fun _ => mem_outputNodes_iff
  nonempty := outputNodes_ne_nil run.valid
  length := by
    rw [run.outputs_eq, outputRelocations_eq run.planned, List.length_mapIdx]
  listed := by
    intro number index present
    have unread := List.mem_of_getElem? present
    obtain ⟨inside, -⟩ := mem_outputNodes_iff.mp unread
    have nodePresent := List.getElem?_eq_getElem inside
    obtain ⟨place, found⟩ := exists_producer_of_output run.planned unread
    obtain ⟨stage, stagePresent, output⟩ := output_of_producer? found
    have has : run.placement.Has (.stage place) :=
      run.has_result (List.getElem?_eq_some_iff.mp stagePresent).1
    obtain ⟨-, -, sizes, -⟩ := placeNetwork_eq_ok run.accepted run.placed
    have size := sizes _ (Placement.lookup_mem has)
    rw [tensor_result run.accepted run.placed stagePresent, resultTensor, output, nodePresent]
      at size
    have stretch : run.placement.surfaces.results[place]? =
        some (stretchOf (run.placement.lookup (.stage place))) := by
      show (run.placement.results.map stretchOf)[place]? = _
      rw [List.getElem?_map, Placement.lookup, List.getElem?_eq_getElem has]
      rfl
    obtain ⟨entry, surface, entryPresent, destination, base⟩ := run.located.result place _ stretch
    refine ⟨network.nodes[index], place, stage, entry, surface,
      surfaceRelocation "output" number (run.placement.lookup (.stage place)), nodePresent,
      stagePresent, output, entryPresent, destination, ?_, rfl, rfl,
      (toNat_widened _).trans base.symm, (toNat_widened _).trans size⟩
    rw [run.outputs_eq, outputRelocations_eq run.planned, List.getElem?_mapIdx, present]
    simp only [Option.map_some, found, Option.getD_some]

end Run

/-- A program lists the inputs of its network and the results that no node reads,
in order; the lists are the same after writing and reading. -/
theorem interface_of_assemble (success : assemble policy network = .ok container) :
    ListsInputs policy network container ∧
      (∃ stages unread, Stage.plan policy.fusion network = .ok stages ∧
        ListsOutputs policy network stages container unread) ∧
      ∃ back, Container.read container.write = .ok back ∧
        back.inputs = container.inputs ∧ back.outputs = container.outputs := by
  obtain ⟨run⟩ := exists_run success
  have back : Container.read container.write = .ok container := by
    rw [read_write_eq run.wellFormed, run.wellFormed.stored_eq run.builtIn]
  exact ⟨run.listsInputs, ⟨run.stages, _, run.planned, run.listsOutputs⟩, container, back, rfl, rfl⟩

/-- The surfaces of an assembled network are listed. -/
theorem blend_interface :
    ∃ container, assemble .standard blend = .ok container ∧
      ListsInputs .standard blend container ∧
      (∃ stages unread, Stage.plan Layout.Policy.standard.fusion blend = .ok stages ∧
        ListsOutputs .standard blend stages container unread) ∧
      ∃ back, Container.read container.write = .ok back ∧
        back.inputs = container.inputs ∧ back.outputs = container.outputs := by
  obtain ⟨container, assembled⟩ := blend_assembled
  exact ⟨container, assembled, interface_of_assemble assembled⟩

end Assembly
end TileProgram
