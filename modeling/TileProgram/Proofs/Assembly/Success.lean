import TileProgram.Proofs.Assembly.Run
import TileProgram.Proofs.Container.Names

/-!
# Assemblies that succeed

When an assembly ends with a program, and what the program shares with its caller.
-/

/-!
## When networks are assembled

A network is assembled exactly when it is valid and can be grouped, its
surfaces and blobs have room, each of its stages can be encoded and has its
lookup table, and there are few stages and relocations.  No other check of the
assembler can fail.
-/

namespace TileProgram
namespace Assembly

open Network Stage Container Register

/-- What has to hold for a network to be assembled into given stages. -/
structure Assemblable (policy : Layout.Policy) (network : Network) (stages : List Stage) :
    Prop where
  accepted : policy.validate = .ok ()
  valid : network.validate = .ok ()
  planned : Stage.plan policy.fusion network = .ok stages
  placed : ∃ placement, placeNetwork policy network stages = .ok placement
  encodable : ∀ stage ∈ stages, CanEncode (stage.nodesOf network)
    (tensorsOf network (outsideOperands network stage)) (resultTensor network stage)
  packed : Packed policy.weightAlignment.toNat 0 (stageBlobs network stages)
  tables : ∀ stage ∈ stages, tableMissing (stage.nodesOf network) = false
  few : stages.length ≤ 65536
  relocations : network.inputs.length + (stageBlobs network stages).length +
    network.outputNodes.length ≤ greatestRelocations

section Decisions

instance (primary : Node) (folded : List Node) (inputs : List Tensor) (output : Tensor)
    (weighted : Bool) : Decidable (Encodable primary folded inputs output weighted) :=
  decidable_of_iff
    (inputs.length + weighted.toNat ≤ Standard.channelCount ∧
      shapesAgree primary (inputs.take primary.operands.length) = true ∧
      Table.standard.Takes (demandingAssignments primary folded inputs output))
    ⟨fun ⟨channels, shapes, demands⟩ => ⟨channels, shapes, demands⟩,
      fun encodable => ⟨encodable.channels, encodable.shapes, encodable.demands⟩⟩

instance decidableCanEncode (inputs : List Tensor) (output : Tensor) :
    (nodes : List Node) → Decidable (CanEncode nodes inputs output)
  | [] => isFalse fun ⟨_, _, equal, _⟩ => List.cons_ne_nil _ _ equal.symm
  | primary :: folded =>
      decidable_of_iff (Encodable primary folded inputs output primary.weights.isSome)
        ⟨fun encodable => ⟨primary, folded, rfl, encodable⟩,
          fun ⟨_, _, equal, encodable⟩ => by cases equal; exact encodable⟩

/-- Whether a network can be assembled is decided without encoding its stages. -/
instance (policy : Layout.Policy) (network : Network) :
    Decidable (∃ stages, Assemblable policy network stages) :=
  decidable_of_iff
    (∃ stages, Stage.plan policy.fusion network = .ok stages ∧ policy.validate = .ok () ∧
      network.validate = .ok () ∧
      (∃ placement, placeNetwork policy network stages = .ok placement ∧ True) ∧
      (∀ stage ∈ stages, CanEncode (stage.nodesOf network)
        (tensorsOf network (outsideOperands network stage)) (resultTensor network stage)) ∧
      Packed policy.weightAlignment.toNat 0 (stageBlobs network stages) ∧
      (∀ stage ∈ stages, tableMissing (stage.nodesOf network) = false) ∧
      stages.length ≤ 65536 ∧
      network.inputs.length + (stageBlobs network stages).length +
        network.outputNodes.length ≤ greatestRelocations)
    ⟨fun ⟨stages, planned, accepted, valid, ⟨placement, placed, _⟩, encodable, packed, tables,
        few, relocations⟩ => ⟨stages, accepted, valid, planned, ⟨placement, placed⟩, encodable,
          packed, tables, few, relocations⟩,
      fun ⟨stages, accepted, valid, planned, ⟨placement, placed⟩, encodable, packed, tables,
        few, relocations⟩ => ⟨stages, planned, accepted, valid, ⟨placement, placed, trivial⟩,
          encodable, packed, tables, few, relocations⟩⟩

end Decisions

variable {policy : Layout.Policy} {network : Network} {stages : List Stage}
  {placement : Placement}

/-- The result of a stage has the tensor of the place that is found for it. -/
theorem tensor_result
    {index : Nat}
    {stage : Stage}
    (accepted : policy.validate = .ok ())
    (placed : placeNetwork policy network stages = .ok placement)
    (present : stages[index]? = some stage) :
    (placement.lookup (.stage index)).tensor = resultTensor network stage := by
  have results := congrArg (fun list => list[index]?) (placeNetwork_eq_ok accepted placed).2.1
  simp only [List.getElem?_map, present, Option.map_some] at results
  obtain ⟨one, found, tensorEq⟩ := Option.map_eq_some_iff.mp results
  rw [Placement.lookup, found, Option.getD_some, tensorEq]

/-- Every place has an interleave factor that fits its register. -/
theorem interleave_lookup
    (placed : placeNetwork policy network stages = .ok placement)
    (source : Residency.Source) :
    (placement.lookup source).surface.interleave.toNat < 16 := by
  by_cases has : placement.Has source
  · rw [(shaped_of_placeNetwork placed _ (Placement.lookup_mem has)).interleave]
    decide
  · have missing : placement.lookup source = default := by
      cases source with
      | input index =>
          rw [Placement.lookup, List.getElem?_eq_none (Nat.le_of_not_lt has), Option.getD_none]
      | stage index =>
          rw [Placement.lookup, List.getElem?_eq_none (Nat.le_of_not_lt has), Option.getD_none]
    rw [missing]
    decide

/-- The results that nobody reads, with their numbers and the stages they are results of. -/
theorem outputRelocations_eq
    (planned : Stage.plan policy.fusion network = .ok stages)
    (placement : Placement) :
    outputRelocations network stages placement =
      network.outputNodes.mapIdx fun number node =>
        surfaceRelocation "output" number
          (placement.lookup (.stage ((producer? stages node).getD 0))) := by
  have produced : ∀ node ∈ network.outputNodes, ∃ producer,
      producer? stages node = some producer :=
    fun node member => exists_producer_of_output planned member
  have all : (network.outputNodes.mapIdx fun number node =>
        (producer? stages node).map fun stage =>
          surfaceRelocation "output" number (placement.lookup (.stage stage))) =
      (network.outputNodes.mapIdx fun number node =>
        surfaceRelocation "output" number
          (placement.lookup (.stage ((producer? stages node).getD 0)))).map some := by
    apply List.ext_getElem?
    intro number
    rw [List.getElem?_map, List.getElem?_mapIdx, List.getElem?_mapIdx]
    cases present : network.outputNodes[number]? with
    | none => rfl
    | some node =>
        obtain ⟨producer, found⟩ := produced node (List.mem_of_getElem? present)
        rw [Option.map_some, Option.map_some, found]
        rfl
  rw [outputRelocations, all, List.filterMap_map]
  exact List.filterMap_some

/-- Records pass their checks when each of them is valid. -/
theorem validateFrom_eq_ok {start : Nat} {records : List Descriptor} :
    validateFrom start records = .ok () ↔ ∀ record ∈ records, record.validate = .ok () := by
  induction records generalizing start with
  | nil => simp [validateFrom]
  | cons record rest inductionHypothesis =>
      rw [validateFrom, List.forall_mem_cons]
      cases valid : record.validate with
      | error error => simp
      | ok value => simpa using inductionHypothesis

namespace Chained

variable (steps : Chained policy network)

include steps

/-- All relocations of a program. -/
def relocations : List Relocation :=
  steps.draft.relocations ++ outputRelocations network steps.stages steps.placement

/-- The relocations are those of the inputs, the blobs and the results that nobody reads. -/
theorem length_relocations :
    steps.relocations.length = network.inputs.length +
      (stageBlobs network steps.stages).length + network.outputNodes.length := by
  rw [relocations, List.length_append, length_encodeFrom steps.positive steps.encoded,
    outputRelocations_eq steps.planned, List.length_mapIdx, inputRelocations, List.length_mapIdx,
    (lengths_of_placeNetwork steps.accepted steps.placed).1]

/-- The names of the relocations fit when there are few of them. -/
theorem names_fit
    (fewRelocations : steps.relocations.length ≤ greatestRelocations) :
    ∀ relocation ∈ steps.relocations, Relocation.nameFits relocation.name = true := by
  have few := steps.few
  have bound : steps.relocations.length ≤ 255 := fewRelocations
  have lengthEq := steps.length_relocations
  have lengthInputs := (lengths_of_placeNetwork steps.accepted steps.placed).1
  intro relocation member
  obtain ⟨blobs, drafted, named⟩ := encodeFrom_named steps.positive steps.encoded
  rw [relocations, drafted] at member
  rcases List.mem_append.mp member with drafted | output
  · rcases List.mem_append.mp drafted with input | blob
    · obtain ⟨number, inside, rfl⟩ := List.mem_mapIdx.mp input
      exact nameFits_numbered (by simp) (by decide) (by omega)
    · obtain ⟨-, number, inside, weights | table⟩ := named relocation blob
      · rw [weights]
        exact nameFits_numbered (by simp) (by decide) (by omega)
      · rw [table]
        exact nameFits_numbered (by simp) (by decide) (by omega)
  · rw [outputRelocations_eq steps.planned] at output
    obtain ⟨number, inside, rfl⟩ := List.mem_mapIdx.mp output
    exact nameFits_numbered (by simp) (by decide) (by omega)

/-- A network that is accepted has nodes, so there are records. -/
theorem linked_ne_nil : steps.linked ≠ [] := by
  intro none
  have noStages : steps.stages = [] := by
    rw [← List.length_eq_zero_iff, ← steps.length_linked, none, List.length_nil]
  have divided := steps.divided
  rw [noStages, List.flatMap_nil] at divided
  have noNodes := List.range_eq_nil.mp divided.symm
  exact (facts_of_validate steps.valid).1 (List.length_eq_zero_iff.mp noNodes)

/-- The records make up a container when there are few relocations. -/
theorem exists_ofRecords (few : steps.relocations.length ≤ greatestRelocations) :
    ∃ container, ofRecords steps.linked steps.relocations steps.draft.data = .ok container := by
  obtain ⟨entries, placed⟩ := steps.exists_entries
  exact ⟨_, ofRecords_of_placed steps.linked_ne_nil few (steps.names_fit few) placed⟩

/-- The chained records pass their checks exactly when no lookup table is missing. -/
theorem validateFrom_eq_ok_iff :
    validateFrom 0 steps.linked = .ok () ↔
      ∀ stage ∈ steps.stages, tableMissing (stage.nodesOf network) = false := by
  rw [validateFrom_eq_ok]
  constructor
  · intro valid stage member
    obtain ⟨index, present⟩ := List.mem_iff_getElem?.mp member
    have inside := (List.getElem?_eq_some_iff.mp present).1
    rw [← steps.length_linked] at inside
    have changedPresent := List.getElem?_eq_getElem inside
    have passed := valid _ (List.mem_of_getElem? changedPresent)
    rw [steps.validate_eq present changedPresent] at passed
    by_contra missing
    rw [Bool.not_eq_false] at missing
    rw [if_pos missing] at passed
    cases passed
  · intro tables record member
    obtain ⟨index, present⟩ := List.mem_iff_getElem?.mp member
    obtain ⟨stage, stagePresent⟩ := steps.exists_stage present
    rw [steps.validate_eq stagePresent present,
      tables stage (List.mem_of_getElem? stagePresent)]
    rfl

end Chained

/-- A network that can be assembled has chained records. -/
theorem Assemblable.exists_chained (assemblable : Assemblable policy network stages) :
    ∃ steps : Chained policy network, steps.stages = stages := by
  obtain ⟨accepted, valid, planned, ⟨placement, placed⟩, encodable, packed, -, few, -⟩ :=
    assemblable
  obtain ⟨reads, read⟩ := exists_stageReads planned valid
  have positive := (Layout.Policy.alignments_pos accepted).2
  obtain ⟨draft, encoded⟩ := (@exists_encodeFrom_iff policy.weightAlignment.toNat network
    placement reads (Residency.Reads.plan reads) ⟨inputRelocations placement, [], []⟩ 0 stages
    positive (interleave_lookup placed)).mpr (by
      refine ⟨packed, ?_⟩
      intro index stage present
      rw [Nat.zero_add, (inputsOf_eq accepted valid planned read placed present).1,
        tensor_result accepted placed present]
      exact encodable stage (List.mem_of_getElem? present))
  have builtIn := builtIn_of_encodeFrom positive encoded
  have count : draft.records.length = stages.length := by
    simpa using (encodeFrom_extends positive encoded).2
  obtain ⟨linked, chained⟩ := @exists_chainFrom draft.records.length 0 draft.records builtIn
    (by omega)
  exact ⟨⟨stages, reads, placement, draft, linked, accepted, valid, planned, read, placed,
    encoded, chained⟩, rfl⟩

/-- The stages of an assembly that succeeded fulfil all that has to hold. -/
theorem Run.assemblable {container : Container} (run : Run policy network container) :
    Assemblable policy network run.stages := by
  obtain ⟨nonempty, fewRelocations, -, -, -, -, -⟩ := ofRecords_eq_ok run.made
  have encoded := (exists_encodeFrom_iff run.positive (interleave_lookup run.placed)).mp
    ⟨run.draft, run.encoded⟩
  refine ⟨run.accepted, run.valid, run.planned, ⟨run.placement, run.placed⟩, ?_, encoded.1,
    run.toChained.validateFrom_eq_ok_iff.mp run.sound, ?_, ?_⟩
  · intro stage member
    obtain ⟨index, present⟩ := List.mem_iff_getElem?.mp member
    have encodable := encoded.2 index stage present
    rw [Nat.zero_add, (inputsOf_eq run.accepted run.valid run.planned run.read run.placed
      present).1, tensor_result run.accepted run.placed present] at encodable
    exact encodable
  · exact run.few
  · rw [← run.toChained.length_relocations]
    exact fewRelocations

/-- A network is assembled exactly when it can be. -/
theorem exists_assemble_iff :
    (∃ container, assemble policy network = .ok container) ↔
      ∃ stages, Assemblable policy network stages := by
  constructor
  · rintro ⟨container, success⟩
    obtain ⟨run⟩ := exists_run success
    exact ⟨run.stages, run.assemblable⟩
  · rintro ⟨stages, assemblable⟩
    obtain ⟨steps, rfl⟩ := assemblable.exists_chained
    have few : steps.relocations.length ≤ greatestRelocations := by
      rw [steps.length_relocations]
      exact assemblable.relocations
    obtain ⟨container, made⟩ := steps.exists_ofRecords few
    unfold assemble
    simp only [Outcome.seq_eq_ok, Outcome.exists_unit]
    exact ⟨_, steps.accepted, steps.valid, steps.stages, steps.planned, steps.reads, steps.read,
      steps.placement, steps.placed, steps.draft, steps.encoded, steps.linked, steps.chained,
      steps.validateFrom_eq_ok_iff.mpr assemblable.tables, steps.verify_eq, made⟩

end Assembly
end TileProgram

/-!
## Surfaces shared with the caller

A program lists the inputs of its network and the results that no node reads,
both in order.  What it says of them does not depend on how nodes are grouped,
except for the addresses of the results.
-/

namespace TileProgram
namespace Assembly

open Network Stage Container

variable {policy : Layout.Policy} {network : Network} {container : Container}
  {stages : List Stage} {placement : Placement}

/-- The names and sizes of the results that no node reads. -/
def outputSizes (policy : Layout.Policy) (network : Network) : List (String × UInt64) :=
  network.outputNodes.mapIdx fun number node =>
    ("output" ++ toString number,
      UInt64.ofNat (policy.extent (resultTensor network ⟨node, []⟩)).size)

/-- The relocations of outputs have the names and sizes of the results. -/
theorem map_outputRelocations
    (accepted : policy.validate = .ok ())
    (planned : Stage.plan policy.fusion network = .ok stages)
    (placed : placeNetwork policy network stages = .ok placement) :
    (outputRelocations network stages placement).map
        (fun relocation => (relocation.name, relocation.size)) = outputSizes policy network := by
  rw [outputRelocations_eq planned]
  apply List.ext_getElem?
  intro number
  rw [List.getElem?_map, List.getElem?_mapIdx, outputSizes, List.getElem?_mapIdx]
  cases present : network.outputNodes[number]? with
  | none => rfl
  | some node =>
      obtain ⟨producer, found⟩ := exists_producer_of_output planned (List.mem_of_getElem? present)
      obtain ⟨stage, stagePresent, output⟩ := output_of_producer? found
      have tensor := tensor_result accepted placed stagePresent
      have has : placement.Has (.stage producer) := by
        show producer < placement.results.length
        rw [(lengths_of_placeNetwork accepted placed).2]
        exact (List.getElem?_eq_some_iff.mp stagePresent).1
      obtain ⟨-, -, sizes, -⟩ := placeNetwork_eq_ok accepted placed
      have size := sizes _ (Placement.lookup_mem has)
      have same : resultTensor network stage = resultTensor network ⟨node, []⟩ := by
        rw [resultTensor, output]
        rfl
      rw [tensor, same] at size
      simp only [Option.map_some, found, Option.getD_some, surfaceRelocation,
        Relocation.ofSurface, size]

namespace Run

variable (run : Run policy network container)

include run

/-- The relocations of a program: those of its inputs, of its blobs and of its outputs. -/
theorem relocations_eq :
    ∃ blobs, container.relocations = inputRelocations run.placement ++ blobs ++
        outputRelocations network run.stages run.placement ∧
      (∀ relocation ∈ blobs, relocation.kind ≠ .surface) ∧
      container.relocations.length ≤ greatestRelocations := by
  obtain ⟨-, few, -, -, -, relocations, -⟩ := ofRecords_eq_ok run.made
  obtain ⟨blobs, drafted, named⟩ := encodeFrom_named run.positive run.encoded
  refine ⟨blobs, ?_, fun relocation member => (named relocation member).1, ?_⟩
  · rw [relocations, drafted]
  · rwa [relocations]

/-- The inputs of a program are those of its network, where they were placed. -/
theorem inputs_eq : container.inputs = inputRelocations run.placement := by
  obtain ⟨blobs, relocations, kinds, few⟩ := run.relocations_eq
  have split : container.relocations = [] ++ inputRelocations run.placement ++
      (blobs ++ outputRelocations network run.stages run.placement) := by
    rw [relocations, List.nil_append, List.append_assoc]
  refine surfaces_eq split ?_ ?_ ?_
  · intro relocation member kind
    rw [List.nil_append] at member
    rcases List.mem_append.mp member with blob | output
    · exact absurd kind (kinds relocation blob)
    · obtain ⟨number, placed, rfl⟩ := mem_outputRelocations output
      exact numberAfter?_of_ne ⟨0, by decide, by decide, by decide⟩ _
  · intro number relocation present
    rw [inputRelocations, List.getElem?_mapIdx] at present
    obtain ⟨placed, -, rfl⟩ := Option.map_eq_some_iff.mp present
    exact ⟨rfl, rfl⟩
  · exact Nat.le_trans few (by decide)

/-- The outputs of a program are the results that no node reads. -/
theorem outputs_eq :
    container.outputs = outputRelocations network run.stages run.placement := by
  obtain ⟨blobs, relocations, kinds, few⟩ := run.relocations_eq
  have split : container.relocations = (inputRelocations run.placement ++ blobs) ++
      outputRelocations network run.stages run.placement ++ [] := by
    rw [relocations, List.append_nil]
  refine surfaces_eq split ?_ ?_ ?_
  · intro relocation member kind
    rw [List.append_nil] at member
    rcases List.mem_append.mp member with input | blob
    · obtain ⟨number, inside, rfl⟩ := List.mem_mapIdx.mp input
      exact numberAfter?_of_ne ⟨0, by decide, by decide, by decide⟩ _
    · exact absurd kind (kinds relocation blob)
  · intro number relocation present
    rw [outputRelocations_eq run.planned, List.getElem?_mapIdx] at present
    obtain ⟨node, -, rfl⟩ := Option.map_eq_some_iff.mp present
    exact ⟨rfl, rfl⟩
  · exact Nat.le_trans few (by decide)

/-- The outputs have the names and sizes of the results that no node reads. -/
theorem map_outputs :
    container.outputs.map (fun relocation => (relocation.name, relocation.size)) =
      outputSizes policy network := by
  rw [run.outputs_eq]
  exact map_outputRelocations run.accepted run.planned run.placed

end Run
end Assembly
end TileProgram
