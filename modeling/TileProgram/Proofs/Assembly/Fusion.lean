import TileProgram.Proofs.Assembly.RoundTrip
import TileProgram.Proofs.Assembly.Success

/-!
# Folding never hurts

A network that is assembled node by node is assembled with folding as well.
The folded program has no more records, the same inputs at the same addresses,
and the same outputs.
-/

namespace TileProgram
namespace Assembly

open Network Stage Container Register

section Stages

variable {network : Network} {stage : Stage}

/-- The nodes of a stage are those at its indices. -/
theorem nodesOf_single {index : Nat} {node : Node} (present : network.nodes[index]? = some node) :
    Stage.nodesOf ⟨index, []⟩ network = [node] := by
  rw [nodesOf, Stage.nodes, List.filterMap_cons, present, List.filterMap_nil]

theorem outsideOperands_single (network : Network) (index : Nat) :
    outsideOperands network ⟨index, []⟩ = operandsAt network index :=
  List.append_nil _

theorem resultTensor_single
    {index : Nat}
    {node : Node}
    (present : network.nodes[index]? = some node) :
    resultTensor network ⟨index, []⟩ = node.output := by
  show ((network.nodes[index]?).map Node.output).getD default = _
  rw [present]
  rfl

/-- A stage of one node can be encoded when the node can. -/
theorem canEncode_single
    {index : Nat}
    {node : Node}
    (present : network.nodes[index]? = some node) :
    CanEncode (Stage.nodesOf ⟨index, []⟩ network)
        (tensorsOf network (outsideOperands network ⟨index, []⟩))
        (resultTensor network ⟨index, []⟩) ↔
      Encodable node [] (tensorsOf network node.operands) node.output node.weights.isSome := by
  rw [nodesOf_single present, outsideOperands_single, operandsAt_eq present,
    resultTensor_single present]
  constructor
  · rintro ⟨primary, folded, equal, encodable⟩
    cases equal
    exact encodable
  · exact fun encodable => ⟨node, [], rfl, encodable⟩

/-- The blobs of a stage are among those of its nodes taken one by one. -/
theorem blobsOf_sublist (nodes : List Node) :
    (blobsOf nodes).Sublist (nodes.flatMap fun node => blobsOf [node]) := by
  cases nodes with
  | nil => exact List.Sublist.refl _
  | cons primary rest =>
      have weights : (blobsOf (primary :: rest)) = (weightBytes primary).toList ++
          ((lookup? (primary :: rest)).map LookupTable.toBytes).toList := rfl
      have alone : ∀ node : Node, blobsOf [node] = (weightBytes node).toList ++
          ((tableOf? node).map LookupTable.toBytes).toList := by
        intro node
        rw [blobsOf, lookup?_cons]
        rfl
      rw [weights, List.flatMap_cons, alone primary, lookup?_cons, List.append_assoc]
      apply (List.Sublist.refl _).append
      cases later : lookup? rest with
      | none => exact List.sublist_append_left _ _
      | some table =>
          apply List.Sublist.trans _ (List.sublist_append_right _ _)
          rw [Option.some_or, Option.map_some, Option.toList_some, List.singleton_sublist]
          obtain ⟨node, member, found⟩ := List.mem_filterMap.mp (List.mem_of_getLast? later)
          refine List.mem_flatMap.mpr ⟨node, member, ?_⟩
          rw [alone node, found]
          simp

/-- A stage lacks its lookup table only if one of its nodes does. -/
theorem tableMissing_eq_false
    {nodes : List Node}
    (tables : ∀ node ∈ nodes, tableMissing [node] = false) :
    tableMissing nodes = false := by
  unfold tableMissing selected
  cases last : lastActive? nodes with
  | none => rfl
  | some node =>
      obtain ⟨member, active⟩ := List.mem_filter.mp (List.mem_of_getLast? last)
      have here := tables node member
      have alone : lastActive? [node] = some node := by
        rw [lastActive?, List.filter_cons, if_pos active]
        rfl
      unfold tableMissing selected at here
      rw [alone] at here
      rw [Option.map_some, Option.getD_some] at here ⊢
      cases needs : node.activation.kind.needsTable with
      | false => rfl
      | true =>
          rw [needs, Bool.true_and] at here
          rw [Bool.true_and]
          have found : tableOf? node ≠ none := by
            intro missing
            rw [lookup?_cons, missing] at here
            cases here
          obtain ⟨table, found⟩ := Option.ne_none_iff_exists'.mp found
          have present : table ∈ nodes.filterMap tableOf? :=
            List.mem_filterMap.mpr ⟨node, member, found⟩
          rw [lookup?, Option.isNone_eq_false_iff, List.getLast?_isSome]
          exact List.ne_nil_of_mem present

end Stages

section Grown

variable {network : Network} {stage : Stage}

/-- A primary operation has one operand. -/
theorem count_of_isPrimary
    {operation : Operation}
    {count : Nat}
    {weighted : Bool}
    (primary : operation.isPrimary = true)
    (accepted : operation.acceptsOperands count weighted = true) :
    count = 1 := by
  cases operation with
  | convolution | pooling => exact eq_of_beq accepted
  | _ => cases primary

/-- A secondary operation has at most two operands. -/
theorem count_of_isSecondary
    {operation : Operation}
    {count : Nat}
    {weighted : Bool}
    (secondary : operation.isSecondary = true)
    (accepted : operation.acceptsOperands count weighted = true) :
    count ≤ 2 := by
  cases operation with
  | pointwise => exact (eq_of_beq accepted).le
  | scaleBias | activation =>
      have single : count = 1 := eq_of_beq accepted
      omega
  | _ => cases secondary

/-- Folded nodes read no more from outside than they have operands. -/
theorem length_foldedOperands_le
    {previous : Nat}
    {folded : List Nat}
    (short : ∀ index ∈ folded, (operandsAt network index).length ≤ 2) :
    (foldedOperands network previous folded).length ≤ 2 * folded.length := by
  induction folded generalizing previous with
  | nil => exact Nat.zero_le _
  | cons index rest inductionHypothesis =>
      obtain ⟨here, others⟩ := List.forall_mem_cons.mp short
      have erased : ((operandsAt network index).erase (.node previous)).length ≤
          (operandsAt network index).length := List.length_erase_le
      have later := @inductionHypothesis index others
      rw [foldedOperands, List.length_append, List.length_cons]
      omega

/-- A stage with folded nodes reads through few channels. -/
theorem length_outsideOperands_le
    (valid : network.validate = .ok ())
    (grown : Grown network stage)
    (nonempty : stage.folded ≠ []) :
    (outsideOperands network stage).length + 1 ≤ Standard.channelCount := by
  have inside := grown.lt_of_mem (show stage.primary ∈ stage.nodes from List.mem_cons_self)
  have primaryPresent := List.getElem?_eq_getElem inside
  have isPrimary := grown.isPrimary nonempty
  rw [primaryPresent, Option.any_some] at isPrimary
  have one : (operandsAt network stage.primary).length = 1 := by
    rw [operandsAt_eq primaryPresent]
    exact count_of_isPrimary isPrimary (accepted_of_validate valid primaryPresent).1
  have short : ∀ index ∈ stage.folded, (operandsAt network index).length ≤ 2 := by
    intro index member
    have present := List.getElem?_eq_getElem (grown.lt_of_mem (List.mem_cons_of_mem _ member))
    rw [operandsAt_eq present]
    exact count_of_isSecondary (grown.isSecondary member present)
      (accepted_of_validate valid present).1
  have folded := @length_foldedOperands_le network stage.primary stage.folded short
  have room : stage.folded.length ≤ 7 := grown.length_folded_le
  rw [outsideOperands, List.length_append]
  show _ ≤ 16
  omega

/-- The first operand of a stage is the one of its primary node. -/
theorem head?_outsideOperands
    {primary : Node}
    (valid : network.validate = .ok ())
    (present : network.nodes[stage.primary]? = some primary) :
    (tensorsOf network (outsideOperands network stage)).head? =
      (tensorsOf network primary.operands).head? := by
  obtain ⟨operand, tensor, first, found⟩ := exists_firstOperand valid present
  have alone := head?_tensorsOf [] first found
  rw [List.append_nil] at alone
  rw [outsideOperands, operandsAt_eq present, head?_tensorsOf _ first found, alone]

/-- A stage with folded nodes can be encoded when each of its nodes can. -/
theorem encodable_of_grown
    {primary : Node}
    {folded : List Node}
    (valid : network.validate = .ok ())
    (grown : Grown network stage)
    (nonempty : stage.folded ≠ [])
    (present : network.nodes[stage.primary]? = some primary)
    (foldedPresent : stage.folded.map (fun index => network.nodes[index]?) = folded.map some)
    (each : ∀ (index : Nat) (node : Node), network.nodes[index]? = some node →
      Encodable node [] (tensorsOf network node.operands) node.output node.weights.isSome) :
    Encodable primary folded (tensorsOf network (outsideOperands network stage))
      (resultTensor network stage) primary.weights.isSome := by
  have isPrimary := grown.isPrimary nonempty
  rw [present, Option.any_some] at isPrimary
  obtain ⟨inputRoom, -, primaryRoom, activationRoom, -⟩ :=
    takes_demanding_iff.mp (each stage.primary primary present).demands
  refine ⟨?_, ?_, takes_demanding_iff.mpr ⟨?_, ?_, primaryRoom, ?_, ?_⟩⟩
  · have few := length_outsideOperands_le valid grown nonempty
    have tensors : (tensorsOf network (outsideOperands network stage)).length ≤
        (outsideOperands network stage).length := List.length_filterMap_le _ _
    have weighted : primary.weights.isSome.toNat ≤ 1 := Bool.toNat_le _
    omega
  · unfold shapesAgree
    cases operation : primary.operation <;> simp_all [Operation.isPrimary]
  · rwa [head?_outsideOperands valid present]
  · -- The extents of the result are those that the last node has room for.
    have lastInside := grown.lt_of_mem (output_mem_nodes stage)
    have lastPresent := List.getElem?_eq_getElem lastInside
    rw [resultTensor, lastPresent]
    exact (takes_demanding_iff.mp (each _ _ lastPresent).demands).2.1
  · refine List.forall_mem_cons.mpr ⟨activationRoom primary List.mem_cons_self, ?_⟩
    intro node member
    have mapped := List.mem_map_of_mem (f := some) member
    rw [← foldedPresent] at mapped
    obtain ⟨index, -, present⟩ := List.mem_map.mp mapped
    exact (takes_demanding_iff.mp (each index node present).demands).2.2.2.1 node
      List.mem_cons_self
  · have lengths := congrArg List.length foldedPresent
    rw [List.length_map, List.length_map] at lengths
    have room : stage.folded.length ≤ 7 := grown.length_folded_le
    have width : (Table.standard.find? Registers.foldedCount).map Field.width = some 3 := rfl
    refine Table.hasRoom_unsigned width ?_
    show min folded.length 255 < 8
    omega

/-- A stage can be encoded when each of its nodes can. -/
theorem canEncode_of_grown
    (valid : network.validate = .ok ())
    (grown : Grown network stage)
    (each : ∀ (index : Nat) (node : Node), network.nodes[index]? = some node →
      Encodable node [] (tensorsOf network node.operands) node.output node.weights.isSome) :
    CanEncode (stage.nodesOf network) (tensorsOf network (outsideOperands network stage))
      (resultTensor network stage) := by
  obtain ⟨primary, folded, present, foldedPresent, nodesEq⟩ := nodesOf_grown grown
  by_cases nonempty : stage.folded = []
  · have single : stage = ⟨stage.primary, []⟩ := by rw [← nonempty]
    rw [single]
    exact (canEncode_single present).mpr (each stage.primary primary present)
  · exact ⟨primary, folded, nodesEq,
      encodable_of_grown valid grown nonempty present foldedPresent each⟩

end Grown

section Plans

variable {policy : Layout.Policy} {network : Network} {stages : List Stage}

/-- The outcomes of stages are those of nodes, in order. -/
theorem outputs_sublist
    (divided : stages.flatMap Stage.nodes = List.range network.nodes.length) :
    (stages.map Stage.output).Sublist (List.range network.nodes.length) := by
  rw [← divided, ← List.flatMap_singleton' (stages.map Stage.output), List.flatMap_map]
  apply List.Sublist.flatMap_right
  intro stage _
  exact List.singleton_sublist.mpr (output_mem_nodes stage)

/-- There are at most as many stages as nodes. -/
theorem length_stages_le
    (divided : stages.flatMap Stage.nodes = List.range network.nodes.length) :
    stages.length ≤ network.nodes.length := by
  have lengths := (outputs_sublist divided).length_le
  rwa [List.length_map, List.length_range] at lengths

/-- The blobs of the nodes of a stage are those of the stages that the nodes are by themselves. -/
theorem flatMap_blobsOf (network : Network) (stage : Stage) :
    (stage.nodesOf network).flatMap (fun node => blobsOf [node]) =
      stage.nodes.flatMap fun index => blobsOf (Stage.nodesOf ⟨index, []⟩ network) := by
  rw [nodesOf]
  induction stage.nodes with
  | nil => rfl
  | cons index rest inductionHypothesis =>
      rw [List.filterMap_cons, List.flatMap_cons, ← inductionHypothesis]
      cases present : network.nodes[index]? with
      | none =>
          have none : Stage.nodesOf ⟨index, []⟩ network = [] := by
            rw [nodesOf, Stage.nodes, List.filterMap_cons, present, List.filterMap_nil]
          rw [none]
          rfl
      | some node => rw [nodesOf_single present, List.flatMap_cons]

/-- The blobs of stages are among those of the nodes taken one by one. -/
theorem stageBlobs_sublist
    (divided : stages.flatMap Stage.nodes = List.range network.nodes.length) :
    (stageBlobs network stages).Sublist (stageBlobs network (singles network)) := by
  have alone : stageBlobs network (singles network) =
      stages.flatMap fun stage => stage.nodes.flatMap fun index =>
        blobsOf (Stage.nodesOf ⟨index, []⟩ network) := by
    rw [stageBlobs, singles, List.flatMap_map, ← divided, List.flatMap_assoc]
  rw [alone, stageBlobs]
  apply List.Sublist.flatMap_right
  intro stage _
  rw [← flatMap_blobsOf]
  exact blobsOf_sublist _

/-- The results of stages are among those of the nodes. -/
theorem resultTensors_sublist
    (divided : stages.flatMap Stage.nodes = List.range network.nodes.length) :
    (stages.map (resultTensor network)).Sublist
      ((singles network).map (resultTensor network)) := by
  have results : stages.map (resultTensor network) =
      (stages.map Stage.output).map fun index => resultTensor network ⟨index, []⟩ := by
    rw [List.map_map]
    rfl
  have alone : (singles network).map (resultTensor network) =
      (List.range network.nodes.length).map fun index => resultTensor network ⟨index, []⟩ :=
    List.map_map
  rw [results, alone]
  exact (outputs_sublist divided).map _

/-- Placing does not depend on whether nodes are folded. -/
theorem placeNetwork_fusion (policy : Layout.Policy) (fusion : Bool) :
    placeNetwork { policy with fusion := fusion } network stages =
      placeNetwork policy network stages := by
  unfold placeNetwork
  simp only [@placeAll_congr policy { policy with fusion := fusion } rfl]
  rfl

/-- A network that can be assembled node by node can be assembled with folding. -/
theorem Assemblable.fused
    (plain : Assemblable { policy with fusion := false } network stages) :
    ∃ fused, Assemblable { policy with fusion := true } network fused := by
  have single : stages = singles network := by
    have planned := plain.planned
    rw [plan_unfused] at planned
    exact (Except.ok.inj planned).symm
  subst single
  have each : ∀ (index : Nat) (node : Node), network.nodes[index]? = some node →
      Encodable node [] (tensorsOf network node.operands) node.output node.weights.isSome :=
    fun _ _ present => (canEncode_single present).mp (plain.encodable _ (mem_singles present))
  have agree : ∀ node ∈ network.nodes,
      shapesAgree node (tensorsOf network node.operands) = true := by
    intro node present
    obtain ⟨index, present⟩ := List.mem_iff_getElem?.mp present
    have shapes := (each index node present).shapes
    have all : (tensorsOf network node.operands).length ≤ node.operands.length :=
      List.length_filterMap_le _ _
    rwa [List.take_of_length_le all] at shapes
  obtain ⟨fused, planned⟩ := exists_plan agree
  obtain ⟨-, divided⟩ := plan_eq_ok planned
  have grown := grown_of_plan planned
  have fewer := length_stages_le divided
  have blobs := stageBlobs_sublist divided
  have accepted : policy.validate = .ok () := plain.accepted
  refine ⟨fused, plain.accepted, plain.valid, planned, ?_, ?_, ?_, ?_, ?_, ?_⟩
  · obtain ⟨placement, placed⟩ := plain.placed
    rw [placeNetwork_fusion] at placed ⊢
    exact exists_placeNetwork_of_sublist accepted (resultTensors_sublist divided) placed
  · exact fun stage present => canEncode_of_grown plain.valid (grown stage present) each
  · exact plain.packed.mono (Layout.Policy.alignments_of_validate plain.accepted).2.2
      (Nat.le_refl _) blobs
  · intro stage present
    apply tableMissing_eq_false
    intro node nodeMember
    obtain ⟨index, -, nodePresent⟩ := List.mem_filterMap.mp nodeMember
    have table := plain.tables _ (mem_singles nodePresent)
    rwa [nodesOf_single nodePresent] at table
  · have few := plain.few
    rw [length_singles] at few
    omega
  · have relocations := plain.relocations
    have fewerBlobs := blobs.length_le
    omega

/-- The results that no node reads are as large with folding as without. -/
theorem outputSizes_fusion (policy : Layout.Policy) (network : Network) (fusion : Bool) :
    outputSizes { policy with fusion := fusion } network = outputSizes policy network :=
  rfl

end Plans

/-- A network that is assembled node by node is assembled with folding as well;
the folded program has no more records, the same inputs at the same addresses,
and outputs of the same names and sizes. -/
theorem assemble_fused
    {policy : Layout.Policy}
    {network : Network}
    {plain : Container}
    (success : assemble { policy with fusion := false } network = .ok plain) :
    ∃ fused, assemble { policy with fusion := true } network = .ok fused ∧
      fused.entries.length ≤ plain.entries.length ∧
      fused.inputs = plain.inputs ∧
      fused.outputs.map (fun relocation => (relocation.name, relocation.size)) =
        plain.outputs.map fun relocation => (relocation.name, relocation.size) := by
  obtain ⟨plainRun⟩ := exists_run success
  obtain ⟨stages, assemblable⟩ := plainRun.assemblable.fused
  obtain ⟨fused, fusedSuccess⟩ := exists_assemble_iff.mpr ⟨stages, assemblable⟩
  obtain ⟨fusedRun⟩ := exists_run fusedSuccess
  refine ⟨fused, fusedSuccess, ?_, ?_, ?_⟩
  · -- Without folding there is one record for each node.
    have planned := plainRun.planned
    rw [plan_unfused] at planned
    rw [fusedRun.length_entries, plainRun.length_entries, ← Except.ok.inj planned,
      length_singles]
    exact length_stages_le fusedRun.divided
  · have plainPlaced := plainRun.placed
    have fusedPlaced := fusedRun.placed
    rw [placeNetwork_fusion] at plainPlaced fusedPlaced
    rw [fusedRun.inputs_eq, plainRun.inputs_eq, inputRelocations, inputRelocations,
      inputs_eq_of_placeNetwork fusedPlaced plainPlaced]
  · rw [fusedRun.map_outputs, plainRun.map_outputs, outputSizes_fusion policy network true,
      outputSizes_fusion policy network false]

/-- A network is assembled node by node, and so with folding. -/
theorem blend_assembled_fused :
    ∃ plain, assemble { Layout.Policy.standard with fusion := false } blend = .ok plain ∧
      ∃ fused, assemble { Layout.Policy.standard with fusion := true } blend = .ok fused ∧
        fused.entries.length ≤ plain.entries.length ∧
        fused.inputs = plain.inputs ∧
        fused.outputs.map (fun relocation => (relocation.name, relocation.size)) =
          plain.outputs.map fun relocation => (relocation.name, relocation.size) := by
  obtain ⟨plain, success⟩ : ∃ plain,
      assemble { Layout.Policy.standard with fusion := false } blend = .ok plain :=
    exists_assemble_iff.mpr (by decide +kernel)
  exact ⟨plain, success, assemble_fused success⟩

end Assembly
end TileProgram
