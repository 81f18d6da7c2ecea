import TileProgram.Proofs.Assembly.DataSection
import TileProgram.Proofs.Assembly.Success

/-!
# Weights in programs

A program holds the weights of the first node of each stage, and no others: the
weights of a node that is folded into the record of another one are lost.
-/

namespace TileProgram
namespace Assembly

open Network Stage Container

/-- The relocations of weights. -/
def weightRelocations (relocations : List Relocation) : List Relocation :=
  relocations.filter fun relocation => relocation.kind == .weight

/-- A relocation says where in the data section the weights of a record are. -/
structure LocatesWeights (data : Bytes) (relocation : Relocation) (record : Nat) (blob : Bytes) :
    Prop where
  kind : relocation.kind = .weight
  record : relocation.record.toNat = record
  inside : relocation.offset.toNat + relocation.size.toNat ≤ data.length
  bytes : data.slice relocation.offset.toNat relocation.size.toNat = blob

/-- All weights of a network are in a program, each with its stage. -/
structure HasAllWeights (network : Network) (stages : List Stage) (container : Container) :
    Prop where
  count : (weightRelocations container.relocations).length =
    network.nodes.countP fun node => node.weights.isSome
  located : ∀ (number : Nat) (stage : Stage), stages[number]? = some stage →
    ∀ index ∈ stage.nodes, ∀ (node : Node) (blob : Bytes), network.nodes[index]? = some node →
      weightBytes node = some blob →
      ∃ relocation ∈ container.relocations,
        LocatesWeights container.data relocation number blob

/-- The weights of the first nodes of stages, with the numbers of the stages. -/
def firstWeights (network : Network) (number : Nat) : List Stage → List (Nat × Bytes)
  | [] => []
  | stage :: rest =>
      (stageWeights network stage).toList.map (fun blob => (number, blob)) ++
        firstWeights network (number + 1) rest

section Nodes

variable {network : Network} {stages : List Stage}

/-- A stage has weights exactly when its first node does. -/
theorem mem_firstWeights
    {start number : Nat}
    {stage : Stage}
    {blob : Bytes}
    (present : stages[number]? = some stage)
    (weights : stageWeights network stage = some blob) :
    (start + number, blob) ∈ firstWeights network start stages := by
  induction stages generalizing start number with
  | nil => cases present
  | cons first rest inductionHypothesis =>
      rw [firstWeights, List.mem_append]
      cases number with
      | zero =>
          cases present
          rw [weights]
          exact Or.inl List.mem_cons_self
      | succ number =>
          right
          have later := @inductionHypothesis (start + 1) number present
          rwa [Nat.add_assoc, Nat.add_comm 1] at later

/-- The nodes of a network are those of its stages in order. -/
theorem nodes_eq_flatMap
    (divided : stages.flatMap Stage.nodes = List.range network.nodes.length) :
    network.nodes = stages.flatMap fun stage => stage.nodesOf network := by
  have all : (List.range network.nodes.length).map (fun index => network.nodes[index]?) =
      network.nodes.map some := by
    apply List.ext_getElem?
    intro index
    by_cases inside : index < network.nodes.length
    · simp [inside]
    · simp [inside]
  have split : stages.flatMap (fun stage => stage.nodesOf network) =
      (stages.flatMap Stage.nodes).filterMap fun index => network.nodes[index]? := by
    rw [List.filterMap_flatMap]
    rfl
  have chosen := congrArg (List.filterMap id) all
  rw [List.filterMap_map, List.filterMap_map, Function.id_comp, Function.id_comp,
    List.filterMap_some] at chosen
  rw [split, divided, chosen]

/-- A node has weights exactly when its weights have bytes. -/
theorem isSome_weightBytes (node : Node) : (weightBytes node).isSome = node.weights.isSome :=
  Option.isSome_map

/-- The nodes with weights are the first nodes with weights and the folded ones. -/
theorem countP_weights
    (consecutive : stages.flatMap Stage.nodes = List.range network.nodes.length)
    (start : Nat) :
    (network.nodes.countP fun node => node.weights.isSome) =
      (firstWeights network start stages).length +
        (stages.flatMap fun stage => (stage.nodesOf network).tail).countP
          fun node => node.weights.isSome := by
  have heads : ∀ stage ∈ stages, (stage.nodesOf network).head? = network.nodes[stage.primary]? :=
    fun stage present => head?_nodesOf consecutive present
  rw [nodes_eq_flatMap consecutive]
  clear consecutive
  induction stages generalizing start with
  | nil => rfl
  | cons stage rest inductionHypothesis =>
      obtain ⟨head, others⟩ := List.forall_mem_cons.mp heads
      have here : ((stage.nodesOf network).countP fun node => node.weights.isSome) =
          (stageWeights network stage).toList.length +
            (stage.nodesOf network).tail.countP fun node => node.weights.isSome := by
        rw [stageWeights, ← head]
        cases nodes : stage.nodesOf network with
        | nil => rfl
        | cons primary folded =>
            have weighted := isSome_weightBytes primary
            rw [List.countP_cons, ← weighted, List.head?_cons, Option.bind_some, List.tail_cons]
            cases weightBytes primary <;> simp [Nat.add_comm]
      rw [List.flatMap_cons, List.flatMap_cons, List.countP_append, List.countP_append, here,
        inductionHypothesis (start + 1) others, firstWeights, List.length_append, List.length_map]
      omega

end Nodes

/-- The blobs of stages that are weights are those of the first nodes. -/
theorem weights_ofStages (network : Network) (number : Nat) (stages : List Stage) :
    ((Blob.ofStages network number stages).filter fun blob => blob.kind == .weight).map
        (fun blob => (blob.stage, blob.bytes)) =
      firstWeights network number stages := by
  induction stages generalizing number with
  | nil => rfl
  | cons stage rest inductionHypothesis =>
      have here : ((Blob.ofStage network number stage).filter fun blob =>
          blob.kind == .weight).map (fun blob => (blob.stage, blob.bytes)) =
          (stageWeights network stage).toList.map fun blob => (number, blob) := by
        unfold Blob.ofStage
        cases stageWeights network stage <;>
          cases (lookup? (stage.nodesOf network)).map LookupTable.toBytes <;> rfl
      rw [Blob.ofStages, List.filter_append, List.map_append, here, inductionHypothesis,
        firstWeights]

section Programs

variable {policy : Layout.Policy} {network : Network} {container : Container}

namespace Run

variable (run : Run policy network container)

include run

/-- The weights in a program are those of the first nodes of stages. -/
theorem weights :
    List.Forall₂ (fun relocation held => LocatesWeights container.data relocation held.1 held.2)
      (weightRelocations container.relocations) (firstWeights network 0 run.stages) := by
  have chosen : weightRelocations container.relocations =
      (blobRelocations container.relocations).filter fun relocation =>
        relocation.kind == .weight := by
    rw [weightRelocations, blobRelocations, List.filter_filter]
    refine List.filter_congr fun relocation _ => ?_
    cases kind : relocation.kind <;> simp [locatesBlob, kind]
  have described : List.Forall₂ (Describes container.data)
      ((blobRelocations container.relocations).filter fun relocation =>
        relocation.kind == .weight)
      ((Blob.ofStages network 0 run.stages).filter fun blob => blob.kind == .weight) := by
    refine List.rel_filter ?_ run.stored.described
    intro relocation blob describes
    dsimp only
    rw [describes.kind]
  have weights : ∀ relocation ∈ weightRelocations container.relocations,
      relocation.kind = .weight := by
    intro relocation present
    simpa using (List.mem_filter.mp present).2
  rw [← chosen] at described
  rw [← weights_ofStages, List.forall₂_map_right_iff]
  refine ((List.forall₂_and_left _ _).mpr ⟨weights, described⟩).imp ?_
  rintro relocation blob ⟨kind, describes⟩
  exact ⟨kind, describes.record, describes.inside, describes.bytes⟩

/-- The program has all weights exactly when no folded node has any. -/
theorem hasAllWeights_iff :
    HasAllWeights network run.stages container ↔
      ∀ stage ∈ run.stages, ∀ index ∈ stage.folded, ∀ (node : Node),
        network.nodes[index]? = some node → node.weights = none := by
  have located := run.weights
  have count := countP_weights run.divided 0
  have folded : ∀ stage ∈ run.stages,
      (stage.nodesOf network).tail = stage.folded.filterMap fun index => network.nodes[index]? := by
    intro stage present
    have inside := lt_of_mem_nodes run.divided present List.mem_cons_self
    rw [nodesOf, Stage.nodes, List.filterMap_cons, List.getElem?_eq_getElem inside]
    rfl
  constructor
  · intro all stage present index member node nodePresent
    have lost := all.count
    rw [located.length_eq, count, Nat.left_eq_add, List.countP_eq_zero] at lost
    have here : node ∈ run.stages.flatMap fun stage => (stage.nodesOf network).tail := by
      refine List.mem_flatMap.mpr ⟨stage, present, ?_⟩
      rw [folded stage present]
      exact List.mem_filterMap.mpr ⟨index, member, nodePresent⟩
    simpa using lost node here
  · intro none
    refine ⟨?_, ?_⟩
    · rw [located.length_eq, count, Nat.left_eq_add, List.countP_eq_zero]
      intro node member
      obtain ⟨stage, present, member⟩ := List.mem_flatMap.mp member
      rw [folded stage present] at member
      obtain ⟨index, member, nodePresent⟩ := List.mem_filterMap.mp member
      simp [none stage present index member node nodePresent]
    · intro number stage present index member node blob nodePresent weights
      rcases List.mem_cons.mp member with rfl | member
      · have held : stageWeights network stage = some blob := by
          rw [stageWeights, nodePresent]
          exact weights
        have kept : (0 + number, blob) ∈ firstWeights network 0 run.stages :=
          mem_firstWeights present held
        rw [Nat.zero_add] at kept
        obtain ⟨position, inside, equal⟩ := List.mem_iff_getElem.mp kept
        have found := located.get (located.length_eq ▸ inside) inside
        rw [List.get_eq_getElem, List.get_eq_getElem, equal] at found
        exact ⟨_, List.mem_of_mem_filter (List.getElem_mem _), found⟩
      · have without := none stage (List.mem_of_getElem? present) index member node nodePresent
        rw [weightBytes, without] at weights
        cases weights

end Run

/-- A program has the weights of the first node of each stage, in order, each
with the number of its stage; so it has all weights of its network exactly when
no node with weights is folded into the record of another one. -/
theorem weights_of_assemble (success : assemble policy network = .ok container) :
    ∃ stages, Stage.plan policy.fusion network = .ok stages ∧
      List.Forall₂ (fun relocation held => LocatesWeights container.data relocation held.1 held.2)
        (weightRelocations container.relocations) (firstWeights network 0 stages) ∧
      (HasAllWeights network stages container ↔
        ∀ stage ∈ stages, ∀ index ∈ stage.folded, ∀ (node : Node),
          network.nodes[index]? = some node → node.weights = none) := by
  obtain ⟨run⟩ := exists_run success
  exact ⟨run.stages, run.planned, run.weights, run.hasAllWeights_iff⟩

/-- The weights in the assembled network. -/
theorem blend_weights :
    ∃ container, assemble .standard blend = .ok container ∧
      ∃ stages, Stage.plan Layout.Policy.standard.fusion blend = .ok stages ∧
        List.Forall₂ (fun relocation held => LocatesWeights container.data relocation held.1 held.2)
          (weightRelocations container.relocations) (firstWeights blend 0 stages) ∧
        (HasAllWeights blend stages container ↔
          ∀ stage ∈ stages, ∀ index ∈ stage.folded, ∀ (node : Node),
            blend.nodes[index]? = some node → node.weights = none) := by
  obtain ⟨container, assembled⟩ := blend_assembled
  exact ⟨container, assembled, weights_of_assemble assembled⟩

/-- A convolution with weights, and a scaling with weights that is folded into it. -/
def rescaled : Network :=
  { inputs := [strip]
    nodes :=
      [ ⟨.convolution (1, 1) (1, 1) (0, 0) 1, [.input 0], strip, ⟨.identity, ⟨0⟩, ⟨0⟩⟩,
          some [⟨0x3F800000⟩], none⟩,
        ⟨.scaleBias ⟨0x40000000⟩ ⟨0⟩, [.node 0], strip, ⟨.identity, ⟨0⟩, ⟨0⟩⟩,
          some [⟨0x3F800000⟩], none⟩ ] }

/-- The weights of the scaling are lost. -/
theorem weights_lost :
    ∃ container stages, assemble .standard rescaled = .ok container ∧
      Stage.plan Layout.Policy.standard.fusion rescaled = .ok stages ∧
      ¬ HasAllWeights rescaled stages container := by
  obtain ⟨container, assembled⟩ : ∃ container, assemble .standard rescaled = .ok container :=
    exists_assemble_iff.mpr (by decide +kernel)
  obtain ⟨run⟩ := exists_run assembled
  have planned : Stage.plan Layout.Policy.standard.fusion rescaled = .ok [⟨0, [1]⟩] := by
    decide +kernel
  have stages := Except.ok.inj (run.planned.symm.trans planned)
  refine ⟨container, run.stages, assembled, run.planned, ?_⟩
  rw [run.hasAllWeights_iff, stages]
  intro none
  exact absurd (none _ List.mem_cons_self 1 List.mem_cons_self _ rfl) (by decide)

end Programs
end Assembly
end TileProgram
