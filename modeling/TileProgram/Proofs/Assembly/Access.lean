import TileProgram.Proofs.Assembly.Run
import TileProgram.Proofs.Descriptor.Access

/-!
# Indices of the assembler

The assembler finds nodes, reader counts, producers, places, hints and records
by index, and it writes registers in place.  The assembler of this module guards
each of these accesses, and it is the assembler that runs: an index that is used
was counted from the list it is used for, or comes from a network or a plan that
was checked before.
-/

namespace TileProgram

namespace Guarded

variable {ε α : Type}

/-- The items of a list at indices that all exist. -/
theorem mapM_item
    {items : List α}
    {indices : List Nat}
    (inside : ∀ index ∈ indices, index < items.length) :
    indices.mapM (item items : Nat → Guarded ε α) =
      of (.ok (indices.filterMap fun index => items[index]?)) := by
  induction indices with
  | nil => rfl
  | cons index rest inductionHypothesis =>
      obtain ⟨here, others⟩ := List.forall_mem_cons.mp inside
      have present := List.getElem?_eq_getElem here
      rw [List.mapM_cons, item_eq present, of_ok_bind, inductionHypothesis others, of_ok_bind,
        List.filterMap_cons, present]
      rfl

end Guarded

namespace Stage

open Network

/-- Decides whether a node is folded into a stage. -/
def guardedFolds (network : Network) (stage : Stage) (index : Nat) :
    Guarded ProgramError Bool := do
  let node ← Guarded.item network.nodes index
  let primary ← Guarded.item network.nodes stage.primary
  if !(primary.operation.isPrimary && node.operation.isSecondary) then return false
  else if !(stage.folded.length < greatestFolded) then return false
  else
    let readers ← Guarded.item network.readerCounts stage.output
    if !(readers == 1) then return false
    else
      let members ← stage.nodes.mapM (Guarded.item network.nodes)
      if !(members.all fun member => member.activation.isNone) then return false
      else if !(node.operands.count (.node stage.output) == 1) then return false
      else
        let tail ← Guarded.item network.nodes stage.output
        let others ← stage.folded.mapM (Guarded.item network.nodes)
        if node.operation.isSingleSlot &&
            others.any fun other => other.operation.classCode == node.operation.classCode then
          return false
        else
          match differingShape? network stage node tail.output.shape with
          | some found => throw (.fusionShapeMismatch index tail.output.shape found)
          | none => return true

/-- Puts nodes, from a given index on, into stages; the stage that may still grow comes apart from the list. -/
def guardedGroupFrom (fusion : Bool) (network : Network) (current : Stage) (index : Nat) :
    List Node → Guarded ProgramError (List Stage)
  | [] => return [current]
  | _ :: rest => do
      let folded ← if fusion then guardedFolds network current index else pure false
      if folded then
        guardedGroupFrom fusion network (current.fold index) (index + 1) rest
      else
        let others ← guardedGroupFrom fusion network ⟨index, []⟩ (index + 1) rest
        return current :: others

/-- The stages of a network. -/
def guardedPlan (fusion : Bool) (network : Network) : Guarded ProgramError (List Stage) :=
  match network.nodes with
  | [] => return []
  | _ :: rest => guardedGroupFrom fusion network ⟨0, []⟩ 1 rest

/-- The record of a stage with a given index. -/
def guardedEncode (index : Nat) (nodes : List Node) (binding : Binding) :
    Guarded ProgramError Descriptor :=
  match nodes with
  | [] => throw (.invalidOperand index .emptyStage)
  | primary :: folded =>
      let needed := binding.channels.length
      if needed > Register.Standard.channelCount then
        throw (.channelOverflow index needed Register.Standard.channelCount)
      else match shapeDefect? primary (binding.inputs.take primary.operands.length) with
        | some defect => throw (.shapeMismatch index defect)
        | none => do
            let _ ← Guarded.of (((List.range needed).mapM Descriptor.checkChannel).mapError
              (.invalidRecord index))
            let descriptor ← Guarded.mapError (.invalidRecord index)
              (Descriptor.empty.guardedAssigned (assignments primary folded binding))
            return { descriptor with lookup := lookup? nodes }

variable {network : Network} {stage : Stage}

/-- A node is compared with a stage of nodes that exist. -/
theorem guardedFolds_eq
    {index : Nat}
    {node : Node}
    (inside : ∀ member ∈ stage.nodes, member < network.nodes.length)
    (present : network.nodes[index]? = some node) :
    guardedFolds network stage index = .of (folds network stage index node) := by
  have outputInside := inside _ (output_mem_nodes stage)
  obtain ⟨primary, primaryPresent⟩ : ∃ primary, network.nodes[stage.primary]? = some primary :=
    ⟨_, List.getElem?_eq_getElem (inside stage.primary List.mem_cons_self)⟩
  obtain ⟨tail, tailPresent⟩ : ∃ tail, network.nodes[stage.output]? = some tail :=
    ⟨_, List.getElem?_eq_getElem outputInside⟩
  have counted : network.readerCounts[stage.output]? =
      some (network.readerCount stage.output) := by
    rw [readerCounts, List.getElem?_map, List.getElem?_range outputInside, Option.map_some]
  have foldedInside : ∀ member ∈ stage.folded, member < network.nodes.length :=
    fun member there => inside member (List.mem_cons_of_mem _ there)
  have slot : ((stage.folded.filterMap fun index => network.nodes[index]?).any fun other =>
      other.operation.classCode == node.operation.classCode) =
        stage.folded.any fun index => (network.nodes[index]?).any fun other =>
          other.operation.classCode == node.operation.classCode := by
    rw [List.any_filterMap]
    rfl
  simp only [guardedFolds, Guarded.item_eq present, Guarded.item_eq primaryPresent,
    Guarded.item_eq tailPresent, Guarded.item_eq counted, Guarded.mapM_item inside,
    Guarded.mapM_item foldedInside, Guarded.of_ok_bind, slot]
  rw [folds, wantsToFold, primaryPresent, tailPresent, Option.any_some, slotInUse, nodesOf]
  -- Each test of the sequence is one part of the condition.
  cases primary.operation.isPrimary && node.operation.isSecondary with
  | false => rfl
  | true =>
  cases decide (stage.folded.length < greatestFolded) with
  | false => rfl
  | true =>
  cases network.readerCount stage.output == 1 with
  | false => rfl
  | true =>
  cases (stage.nodes.filterMap fun index => network.nodes[index]?).all
      fun member => member.activation.isNone with
  | false => rfl
  | true =>
  cases node.operands.count (.node stage.output) == 1 with
  | false => rfl
  | true =>
  cases node.operation.isSingleSlot && stage.folded.any fun index =>
      (network.nodes[index]?).any fun other =>
        other.operation.classCode == node.operation.classCode with
  | true => rfl
  | false =>
  dsimp only [Option.map_some]
  cases differingShape? network stage node tail.output.shape with
  | none => rfl
  | some found => rfl

/-- Every node that is put into a stage exists. -/
theorem guardedGroupFrom_eq
    {fusion : Bool}
    {current : Stage}
    {index : Nat}
    {rest : List Node}
    (inside : ∀ member ∈ current.nodes, member < network.nodes.length)
    (restEq : network.nodes.drop index = rest) :
    guardedGroupFrom fusion network current index rest =
      .of (groupFrom fusion network current index rest) := by
  induction rest generalizing current index with
  | nil => rfl
  | cons node rest inductionHypothesis =>
      obtain ⟨present, restEq⟩ := drop_eq_cons restEq
      have here := (List.getElem?_eq_some_iff.mp present).1
      have continues : ∀ folded : Bool,
          (if folded then guardedGroupFrom fusion network (current.fold index) (index + 1) rest
            else do
              let others ← guardedGroupFrom fusion network ⟨index, []⟩ (index + 1) rest
              return current :: others) =
          Guarded.of
            (if folded then groupFrom fusion network (current.fold index) (index + 1) rest
              else do
                return current :: (← groupFrom fusion network ⟨index, []⟩ (index + 1) rest)) := by
        intro folded
        cases folded with
        | true =>
            refine inductionHypothesis ?_ restEq
            intro member there
            have there : member ∈ current.nodes ++ [index] := there
            rcases List.mem_append.mp there with before | last
            · exact inside member before
            · rwa [List.mem_singleton.mp last]
        | false =>
            refine Guarded.bind_eq_of (inductionHypothesis ?_ restEq) ?_
            · intro member there
              rwa [List.mem_singleton.mp there]
            · intro others _
              rfl
      rw [guardedGroupFrom, groupFrom]
      cases fusion with
      | false => exact continues false
      | true =>
          refine Guarded.bind_eq_of (guardedFolds_eq inside present) ?_
          intro folded _
          exact continues folded

theorem guardedPlan_eq (fusion : Bool) (network : Network) :
    guardedPlan fusion network = .of (plan fusion network) := by
  unfold guardedPlan plan
  cases nodesEq : network.nodes with
  | nil => rfl
  | cons first rest =>
      refine guardedGroupFrom_eq ?_ (by rw [nodesEq]; rfl)
      intro member there
      rw [List.mem_singleton.mp there, nodesEq]
      exact Nat.zero_lt_succ _

/-- A stage has no more channels than a record, so that each of them exists. -/
theorem guardedEncode_eq (index : Nat) (nodes : List Node) (binding : Binding) :
    guardedEncode index nodes binding = .of (encode index nodes binding) := by
  unfold guardedEncode encode
  cases nodes with
  | nil => rfl
  | cons primary folded =>
      dsimp only
      split
      · rfl
      next few =>
        cases shapeDefect? primary (binding.inputs.take primary.operands.length) with
        | some defect => rfl
        | none =>
            dsimp only
            obtain ⟨checked, checks⟩ : ∃ checked,
                (List.range binding.channels.length).mapM Descriptor.checkChannel =
                  .ok checked := by
              apply Outcome.exists_mapM
              intro channel member
              have low := List.mem_range.mp member
              exact ⟨(), if_pos (by omega)⟩
            rw [checks, Descriptor.guardedAssigned_eq Register.Table.standard_separate]
            cases Descriptor.empty.assigned (assignments primary folded binding) with
            | error error => rfl
            | ok descriptor => rfl

end Stage

namespace Assembly

open Network Stage Container

/-- Enters the stages from a given index on into a list of producers, each at its result. -/
def guardedProducersFrom (index : Nat) (producers : List (Option Nat)) :
    List Stage → Guarded ProgramError (List (Option Nat))
  | [] => return producers
  | stage :: rest => do
      Guarded.require (stage.output < producers.length)
      guardedProducersFrom (index + 1) (producers.set stage.output (some index)) rest

/-- For each node, the stage whose result is the result of the node. -/
def guardedProducers (network : Network) (stages : List Stage) :
    Guarded ProgramError (List (Option Nat)) :=
  guardedProducersFrom 0 (List.replicate network.nodes.length none) stages

/-- What an operand of a node reads. -/
def guardedSourceOf (producers : List (Option Nat)) (node : Nat) :
    Operand → Guarded ProgramError Residency.Source
  | .input index => return .input index
  | .node index => do
      match ← Guarded.item producers index with
      | some stage => return .stage stage
      | none => throw (.invalidOperand node (.foldedOperand index))

/-- What a node of a stage reads from outside it. -/
def guardedNodeReads (network : Network) (producers : List (Option Nat)) (stage : Stage)
    (index : Nat) : Guarded ProgramError (List Residency.Source) := do
  let node ← Guarded.item network.nodes index
  if index == stage.primary then node.operands.mapM (guardedSourceOf producers index)
  else
    let previous ← Guarded.difference index 1
    (node.operands.filter fun operand => operand != .node previous).mapM
      (guardedSourceOf producers index)

/-- What each stage reads, in lane order. -/
def guardedStageReads (network : Network) (producers : List (Option Nat))
    (stages : List Stage) : Guarded ProgramError Residency.Reads :=
  stages.mapM fun stage => do
    let lists ← stage.nodes.mapM (guardedNodeReads network producers stage)
    return lists.flatten

/-- Places the inputs of a network, then the results of its stages. -/
def guardedPlaceNetwork (policy : Layout.Policy) (network : Network) (stages : List Stage) :
    Guarded ProgramError Placement := do
  let start := Layout.Allocator.ofPolicy policy
  let placedInputs ← Guarded.of
    (placeAll policy start (network.inputs.map fun tensor => (0, tensor)))
  let results ← stages.zipIdx.mapM fun pair => do
    let node ← Guarded.item network.nodes pair.1.output
    return (pair.2, node.output)
  let placedResults ← Guarded.of (placeAll policy placedInputs.2 results)
  return ⟨placedInputs.1, placedResults.1⟩

/-- The place of what a stage reads. -/
def guardedLookup (placement : Placement) : Residency.Source → Guarded ProgramError Placed
  | .input index => Guarded.item placement.inputs index
  | .stage index => Guarded.item placement.results index

/-- Encodes a stage and appends its record and blobs, whose relocations name the record with 32 bits. -/
def guardedAddStage (draft : Draft) (alignment index : Nat) (nodes : List Node)
    (inputs : List Placed) (output : Placed) (hints : Residency.StageHints) :
    Guarded ProgramError Draft := do
  Guarded.require (index < UInt32.size)
  let primary ← Guarded.item nodes 0
  let weighted ← Guarded.of (draft.addWeights alignment index (some primary))
  let record ← guardedEncode index nodes ⟨inputs, output, weighted.1, hints⟩
  let withTable ← Guarded.of (weighted.2.addTable alignment index record)
  return { withTable with records := withTable.records ++ [record] }

/-- Encodes stages from a given index on. -/
def guardedEncodeFrom (alignment : Nat) (network : Network) (placement : Placement)
    (reads : Residency.Reads) (hints : List Residency.StageHints) (draft : Draft) (index : Nat) :
    List Stage → Guarded ProgramError Draft
  | [] => return draft
  | stage :: rest => do
      let nodes ← stage.nodes.mapM (Guarded.item network.nodes)
      let sources ← Guarded.item reads index
      let inputs ← sources.mapM (guardedLookup placement)
      let output ← Guarded.item placement.results index
      let hint ← Guarded.item hints index
      let next ← guardedAddStage draft alignment index nodes inputs output hint
      guardedEncodeFrom alignment network placement reads hints next (index + 1) rest

/-- The relocations of the results that nobody reads. -/
def guardedOutputs (network : Network) (producers : List (Option Nat)) (placement : Placement) :
    Guarded ProgramError (List Relocation) := do
  let choices ← network.outputNodes.zipIdx.mapM fun pair => do
    match ← Guarded.item producers pair.1 with
    | none => return none
    | some stage =>
        let placed ← Guarded.item placement.results stage
        return some (surfaceRelocation "output" pair.2 placed)
  return choices.filterMap id

/-- Numbers and links records from a given index on. -/
def guardedChainFrom (count index : Nat) :
    List Descriptor → Guarded ProgramError (List Descriptor)
  | [] => return []
  | record :: rest => do
      let linked ← Guarded.mapError (.invalidRecord index)
        (record.guardedAssigned (chainAssignments count index))
      let others ← guardedChainFrom count (index + 1) rest
      return linked :: others

/-- Checks chained records, of which every register is read in its place. -/
def guardedChecks (records : List Descriptor) : Guarded ProgramError Unit := do
  let _ ← records.mapM fun record =>
    Guarded.mapError (.invalidRecord 0) record.requireRegisters
  Guarded.of (do
    Container.validateFrom 0 records
    Residency.verify records)

/-- Assembles a network under a policy. -/
def guardedAssemble (policy : Layout.Policy) (network : Network) :
    Guarded ProgramError Container := do
  Guarded.of policy.validate
  Guarded.of network.validate
  let stages ← guardedPlan policy.fusion network
  let producers ← guardedProducers network stages
  let reads ← guardedStageReads network producers stages
  let placement ← guardedPlaceNetwork policy network stages
  let start : Draft := ⟨inputRelocations placement, [], []⟩
  let draft ← guardedEncodeFrom policy.weightAlignment.toNat network placement reads
    (Residency.Reads.plan reads) start 0 stages
  let outputs ← guardedOutputs network producers placement
  let records ← guardedChainFrom draft.records.length 0 draft.records
  guardedChecks records
  Guarded.of (Container.ofRecords records (draft.relocations ++ outputs) draft.data)

variable {network : Network} {stages : List Stage}

/-- A list that holds, for each node, the stage whose result is the result of the node. -/
def ListsProducers (network : Network) (stages : List Stage) (producers : List (Option Nat)) :
    Prop :=
  ∀ node < network.nodes.length, producers[node]? = some (producer? stages node)

/-- Each stage is entered at a result of its own.  The induction carries what was entered
before. -/
theorem guardedProducersFrom_eq
    {index : Nat}
    {producers : List (Option Nat)}
    (inside : ∀ stage ∈ stages, stage.output < producers.length)
    (distinct : (stages.map Stage.output).Nodup) :
    ∃ entered, guardedProducersFrom index producers stages = .of (.ok entered) ∧
      ∀ (node : Nat) (before : Option Nat), producers[node]? = some before →
        entered[node]? = some (((producer? stages node).map (· + index)).or before) := by
  induction stages generalizing index producers with
  | nil => exact ⟨producers, rfl, fun node before present => present⟩
  | cons stage rest inductionHypothesis =>
      obtain ⟨here, others⟩ := List.forall_mem_cons.mp inside
      rw [List.map_cons, List.nodup_cons] at distinct
      obtain ⟨fresh, distinct⟩ := distinct
      obtain ⟨entered, enteredEq, each⟩ := @inductionHypothesis (index + 1)
        (producers.set stage.output (some index)) (by simpa using others) distinct
      refine ⟨entered, ?_, ?_⟩
      · rw [guardedProducersFrom, Guarded.require_bind here, enteredEq]
      · intro node before present
        rw [producer?, List.findIdx?_cons]
        by_cases own : stage.output = node
        · subst own
          have absent : producer? rest stage.output = none := by
            rw [producer?, List.findIdx?_eq_none_iff]
            intro other member
            refine beq_eq_false_iff_ne.mpr fun equal => fresh ?_
            exact List.mem_map.mpr ⟨other, member, equal⟩
          rw [each stage.output (some index) (by rw [List.getElem?_set_self here]), absent,
            beq_self_eq_true, if_pos rfl]
          simp
        · rw [each node before (by rw [List.getElem?_set_ne own, present]),
            if_neg (by simpa using own), ← producer?, Option.map_map]
          congr 3
          funext position
          simp only [Function.comp_apply]
          omega

/-- Results of different stages are different. -/
theorem outputs_nodup
    (divided : stages.flatMap Stage.nodes = List.range network.nodes.length) :
    (stages.map Stage.output).Nodup := by
  refine List.Pairwise.map _ ?_ (nodes_ordered divided)
  intro first second ordered equal
  have before := ordered _ (output_mem_nodes first) _ (output_mem_nodes second)
  omega

theorem guardedProducers_eq
    (inside : ∀ stage ∈ stages, ∀ member ∈ stage.nodes, member < network.nodes.length)
    (divided : stages.flatMap Stage.nodes = List.range network.nodes.length) :
    ∃ producers, guardedProducers network stages = .of (.ok producers) ∧
      ListsProducers network stages producers := by
  have places : ∀ stage ∈ stages,
      stage.output < (List.replicate network.nodes.length (none : Option Nat)).length := by
    intro stage present
    rw [List.length_replicate]
    exact inside stage present _ (output_mem_nodes stage)
  obtain ⟨producers, entered, each⟩ :=
    @guardedProducersFrom_eq stages 0 _ places (outputs_nodup divided)
  refine ⟨producers, entered, ?_⟩
  intro node low
  rw [each node none (by rw [List.getElem?_replicate, if_pos low]), Option.or_none]
  simp

section Reads

variable {producers : List (Option Nat)} {stage : Stage}

theorem guardedSourceOf_eq
    (listed : ListsProducers network stages producers)
    {node : Nat}
    {operand : Operand}
    (back : network.refersBack node operand = true)
    (inside : node < network.nodes.length) :
    guardedSourceOf producers node operand = .of (sourceOf stages node operand) := by
  cases operand with
  | input index => rfl
  | node index =>
      have before : index < node := by simpa [refersBack] using back
      rw [guardedSourceOf, Guarded.item_eq (listed index (by omega)), Guarded.of_ok_bind, sourceOf]
      cases producer? stages index with
      | none => rfl
      | some producer => rfl

/-- A node of a stage that is not the first one has another one before it. -/
theorem guardedNodeReads_eq
    (valid : network.validate = .ok ())
    (listed : ListsProducers network stages producers)
    (consecutive : Consecutive network stage)
    {index : Nat}
    (member : index ∈ stage.nodes)
    (inside : index < network.nodes.length) :
    guardedNodeReads network producers stage index =
      .of (nodeReads network stages stage index) := by
  obtain ⟨node, present⟩ : ∃ node, network.nodes[index]? = some node :=
    ⟨_, List.getElem?_eq_getElem inside⟩
  have back := refersBack_of_validate valid present
  have sources : ∀ operand ∈ node.operands,
      guardedSourceOf producers index operand = .of (sourceOf stages index operand) :=
    fun operand read => guardedSourceOf_eq listed (back operand read) inside
  rw [guardedNodeReads, Guarded.item_eq present, Guarded.of_ok_bind, nodeReads, present,
    Option.map_some, Option.getD_some]
  by_cases first : index == stage.primary
  · rw [if_pos first, if_pos first]
    exact Guarded.mapM_eq_of sources
  · have positive : 1 ≤ index := by
      rw [consecutive.nodes_eq, List.mem_range'_1] at member
      rw [beq_iff_eq] at first
      omega
    rw [if_neg first, if_neg first, Guarded.difference_eq positive, Guarded.of_ok_bind]
    exact Guarded.mapM_eq_of fun operand read => sources operand (List.mem_filter.mp read).1

theorem guardedStageReads_eq
    (valid : network.validate = .ok ())
    (listed : ListsProducers network stages producers)
    (consecutive : ∀ stage ∈ stages, Consecutive network stage)
    (inside : ∀ stage ∈ stages, ∀ member ∈ stage.nodes, member < network.nodes.length) :
    guardedStageReads network producers stages = .of (stageReads network stages) := by
  refine Guarded.mapM_eq_of ?_
  intro stage present
  refine Guarded.bind_eq_of (Guarded.mapM_eq_of ?_) ?_
  · intro index member
    exact guardedNodeReads_eq valid listed (consecutive stage present) member
      (inside stage present index member)
  · intro lists _
    rfl

end Reads

theorem guardedPlaceNetwork_eq
    (policy : Layout.Policy)
    (inside : ∀ stage ∈ stages, ∀ member ∈ stage.nodes, member < network.nodes.length) :
    guardedPlaceNetwork policy network stages = .of (placeNetwork policy network stages) := by
  have found : ∀ pair ∈ stages.zipIdx,
      (do
        let node ← Guarded.item network.nodes pair.1.output
        return (pair.2, node.output) : Guarded ProgramError (Nat × Tensor)) =
      .of (.ok (pair.2, resultTensor network pair.1)) := by
    intro pair present
    have low := inside pair.1 (List.fst_mem_of_mem_zipIdx present) _ (output_mem_nodes pair.1)
    rw [Guarded.item_eq (List.getElem?_eq_getElem low), resultTensor,
      List.getElem?_eq_getElem low]
    rfl
  rw [guardedPlaceNetwork, placeNetwork]
  refine Guarded.of_bind ?_
  intro placedInputs _
  rw [Guarded.mapM_eq_ok found, Guarded.of_ok_bind, List.mapIdx_eq_zipIdx_map]
  refine Guarded.of_bind ?_
  intro placedResults _
  rfl

section Encoding

variable {policy : Layout.Policy} (prepared : Prepared policy network)

theorem guardedLookup_eq
    {placement : Placement}
    {source : Residency.Source}
    (has : placement.Has source) :
    guardedLookup placement source = .of (.ok (placement.lookup source)) := by
  cases source with
  | input index =>
      have present := List.getElem?_eq_getElem (show index < placement.inputs.length from has)
      rw [guardedLookup, Guarded.item_eq present, Placement.lookup, present, Option.getD_some]
  | stage index =>
      have present := List.getElem?_eq_getElem (show index < placement.results.length from has)
      rw [guardedLookup, Guarded.item_eq present, Placement.lookup, present, Option.getD_some]

theorem guardedAddStage_eq
    {draft : Draft}
    {alignment index : Nat}
    {primary : Node}
    {folded : List Node}
    {inputs : List Placed}
    {output : Placed}
    {hints : Residency.StageHints}
    (small : index < UInt32.size) :
    guardedAddStage draft alignment index (primary :: folded) inputs output hints =
      .of (draft.addStage alignment index (primary :: folded) inputs output hints) := by
  rw [guardedAddStage, Draft.addStage, Guarded.require_bind small,
    Guarded.item_eq List.getElem?_cons_zero, Guarded.of_ok_bind, List.head?_cons]
  refine Guarded.of_bind ?_
  intro weighted _
  refine Guarded.bind_eq_of (guardedEncode_eq ..) ?_
  intro record _
  refine Guarded.of_bind ?_
  intro withTable _
  rfl

/-- Every stage that is encoded has nodes, operands that were placed, a place of its own and
hints.  The induction is on the stages that are left. -/
theorem guardedEncodeFrom_eq
    {alignment index : Nat}
    {draft : Draft}
    {rest : List Stage}
    (restEq : prepared.stages.drop index = rest) :
    guardedEncodeFrom alignment network prepared.placement prepared.reads
        (Residency.Reads.plan prepared.reads) draft index rest =
      .of (encodeFrom alignment network prepared.placement prepared.reads
        (Residency.Reads.plan prepared.reads) draft index rest) := by
  induction rest generalizing index draft with
  | nil => rfl
  | cons stage rest inductionHypothesis =>
      obtain ⟨present, restEq⟩ := drop_eq_cons restEq
      have low := (List.getElem?_eq_some_iff.mp present).1
      have grown := prepared.grown stage (List.mem_of_getElem? present)
      obtain ⟨primary, folded, -, -, nodesEq⟩ := nodesOf_grown grown
      have nodesFound : stage.nodes.mapM (Guarded.item network.nodes) =
          (.of (.ok (primary :: folded)) : Guarded ProgramError (List Node)) := by
        rw [Guarded.mapM_item fun index member => grown.lt_of_mem member, ← nodesEq]
        rfl
      obtain ⟨sources, sourcesPresent⟩ : ∃ sources, prepared.reads[index]? = some sources :=
        ⟨_, List.getElem?_eq_getElem (by rwa [prepared.length_reads])⟩
      have has : ∀ source ∈ sources, prepared.placement.Has source := by
        intro source member
        have read : source ∈ (prepared.reads[index]?).getD [] := by rwa [sourcesPresent]
        exact prepared.has_of_mem_reads read
      have hasResult := prepared.has_result low
      obtain ⟨hints, hintsPresent⟩ : ∃ hints,
          (Residency.Reads.plan prepared.reads)[index]? = some hints :=
        ⟨_, List.getElem?_eq_getElem
          (by rwa [Residency.length_plan, prepared.length_reads])⟩
      rw [guardedEncodeFrom, encodeFrom, nodesFound, Guarded.of_ok_bind,
        Guarded.item_eq sourcesPresent, Guarded.of_ok_bind,
        Guarded.mapM_eq_ok fun source member => guardedLookup_eq (has source member),
        Guarded.of_ok_bind]
      change (guardedLookup prepared.placement (.stage index) >>= _) = _
      rw [guardedLookup_eq hasResult, Guarded.of_ok_bind, Guarded.item_eq hintsPresent,
        Guarded.of_ok_bind, sourcesPresent, hintsPresent, nodesEq]
      have small := Nat.lt_of_lt_of_le low prepared.length_stages_le
      refine Guarded.bind_eq_of (guardedAddStage_eq small) ?_
      intro next _
      exact inductionHypothesis restEq

end Encoding

/-- A result that nobody reads has a producer in the list, and the producer has a place. -/
theorem guardedOutputs_eq
    {placement : Placement}
    {producers : List (Option Nat)}
    (listed : ListsProducers network stages producers)
    (lengthEq : placement.results.length = stages.length) :
    guardedOutputs network producers placement =
      .of (.ok (outputRelocations network stages placement)) := by
  have each : ∀ pair ∈ network.outputNodes.zipIdx,
      (do
        match ← Guarded.item producers pair.1 with
        | none => return none
        | some stage =>
            let placed ← Guarded.item placement.results stage
            return some (surfaceRelocation "output" pair.2 placed) :
          Guarded ProgramError (Option Relocation)) =
      .of (.ok ((producer? stages pair.1).map fun stage =>
        surfaceRelocation "output" pair.2 (placement.lookup (.stage stage)))) := by
    intro pair present
    have member := List.fst_mem_of_mem_zipIdx present
    have low : pair.1 < network.nodes.length :=
      List.mem_range.mp (List.mem_filter.mp member).1
    rw [Guarded.item_eq (listed _ low), Guarded.of_ok_bind]
    cases produced : producer? stages pair.1 with
    | none => rfl
    | some stage =>
        have has : placement.Has (.stage stage) := by
          obtain ⟨other, found, -⟩ := output_of_producer? produced
          have below := (List.getElem?_eq_some_iff.mp found).1
          show stage < placement.results.length
          omega
        change (guardedLookup placement (.stage stage) >>= _) = _
        rw [guardedLookup_eq has]
        rfl
  rw [guardedOutputs, Guarded.mapM_eq_ok each, Guarded.of_ok_bind, outputRelocations,
    List.mapIdx_eq_zipIdx_map]
  rfl

section Chaining

variable {records : List Descriptor}

theorem guardedChainFrom_eq
    {count start : Nat}
    (builtIn : ∀ record ∈ records, record.table = .standard) :
    guardedChainFrom count start records = .of (chainFrom count start records) := by
  induction records generalizing start with
  | nil => rfl
  | cons record rest inductionHypothesis =>
      obtain ⟨here, others⟩ := List.forall_mem_cons.mp builtIn
      have separate : record.table.Separate := here ▸ Register.Table.standard_separate
      rw [guardedChainFrom, chainFrom, Descriptor.guardedAssigned_eq separate,
        Guarded.mapError_of]
      refine Guarded.of_bind ?_
      intro linked _
      refine Guarded.bind_eq_of (inductionHypothesis others) ?_
      intro linkedRest _
      rfl

theorem guardedChecks_eq (builtIn : ∀ record ∈ records, record.table = .standard) :
    guardedChecks records = .of (do
      Container.validateFrom 0 records
      Residency.verify records) := by
  have each : ∀ record ∈ records,
      (Guarded.mapError (ProgramError.invalidRecord 0) record.requireRegisters) =
        .of (.ok ()) := by
    intro record present
    rw [Descriptor.requireRegisters_eq (builtIn record present ▸ Register.Table.standard_separate)]
    rfl
  rw [guardedChecks, Guarded.mapM_eq_ok each, Guarded.of_ok_bind]

end Chaining

/-- No index of the assembler is out of range. -/
theorem guardedAssemble_eq (policy : Layout.Policy) (network : Network) :
    guardedAssemble policy network = .of (assemble policy network) := by
  rw [guardedAssemble, assemble]
  refine Guarded.of_bind ?_
  intro _ accepted
  refine Guarded.of_bind ?_
  intro _ valid
  refine Guarded.bind_eq_of (guardedPlan_eq policy.fusion network) ?_
  intro stages planned
  obtain ⟨consecutive, divided⟩ := plan_eq_ok planned
  have inside : ∀ stage ∈ stages, ∀ member ∈ stage.nodes, member < network.nodes.length :=
    fun stage present member there => lt_of_mem_nodes divided present there
  obtain ⟨producers, entered, listed⟩ := guardedProducers_eq inside divided
  rw [entered, Guarded.of_ok_bind]
  refine Guarded.bind_eq_of (guardedStageReads_eq valid listed consecutive inside) ?_
  intro reads read
  refine Guarded.bind_eq_of (guardedPlaceNetwork_eq policy inside) ?_
  intro placement placed
  refine Guarded.bind_eq_of
    (guardedEncodeFrom_eq ⟨stages, reads, placement, accepted, valid, planned, read, placed⟩
      List.drop_zero) ?_
  intro draft encoded
  have builtIn := builtIn_of_encodeFrom (Layout.Policy.alignments_pos accepted).2 encoded
  rw [guardedOutputs_eq listed (lengths_of_placeNetwork accepted placed).2, Guarded.of_ok_bind]
  refine Guarded.bind_eq_of (guardedChainFrom_eq builtIn) ?_
  intro linked chained
  have linkedBuiltIn : ∀ record ∈ linked, record.table = .standard := by
    intro changed present
    obtain ⟨index, present⟩ := List.mem_iff_getElem?.mp present
    obtain ⟨lengthEq, each⟩ := chainFrom_eq_ok chained
    have low := (List.getElem?_eq_some_iff.mp present).1
    rw [lengthEq] at low
    obtain ⟨other, otherPresent, assigned⟩ := each index _ (List.getElem?_eq_getElem low)
    rw [present] at otherPresent
    cases otherPresent
    rw [(Descriptor.assigned_frame assigned).1]
    exact builtIn _ (List.getElem_mem low)
  rw [guardedChecks_eq linkedBuiltIn]
  cases Container.validateFrom 0 linked with
  | error error => rfl
  | ok _ => cases Residency.verify linked <;> rfl

end Assembly
end TileProgram
