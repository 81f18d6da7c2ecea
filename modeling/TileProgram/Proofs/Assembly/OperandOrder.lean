import TileProgram.Proofs.Assembly.Dataflow
import TileProgram.Proofs.Assembly.Producers
import TileProgram.Proofs.Assembly.RoundTrip
import TileProgram.Proofs.Stage.Folding
import TileProgram.Proofs.Stage.Registers

/-!
# Operands in another order

When a program tells the two operands of a node apart: first what the stages of
a network keep of their order, then what the program does.
-/

/-!
## Swapping operands

The order of the operands of a node decides neither how nodes are grouped nor
what the record of a stage says of its nodes.  It matters only where operands
are found, and a folded node of two operands has only one that is to be found.
-/

namespace TileProgram
namespace Network

/-- A node with its operands in reverse order. -/
def Node.swap (node : Node) : Node :=
  { node with operands := node.operands.reverse }

theorem Node.bare_swap (node : Node) : node.swap.bare = node.bare := by
  rw [bare, bare, swap, List.length_reverse]

/-- A network in which one node has its operands in reverse order. -/
def swapAt (network : Network) (index : Nat) : Network :=
  { network with nodes := network.nodes.modify index Node.swap }

variable {network : Network} {index : Nat}

theorem getElem?_swapAt (network : Network) (index other : Nat) :
    (network.swapAt index).nodes[other]? =
      (network.nodes[other]?).map fun node => if index = other then node.swap else node :=
  List.getElem?_modify _ _ _ _

/-- Nodes keep whatever does not depend on the order of their operands. -/
theorem map_swapAt
    {α : Type}
    {view : Node → α}
    (same : ∀ node : Node, view node.swap = view node)
    (other : Nat) :
    ((network.swapAt index).nodes[other]?).map view = (network.nodes[other]?).map view := by
  rw [getElem?_swapAt, Option.map_map]
  congr 1
  funext node
  show view (if index = other then node.swap else node) = view node
  split
  · exact same node
  · rfl

theorem any_swapAt
    {view : Node → Bool}
    (same : ∀ node : Node, view node.swap = view node)
    (other : Nat) :
    ((network.swapAt index).nodes[other]?).any view = (network.nodes[other]?).any view := by
  have views := congrArg (fun found => found.any id) (@map_swapAt network index _ view same other)
  simpa only [Option.any_map, id] using views

theorem length_swapAt : (network.swapAt index).nodes.length = network.nodes.length :=
  List.length_modify _ _ _

theorem tensorOf?_swapAt : (network.swapAt index).tensorOf? = network.tensorOf? := by
  funext operand
  cases operand with
  | input number => rfl
  | node other => exact map_swapAt (fun _ => rfl) other

/-- All nodes together read the same. -/
theorem operands_swapAt : (network.swapAt index).operands.Perm network.operands := by
  unfold operands swapAt
  dsimp only
  induction network.nodes generalizing index with
  | nil => simp
  | cons node rest inductionHypothesis =>
      cases index with
      | zero => exact (List.reverse_perm node.operands).append_right _
      | succ index => exact inductionHypothesis.append_left node.operands

theorem readerCount_swapAt (other : Nat) :
    (network.swapAt index).readerCount other = network.readerCount other :=
  operands_swapAt.count_eq _

theorem outputNodes_swapAt : (network.swapAt index).outputNodes = network.outputNodes := by
  unfold outputNodes
  rw [length_swapAt]
  simp only [readerCount_swapAt]

end Network

namespace Stage

open Network

variable {network : Network} {stage : Stage} {index : Nat} {first second : Operand}

theorem operandsAt_swapAt_self (network : Network) (index : Nat) :
    operandsAt (network.swapAt index) index = (operandsAt network index).reverse := by
  rw [operandsAt, operandsAt, getElem?_swapAt]
  cases network.nodes[index]? with
  | none => rfl
  | some node => simp [Node.swap]

theorem operandsAt_swapAt_of_ne {other : Nat} (different : index ≠ other) :
    operandsAt (network.swapAt index) other = operandsAt network other := by
  rw [operandsAt, operandsAt, getElem?_swapAt]
  simp [different]

/-- The nodes of a stage keep whatever does not depend on the order of operands. -/
theorem map_nodesOf_swapAt
    {α : Type}
    {view : Node → α}
    (same : ∀ node : Node, view node.swap = view node) :
    (stage.nodesOf (network.swapAt index)).map view = (stage.nodesOf network).map view := by
  rw [nodesOf, nodesOf, List.map_filterMap, List.map_filterMap]
  simp only [map_swapAt same]

section Folding

/-- Of two operands of which one is left out, the other one stays. -/
theorem filter_swap
    {operand : Operand}
    (once : [first, second].count operand = 1) :
    [second, first].filter (fun other => other != operand) =
      [first, second].filter fun other => other != operand := by
  by_cases isFirst : first = operand
  · by_cases isSecond : second = operand
    · rw [isFirst, isSecond]
    · simp [isFirst, isSecond]
  · by_cases isSecond : second = operand
    · simp [isFirst, isSecond]
    · simp [isFirst, isSecond] at once

/-- Whether a node is folded does not depend on the order of the operands of others. -/
theorem folds_swapAt {other : Nat} {node : Node} :
    folds (network.swapAt index) stage other node = folds network stage other node := by
  have plain : (stage.nodesOf (network.swapAt index)).all (fun member => member.activation.isNone) =
      (stage.nodesOf network).all fun member => member.activation.isNone := by
    have activations := @map_nodesOf_swapAt network stage index _
      (fun member => member.activation.isNone) fun _ => rfl
    have all := congrArg (fun list => list.all id) activations
    simpa using all
  have used : stage.slotInUse (network.swapAt index) node.operation =
      stage.slotInUse network node.operation := by
    unfold slotInUse
    congr 2
    funext member
    exact any_swapAt (fun _ => rfl) member
  have wants : wantsToFold (network.swapAt index) stage node = wantsToFold network stage node := by
    unfold wantsToFold
    rw [any_swapAt (fun _ => rfl), plain, used, readerCount_swapAt]
  have shape : otherShape? (network.swapAt index) stage node = otherShape? network stage node := by
    unfold otherShape?
    rw [tensorOf?_swapAt]
  unfold folds differingShape?
  rw [wants, shape, map_swapAt fun _ => rfl]

/-- Whether a node is folded does not depend on the order of its own two operands. -/
theorem folds_swap
    {other : Nat}
    {node : Node}
    (operands : node.operands = [first, second]) :
    folds network stage other node.swap = folds network stage other node := by
  have swapped : node.swap.operands = [second, first] := by
    rw [Node.swap, operands]
    rfl
  have wants : wantsToFold network stage node.swap = wantsToFold network stage node := by
    have count : node.swap.operands.count (.node stage.output) =
        node.operands.count (.node stage.output) := List.count_reverse
    unfold wantsToFold
    rw [count]
    rfl
  unfold folds
  rw [wants]
  split
  · next wanted =>
      have once := (wantsToFold_iff.mp wanted).once
      rw [operands] at once
      have shape : otherShape? network stage node.swap = otherShape? network stage node := by
        have operation : node.swap.operation = node.operation := rfl
        unfold otherShape?
        rw [operation, swapped, operands, ← List.head?_filter, ← List.head?_filter,
          filter_swap once]
      unfold differingShape?
      rw [shape]
      rfl
  · rfl

/-- Nodes are put into the same stages. -/
theorem groupFrom_swapAt
    {fusion : Bool}
    {node : Node}
    (present : network.nodes[index]? = some node)
    (operands : node.operands = [first, second])
    (current : Stage)
    (start : Nat) :
    groupFrom fusion (network.swapAt index) current start
        ((network.swapAt index).nodes.drop start) =
      groupFrom fusion network current start (network.nodes.drop start) := by
  generalize rest : network.nodes.drop start = nodes
  induction nodes generalizing current start with
  | nil =>
      have none : (network.swapAt index).nodes.drop start = [] := by
        rw [List.drop_eq_nil_iff, length_swapAt]
        exact List.drop_eq_nil_iff.mp rest
      rw [none]
      rfl
  | cons one others inductionHypothesis =>
      obtain ⟨onePresent, others⟩ := drop_eq_cons rest
      have begins : (network.swapAt index).nodes.drop start =
          (if index = start then one.swap else one) ::
            (network.swapAt index).nodes.drop (start + 1) := by
        have inside : start < (network.swapAt index).nodes.length := by
          rw [length_swapAt]
          exact (List.getElem?_eq_some_iff.mp onePresent).1
        have found := getElem?_swapAt network index start
        rw [onePresent, Option.map_some, List.getElem?_eq_getElem inside, Option.some.injEq]
          at found
        rw [List.drop_eq_getElem_cons inside, found]
      have decided : folds (network.swapAt index) current start
          (if index = start then one.swap else one) = folds network current start one := by
        rw [folds_swapAt]
        split
        · next same =>
            rw [← same, present, Option.some.injEq] at onePresent
            exact folds_swap (onePresent ▸ operands)
        · rfl
      rw [begins, groupFrom, groupFrom, decided]
      have grouped := fun current => inductionHypothesis current (start + 1) others
      simp only [grouped]

/-- Nodes are grouped in the same way. -/
theorem plan_swapAt
    {fusion : Bool}
    {node : Node}
    (present : network.nodes[index]? = some node)
    (operands : node.operands = [first, second]) :
    plan fusion (network.swapAt index) = plan fusion network := by
  have grouped :=
    @groupFrom_swapAt network index first second fusion node present operands ⟨0, []⟩ 1
  have length : (network.swapAt index).nodes.length = network.nodes.length := length_swapAt
  unfold plan
  cases nodes : network.nodes with
  | nil =>
      rw [nodes, List.length_nil, List.length_eq_zero_iff] at length
      rw [length]
  | cons one rest =>
      obtain ⟨other, others, swapped⟩ := List.exists_cons_of_length_eq_add_one
        (length.trans (congrArg List.length nodes))
      rw [swapped]
      rw [nodes, swapped, List.drop_one, List.drop_one] at grouped
      exact grouped

end Folding

section Reading

/-- A stage reads the same from outside unless it begins with the node whose
operands are swapped. -/
theorem outsideOperands_swapAt
    (consecutive : Consecutive network stage)
    (swapped : Consecutive (network.swapAt index) stage)
    (operands : operandsAt network index = [first, second])
    (notFirst : stage.primary ≠ index) :
    outsideOperands (network.swapAt index) stage = outsideOperands network stage := by
  rw [consecutive.outsideOperands_eq, swapped.outsideOperands_eq]
  apply List.flatMap_congr
  intro other member
  by_cases same : index = other
  · subst same
    have folded : index ∈ stage.folded := by
      rcases List.mem_cons.mp member with primary | folded
      · exact absurd primary.symm notFirst
      · exact folded
    have once := consecutive.readsOnce index folded
    rw [operands] at once
    have reversed : [first, second].reverse = [second, first] := rfl
    rw [if_neg (by simpa using notFirst.symm), if_neg (by simpa using notFirst.symm),
      operandsAt_swapAt_self, operands, reversed, filter_swap once]
  · rw [operandsAt_swapAt_of_ne same]

end Reading

end Stage
end TileProgram

/-!
## The order of operands

A program tells the two operands of a node apart, except those of a node that
is folded into the record of another one: of these the record keeps only the
operand that comes from outside, so a difference and its negative are the same
program.
-/

namespace TileProgram
namespace Assembly

open Network Stage Container

section Steps

variable {policy : Layout.Policy} {network : Network} {stages : List Stage}
  {alignment index : Nat}

theorem resultTensor_swapAt (stage : Stage) :
    resultTensor (network.swapAt index) stage = resultTensor network stage := by
  rw [resultTensor, resultTensor, map_swapAt fun _ => rfl]

/-- Surfaces are placed in the same way. -/
theorem placeNetwork_swapAt :
    placeNetwork policy (network.swapAt index) stages = placeNetwork policy network stages := by
  unfold placeNetwork
  simp only [resultTensor_swapAt]
  rfl

/-- Stages are added in the same way whatever the order of operands is. -/
theorem addStage_swapAt (stage : Stage) (draft : Draft) (number : Nat) (inputs : List Placed)
    (output : Placed) (hints : Residency.StageHints) :
    draft.addStage alignment number (stage.nodesOf (network.swapAt index)) inputs output hints =
      draft.addStage alignment number (stage.nodesOf network) inputs output hints := by
  have bare := @map_nodesOf_swapAt network stage index _ Node.bare Node.bare_swap
  have weights := @map_nodesOf_swapAt network stage index _ Node.weights fun _ => rfl
  apply Draft.addStage_congr
  · have first := congrArg (fun list => list.head?.bind id) weights
    simpa only [List.head?_map, Option.bind_map, Function.id_comp] using first
  · intro number binding
    rw [← encode_bare, bare, encode_bare]

end Steps

section Sources

variable {network : Network} {stages : List Stage} {placement : Placement} {number : Nat}

/-- The operand that is found at a source: an input, or the result of a stage. -/
def operandAt? (stages : List Stage) : Residency.Source → Option Operand
  | .input number => some (.input number)
  | .stage producer => (stages[producer]?).map fun stage => .node stage.output

/-- What a stage reads for an operand is the surface of a source at which that operand is found. -/
theorem source_of_readsFrom
    {stretch : Stretch}
    {operand : Operand}
    (reads : ReadsFrom stages placement.surfaces number stretch operand) :
    ∃ source, placement.Has source ∧
      (placement.lookup source).surface.base.toNat = stretch.base ∧
      operandAt? stages source = some operand := by
  cases operand with
  | input input =>
      have reads : (placement.inputs.map stretchOf)[input]? = some stretch := reads
      rw [List.getElem?_map] at reads
      obtain ⟨placed, present, rfl⟩ := Option.map_eq_some_iff.mp reads
      refine ⟨.input input, (List.getElem?_eq_some_iff.mp present).1, ?_, rfl⟩
      rw [Placement.lookup, present]
      rfl
  | node node =>
      obtain ⟨producer, stage, -, stagePresent, rfl, reads⟩ := reads
      have reads : (placement.results.map stretchOf)[producer]? = some stretch := reads
      rw [List.getElem?_map] at reads
      obtain ⟨placed, present, rfl⟩ := Option.map_eq_some_iff.mp reads
      refine ⟨.stage producer, (List.getElem?_eq_some_iff.mp present).1, ?_, ?_⟩
      · rw [Placement.lookup, present]
        rfl
      · rw [operandAt?, stagePresent]
        rfl

end Sources

namespace Run

variable {policy : Layout.Policy} {network : Network} {container other : Container}
  {index : Nat} {node : Node} {first second : Operand}

/-- The channel of an outside operand has the address of a source at which that
operand is found. -/
theorem source_of_channel
    {number position : Nat}
    {stage : Stage}
    {entry : Entry}
    {operand : Operand}
    (run : Run policy network container)
    (stagePresent : run.stages[number]? = some stage)
    (entryPresent : container.entries[number]? = some entry)
    (operandPresent : (outsideOperands network stage)[position]? = some operand) :
    ∃ source data, run.placement.Has source ∧ operandAt? run.stages source = some operand ∧
      entry.descriptor.channel position = .ok (some data) ∧
      (run.placement.lookup source).surface.base.toNat = data.offset.toNat := by
  obtain ⟨stretch, data, reads, channel, offset, -⟩ :=
    (run.wired stagePresent entryPresent).operand position operand operandPresent
  obtain ⟨source, has, base, found⟩ := source_of_readsFrom reads
  exact ⟨source, data, has, found, channel, base.trans offset.symm⟩

section Swapped

variable (run : Run policy network container) (swapped : Run policy (network.swapAt index) other)
  (present : network.nodes[index]? = some node) (operands : node.operands = [first, second])

include run swapped present operands

theorem stages_swapAt : swapped.stages = run.stages := by
  have planned := swapped.planned
  rw [plan_swapAt present operands, run.planned] at planned
  exact (Except.ok.inj planned).symm

theorem placement_swapAt : swapped.placement = run.placement := by
  have placed := swapped.placed
  rw [placeNetwork_swapAt, run.stages_swapAt swapped present operands, run.placed] at placed
  exact (Except.ok.inj placed).symm

/-- When the node is folded, all stages read the same. -/
theorem reads_swapAt
    {stage : Stage}
    (member : stage ∈ run.stages)
    (folded : index ∈ stage.folded) :
    swapped.reads = run.reads := by
  have stagesEq := run.stages_swapAt swapped present operands
  have operandsEq : operandsAt network index = [first, second] := by
    rw [operandsAt, present]
    exact operands
  have notFirst : ∀ other ∈ run.stages, other.primary ≠ index := by
    intro other otherMember same
    have isStage : other = stage := eq_of_mem_nodes run.divided otherMember member
      (same ▸ List.mem_cons_self) (List.mem_cons_of_mem _ folded)
    have behind := (run.consecutive stage member).folded_eq
    rw [behind, List.mem_range'_1, ← isStage, same] at folded
    omega
  have consecutive := swapped.consecutive
  have read := swapped.read
  rw [stagesEq] at consecutive read
  refine stageReads_unique run.consecutive consecutive run.read read ?_
  intro other otherMember
  exact outsideOperands_swapAt (run.consecutive other otherMember) (consecutive other otherMember)
    operandsEq (notFirst other otherMember)

/-- The program is the same when the node is folded. -/
theorem eq_of_folded
    {stage : Stage}
    (member : stage ∈ run.stages)
    (folded : index ∈ stage.folded) :
    container = other :=
  run.eq_of_steps_eq swapped (run.stages_swapAt swapped present operands)
    (run.reads_swapAt swapped present operands member folded)
    (run.placement_swapAt swapped present operands) (fun stage _ => addStage_swapAt stage)
    outputNodes_swapAt

/-- The program is another one when the node begins a stage. -/
theorem folded_of_eq
    (different : first ≠ second)
    (equal : container = other) :
    ∃ stage ∈ run.stages, index ∈ stage.folded := by
  subst equal
  have stages := run.stages_swapAt swapped present operands
  have placement := run.placement_swapAt swapped present operands
  have inside := (List.getElem?_eq_some_iff.mp present).1
  have member : index ∈ run.stages.flatMap Stage.nodes := by
    rw [run.divided]
    exact List.mem_range.mpr inside
  obtain ⟨stage, stageMember, member⟩ := List.mem_flatMap.mp member
  rcases List.mem_cons.mp member with primary | folded
  · -- The first channel of the record tells the two operands apart.
    obtain ⟨number, stagePresent⟩ := List.mem_iff_getElem?.mp stageMember
    obtain ⟨entry, entryPresent⟩ := run.exists_entry stagePresent
    have swappedPresent : swapped.stages[number]? = some stage := by rwa [stages]
    have firstOutside : (outsideOperands network stage)[0]? = some first := by
      rw [outsideOperands, ← primary, operandsAt, present, Option.map_some, Option.getD_some,
        operands]
      rfl
    have secondOutside : (outsideOperands (network.swapAt index) stage)[0]? = some second := by
      rw [outsideOperands, ← primary, operandsAt_swapAt_self, operandsAt, present, Option.map_some,
        Option.getD_some, operands]
      rfl
    obtain ⟨source, data, has, found, channel, base⟩ :=
      run.source_of_channel stagePresent entryPresent firstOutside
    obtain ⟨swappedSource, swappedData, swappedHas, swappedFound, swappedChannel, swappedBase⟩ :=
      swapped.source_of_channel swappedPresent entryPresent secondOutside
    rw [channel, Except.ok.injEq, Option.some.injEq] at swappedChannel
    rw [← swappedChannel, placement, ← base, UInt32.toNat_inj] at swappedBase
    rw [placement] at swappedHas
    rw [stages] at swappedFound
    have same := base_injective run.accepted run.valid (grown_of_plan run.planned) run.placed
      swappedHas has swappedBase
    rw [same, found, Option.some.injEq] at swappedFound
    exact absurd swappedFound different
  · exact ⟨stage, stageMember, folded⟩

end Swapped
end Run

variable {policy : Layout.Policy} {network : Network}

/-- Swapping two different operands of a node changes the bytes of the program
exactly when the node is not folded into the record of another one. -/
theorem write_swapAt_iff
    {container other : Container}
    {index : Nat}
    {node : Node}
    {first second : Operand}
    (present : network.nodes[index]? = some node)
    (operands : node.operands = [first, second])
    (different : first ≠ second)
    (success : assemble policy network = .ok container)
    (otherSuccess : assemble policy (network.swapAt index) = .ok other) :
    ∃ stages, Stage.plan policy.fusion network = .ok stages ∧
      (container.write = other.write ↔ ∃ stage ∈ stages, index ∈ stage.folded) := by
  obtain ⟨run⟩ := exists_run success
  obtain ⟨swapped⟩ := exists_run otherSuccess
  refine ⟨run.stages, run.planned, ?_, ?_⟩
  · intro equal
    exact run.folded_of_eq swapped present operands different (run.eq_of_write_eq swapped equal)
  · rintro ⟨stage, member, folded⟩
    rw [run.eq_of_folded swapped present operands member folded]

/-- A convolution, and the difference of its result and an input. -/
def difference : Network :=
  { inputs := [strip, strip]
    nodes :=
      [ ⟨.convolution (1, 1) (1, 1) (0, 0) 1, [.input 0], strip, ⟨.identity, ⟨0⟩, ⟨0⟩⟩,
          none, none⟩,
        ⟨.pointwise .subtract, [.node 0, .input 1], strip, ⟨.identity, ⟨0⟩, ⟨0⟩⟩,
          none, none⟩ ] }

/-- The difference and its negative are assembled. -/
theorem difference_assembled :
    (∃ container, assemble .standard difference = .ok container) ∧
      ∃ other, assemble .standard (difference.swapAt 1) = .ok other :=
  ⟨exists_assemble_iff.mpr (by decide +kernel), exists_assemble_iff.mpr (by decide +kernel)⟩

/-- The two orders of the difference. -/
theorem difference_write_iff :
    ∃ container other, assemble .standard difference = .ok container ∧
      assemble .standard (difference.swapAt 1) = .ok other ∧
      ∃ stages, Stage.plan Layout.Policy.standard.fusion difference = .ok stages ∧
        (container.write = other.write ↔ ∃ stage ∈ stages, 1 ∈ stage.folded) := by
  obtain ⟨⟨container, success⟩, other, otherSuccess⟩ := difference_assembled
  have different : Operand.node 0 ≠ .input 1 := by decide
  exact ⟨container, other, success, otherSuccess,
    write_swapAt_iff rfl rfl different success otherSuccess⟩

/-- A folded difference and its negative are the same program. -/
theorem difference_order_lost :
    difference.nodes[1]?.map (fun node => (node.operation, node.operands)) =
        some (.pointwise .subtract, [.node 0, .input 1]) ∧
      ∃ container other, assemble .standard difference = .ok container ∧
        assemble .standard (difference.swapAt 1) = .ok other ∧
        container.write = other.write := by
  obtain ⟨⟨container, success⟩, other, otherSuccess⟩ := difference_assembled
  obtain ⟨run⟩ := exists_run success
  obtain ⟨swapped⟩ := exists_run otherSuccess
  have planned : Stage.plan Layout.Policy.standard.fusion difference = .ok [⟨0, [1]⟩] := by
    decide +kernel
  have stages := Except.ok.inj (run.planned.symm.trans planned)
  have member : ⟨0, [1]⟩ ∈ run.stages := by
    rw [stages]
    exact List.mem_cons_self
  refine ⟨rfl, container, other, success, otherSuccess, ?_⟩
  rw [run.eq_of_folded swapped rfl rfl member List.mem_cons_self]

end Assembly
end TileProgram
