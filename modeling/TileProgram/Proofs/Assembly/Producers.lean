import TileProgram.Proofs.Assembly.Addresses
import TileProgram.Proofs.Assembly.Draft
import TileProgram.Proofs.Assembly.Reads

/-!
# Producers of what is read

The result of a node that is not the result of its stage is read once, by the
next node of the stage.  So every result that a stage reads from outside it,
and every result that nobody reads, is the result of a stage.
-/

namespace TileProgram
namespace Assembly

open Network Stage

variable {policy : Layout.Policy} {network : Network} {stages : List Stage}

/-- An operand of two nodes is read at least twice. -/
theorem two_le_count
    {first second : Nat}
    {operand : Operand}
    (before : first < second)
    (here : operand ∈ operandsAt network first)
    (there : operand ∈ operandsAt network second) :
    2 ≤ network.operands.count operand := by
  have read : ∀ {index : Nat}, operand ∈ operandsAt network index →
      ∃ node, network.nodes[index]? = some node ∧ operand ∈ node.operands := by
    intro index member
    unfold operandsAt at member
    cases present : network.nodes[index]? with
    | none => simp [present] at member
    | some node => exact ⟨node, rfl, by simpa [present] using member⟩
  obtain ⟨firstNode, firstPresent, firstMember⟩ := read here
  obtain ⟨secondNode, secondPresent, secondMember⟩ := read there
  have early : firstNode ∈ network.nodes.take second := by
    apply @List.mem_of_getElem? _ _ first
    rwa [List.getElem?_take_of_lt before]
  have late : secondNode ∈ network.nodes.drop second := by
    apply @List.mem_of_getElem? _ _ 0
    rwa [List.getElem?_drop, Nat.add_zero]
  have split : network.operands = (network.nodes.take second).flatMap Node.operands ++
      (network.nodes.drop second).flatMap Node.operands := by
    rw [← List.flatMap_append, List.take_append_drop]
    rfl
  have earlyCount := List.count_pos_iff.mpr (List.mem_flatMap.mpr ⟨_, early, firstMember⟩)
  have lateCount := List.count_pos_iff.mpr (List.mem_flatMap.mpr ⟨_, late, secondMember⟩)
  rw [split, List.count_append]
  omega

/-- A node's result is the result of a stage, or is read by the next node of its stage. -/
theorem producer_or_folded
    {node : Nat}
    (consecutive : ∀ stage ∈ stages, Consecutive network stage)
    (divided : stages.flatMap Stage.nodes = List.range network.nodes.length)
    (inside : node < network.nodes.length) :
    (∃ producer, producer? stages node = some producer) ∨
      ∃ stage ∈ stages, node + 1 ∈ stage.folded := by
  have member : node ∈ stages.flatMap Stage.nodes := by
    rw [divided]
    exact List.mem_range.mpr inside
  obtain ⟨stage, present, member⟩ := List.mem_flatMap.mp member
  by_cases output : stage.output = node
  · left
    rw [← Option.isSome_iff_exists, producer?, List.findIdx?_isSome, List.any_eq_true]
    exact ⟨stage, present, by simpa using output⟩
  · right
    have consecutive := consecutive stage present
    rw [consecutive.output_eq] at output
    rw [consecutive.nodes_eq, List.mem_range'_1] at member
    refine ⟨stage, present, ?_⟩
    rw [consecutive.folded_eq, List.mem_range'_1]
    omega

section Plan

variable (planned : Stage.plan policy.fusion network = .ok stages)

include planned

/-- A result that nobody reads is the result of a stage. -/
theorem exists_producer_of_output
    {node : Nat}
    (present : node ∈ network.outputNodes) :
    ∃ producer, producer? stages node = some producer := by
  obtain ⟨consecutive, divided⟩ := plan_eq_ok planned
  obtain ⟨inside, unread⟩ := List.mem_filter.mp present
  rcases producer_or_folded consecutive divided (List.mem_range.mp inside) with
    produced | ⟨stage, member, folded⟩
  · exact produced
  · have once := (grown_of_plan planned stage member).readOnce folded
    rw [Nat.add_sub_cancel] at once
    rw [beq_iff_eq, once] at unread
    cases unread

/-- A result that a stage reads from outside it is the result of a stage. -/
theorem exists_producer_of_read
    {stage : Stage}
    {node : Nat}
    (valid : network.validate = .ok ())
    (present : stage ∈ stages)
    (read : .node node ∈ outsideOperands network stage) :
    ∃ producer, producer? stages node = some producer := by
  obtain ⟨consecutive, divided⟩ := plan_eq_ok planned
  have stageConsecutive := consecutive stage present
  rw [stageConsecutive.outsideOperands_eq] at read
  obtain ⟨reader, member, read⟩ := List.mem_flatMap.mp read
  have operand : .node node ∈ operandsAt network reader := by
    split at read
    · exact read
    · exact List.mem_of_mem_filter read
  have readerInside := lt_of_mem_nodes divided present member
  have before : node < reader := by
    rw [operandsAt, List.getElem?_eq_getElem readerInside] at operand
    have back := refersBack_of_validate valid (List.getElem?_eq_getElem readerInside) _ operand
    simpa [refersBack] using back
  rcases producer_or_folded consecutive divided (Nat.lt_trans before readerInside) with
    produced | ⟨other, otherPresent, folded⟩
  · exact produced
  -- Otherwise the result is read once, and not from outside.
  exfalso
  have otherGrown := grown_of_plan planned other otherPresent
  have once := otherGrown.readOnce folded
  have inner : .node node ∈ operandsAt network (node + 1) := by
    have count := otherGrown.consecutive.readsOnce _ folded
    rw [Nat.add_sub_cancel] at count
    exact List.count_pos_iff.mp (by omega)
  rw [Nat.add_sub_cancel] at once
  have same : reader = node + 1 := by
    by_contra different
    have twice := two_le_count (show node + 1 < reader by omega) inner operand
    have once : network.operands.count (.node node) = 1 := once
    omega
  subst same
  have shared := eq_of_mem_nodes divided present otherPresent member
    (List.mem_cons_of_mem _ folded)
  subst shared
  rw [stageConsecutive.folded_eq, List.mem_range'_1] at folded
  rw [if_neg (by rw [beq_iff_eq]; omega), List.mem_filter, Nat.add_sub_cancel] at read
  simp at read

/-- Every operand that a stage reads from outside it has a surface. -/
theorem exists_surfaceOf
    {stage : Stage}
    {operand : Operand}
    (valid : network.validate = .ok ())
    (present : stage ∈ stages)
    (read : operand ∈ outsideOperands network stage) :
    ∃ source, surfaceOf? stages operand = some source := by
  cases operand with
  | input index => exact ⟨_, rfl⟩
  | node node =>
      obtain ⟨producer, produced⟩ := exists_producer_of_read planned valid present read
      exact ⟨.stage producer, by rw [surfaceOf?, produced]; rfl⟩

/-- What the stages of a valid network read is always found. -/
theorem exists_stageReads (valid : network.validate = .ok ()) :
    ∃ reads, stageReads network stages = .ok reads := by
  apply Outcome.exists_mapM
  intro stage present
  have consecutive := (plan_eq_ok planned).1 stage present
  have each : ∃ lists, stage.nodes.mapM (nodeReads network stages stage) = .ok lists := by
    apply Outcome.exists_mapM
    intro index member
    apply Outcome.exists_mapM
    intro operand read
    have outside : operand ∈ outsideOperands network stage := by
      rw [consecutive.outsideOperands_eq]
      exact List.mem_flatMap.mpr ⟨index, member, read⟩
    obtain ⟨source, found⟩ := exists_surfaceOf planned valid present outside
    exact ⟨source, sourceOf_eq_ok_iff.mpr found⟩
  obtain ⟨lists, found⟩ := each
  refine ⟨lists.flatten, ?_⟩
  rw [found]
  rfl

end Plan

section Tensors

variable {placement : Placement} {reads : Residency.Reads}

/-- The place of an operand has the tensor of the operand. -/
theorem tensor_lookup
    {operand : Operand}
    {source : Residency.Source}
    {tensor : Tensor}
    (accepted : policy.validate = .ok ())
    (placed : placeNetwork policy network stages = .ok placement)
    (surface : surfaceOf? stages operand = some source)
    (found : network.tensorOf? operand = some tensor) :
    placement.Has source ∧ (placement.lookup source).tensor = tensor := by
  obtain ⟨inputs, results, -, -⟩ := placeNetwork_eq_ok accepted placed
  cases operand with
  | input index =>
      cases surface
      rw [tensorOf?, ← inputs, List.getElem?_map, Option.map_eq_some_iff] at found
      obtain ⟨one, present, rfl⟩ := found
      refine ⟨(List.getElem?_eq_some_iff.mp present).1, ?_⟩
      rw [Placement.lookup, present, Option.getD_some]
  | node node =>
      obtain ⟨producer, produced, rfl⟩ := Option.map_eq_some_iff.mp surface
      obtain ⟨stage, present, output⟩ := output_of_producer? produced
      have here := congrArg (fun list => list[producer]?) results
      simp only [List.getElem?_map, present, Option.map_some] at here
      obtain ⟨one, onePresent, tensorEq⟩ := Option.map_eq_some_iff.mp here
      refine ⟨(List.getElem?_eq_some_iff.mp onePresent).1, ?_⟩
      rw [Placement.lookup, onePresent, Option.getD_some, tensorEq, resultTensor, output]
      show (network.tensorOf? (.node node)).getD default = tensor
      rw [found, Option.getD_some]

/-- Operands with surfaces have the tensors of their places. -/
theorem tensors_of_surfaces
    {operands : List Operand}
    {sources : List Residency.Source}
    (accepted : policy.validate = .ok ())
    (placed : placeNetwork policy network stages = .ok placement)
    (surfaces : operands.map (surfaceOf? stages) = sources.map some)
    (known : ∀ operand ∈ operands, ∃ tensor, network.tensorOf? operand = some tensor) :
    (sources.map placement.lookup).map Placed.tensor = tensorsOf network operands ∧
      ∀ source ∈ sources, placement.Has source := by
  induction operands generalizing sources with
  | nil =>
      cases sources with
      | nil => exact ⟨rfl, by simp⟩
      | cons source rest => cases surfaces
  | cons operand rest inductionHypothesis =>
      cases sources with
      | nil => cases surfaces
      | cons source others =>
          rw [List.map_cons, List.map_cons, List.cons.injEq] at surfaces
          obtain ⟨⟨tensor, found⟩, known⟩ := List.forall_mem_cons.mp known
          obtain ⟨tensors, have_⟩ := inductionHypothesis surfaces.2 known
          obtain ⟨has, tensorEq⟩ := tensor_lookup accepted placed surfaces.1 found
          refine ⟨?_, List.forall_mem_cons.mpr ⟨has, have_⟩⟩
          rw [List.map_cons, List.map_cons, tensors, tensorEq, tensorsOf, tensorsOf,
            List.filterMap_cons, found]

/-- A stage reads the tensors of its outside operands, each from a place of its own. -/
theorem inputsOf_eq
    {index : Nat}
    {stage : Stage}
    (accepted : policy.validate = .ok ())
    (valid : network.validate = .ok ())
    (planned : Stage.plan policy.fusion network = .ok stages)
    (read : stageReads network stages = .ok reads)
    (placed : placeNetwork policy network stages = .ok placement)
    (present : stages[index]? = some stage) :
    (inputsOf placement reads index).map Placed.tensor =
        tensorsOf network (outsideOperands network stage) ∧
      ∀ source ∈ (reads[index]?).getD [], placement.Has source := by
  obtain ⟨consecutive, divided⟩ := plan_eq_ok planned
  obtain ⟨sources, found, surfaces⟩ := (stageReads_eq_ok consecutive read).2 index stage present
  have member := List.mem_of_getElem? present
  rw [inputsOf, found, Option.getD_some]
  apply tensors_of_surfaces accepted placed surfaces
  intro operand outside
  obtain ⟨reader, readerMember, used⟩ :=
    operand_of_mem_outside (consecutive stage member) outside
  have inside := lt_of_mem_nodes divided member readerMember
  rw [operandsAt, List.getElem?_eq_getElem inside] at used
  exact exists_tensorOf? valid (List.getElem?_eq_getElem inside) operand used

end Tensors
end Assembly
end TileProgram
