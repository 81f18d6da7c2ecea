import TileProgram.Assembly
import TileProgram.Proofs.Network.Validity
import TileProgram.Proofs.Stage.Grouping

/-!
# What stages read

Each stage reads the surfaces of its outside operands in order: inputs of the
program, and results of stages that come before it.
-/

namespace TileProgram
namespace Assembly

open Network Stage

variable {network : Network} {stages : List Stage}

/-- The surface of an operand, if it has one. -/
def surfaceOf? (stages : List Stage) : Operand → Option Residency.Source
  | .input index => some (.input index)
  | .node index => (producer? stages index).map .stage

theorem sourceOf_eq_ok_iff {node : Nat} {operand : Operand} {source : Residency.Source} :
    sourceOf stages node operand = .ok source ↔ surfaceOf? stages operand = some source := by
  cases operand with
  | input index => simp [sourceOf, surfaceOf?]
  | node index =>
      rw [sourceOf, surfaceOf?]
      cases producer? stages index with
      | none => simp
      | some stage => simp

/-- Operands that are all found have surfaces. -/
theorem map_sourceOf_iff
    {node : Nat}
    {operands : List Operand}
    {sources : List Residency.Source} :
    operands.map (sourceOf stages node) = sources.map .ok ↔
      operands.map (surfaceOf? stages) = sources.map some := by
  induction operands generalizing sources with
  | nil => cases sources <;> simp
  | cons operand rest inductionHypothesis =>
      cases sources with
      | nil => simp
      | cons source others =>
          simp only [List.map_cons, List.cons.injEq, inductionHypothesis, sourceOf_eq_ok_iff]

/-- What nodes of a stage read are the surfaces of their outside operands. -/
theorem surfaces_of_nodeReads
    {stage : Stage}
    {nodes : List Nat}
    {sources : List (List Residency.Source)}
    (success : nodes.mapM (nodeReads network stages stage) = .ok sources) :
    (nodes.flatMap fun index =>
        if index == stage.primary then operandsAt network index
        else (operandsAt network index).filter fun operand => operand != .node (index - 1)).map
      (surfaceOf? stages) = sources.flatten.map some := by
  induction nodes generalizing sources with
  | nil =>
      rw [List.mapM_nil, Outcome.pure_eq_ok] at success
      cases success
      rfl
  | cons index rest inductionHypothesis =>
      rw [List.mapM_cons, Outcome.seq_eq_ok] at success
      obtain ⟨first, here, success⟩ := success
      rw [Outcome.seq_eq_ok] at success
      obtain ⟨others, later, equal⟩ := success
      cases Outcome.pure_eq_ok.mp equal
      rw [List.flatMap_cons, List.map_append, inductionHypothesis later, List.flatten_cons,
        List.map_append]
      congr 1
      exact map_sourceOf_iff.mp (Outcome.mapM_eq_ok.mp here)

/-- Every stage reads the surfaces of its outside operands. -/
theorem stageReads_eq_ok
    {reads : Residency.Reads}
    (consecutive : ∀ stage ∈ stages, Consecutive network stage)
    (success : stageReads network stages = .ok reads) :
    reads.length = stages.length ∧
      ∀ (index : Nat) (stage : Stage), stages[index]? = some stage →
        ∃ sources, reads[index]? = some sources ∧
          (outsideOperands network stage).map (surfaceOf? stages) = sources.map some := by
  rw [stageReads, Outcome.mapM_eq_ok] at success
  constructor
  · have lengths := congrArg List.length success
    rw [List.length_map, List.length_map] at lengths
    exact lengths.symm
  · intro index stage present
    have here := congrArg (fun list => list[index]?) success
    simp only [List.getElem?_map, present, Option.map_some] at here
    obtain ⟨sources, found, equal⟩ := Option.map_eq_some_iff.mp here.symm
    refine ⟨sources, found, ?_⟩
    obtain ⟨lists, read, flat⟩ := Outcome.seq_eq_ok.mp equal.symm
    rw [(consecutive stage (List.mem_of_getElem? present)).outsideOperands_eq,
      surfaces_of_nodeReads read, Outcome.pure_eq_ok.mp flat]

/-- The outside operands of the stages determine what they read. -/
theorem stageReads_unique
    {other : Network}
    {reads otherReads : Residency.Reads}
    (consecutive : ∀ stage ∈ stages, Consecutive network stage)
    (otherConsecutive : ∀ stage ∈ stages, Consecutive other stage)
    (success : stageReads network stages = .ok reads)
    (otherSuccess : stageReads other stages = .ok otherReads)
    (same : ∀ stage ∈ stages, outsideOperands other stage = outsideOperands network stage) :
    otherReads = reads := by
  obtain ⟨lengthEq, each⟩ := stageReads_eq_ok consecutive success
  obtain ⟨otherLength, otherEach⟩ := stageReads_eq_ok otherConsecutive otherSuccess
  apply List.ext_getElem?
  intro index
  by_cases inside : index < stages.length
  · have present := List.getElem?_eq_getElem inside
    obtain ⟨sources, found, surfaces⟩ := each index _ present
    obtain ⟨otherSources, otherFound, otherSurfaces⟩ := otherEach index _ present
    rw [same _ (List.getElem_mem inside), surfaces] at otherSurfaces
    rw [found, otherFound, (List.map_inj_right fun _ _ => Option.some.inj).mp otherSurfaces]
  · rw [List.getElem?_eq_none (by omega), List.getElem?_eq_none (by omega)]

/-- The stage that produces a result has it as its output. -/
theorem output_of_producer?
    {node index : Nat}
    (found : producer? stages node = some index) :
    ∃ stage, stages[index]? = some stage ∧ stage.output = node := by
  obtain ⟨inside, output, -⟩ := List.findIdx?_eq_some_iff_getElem.mp found
  exact ⟨stages[index], List.getElem?_eq_getElem inside, by simpa using output⟩

/-- What is read from outside is an operand of a node of the stage. -/
theorem operand_of_mem_outside
    {stage : Stage}
    {operand : Operand}
    (consecutive : Consecutive network stage)
    (present : operand ∈ outsideOperands network stage) :
    ∃ index ∈ stage.nodes, operand ∈ operandsAt network index := by
  rw [consecutive.outsideOperands_eq] at present
  obtain ⟨index, member, here⟩ := List.mem_flatMap.mp present
  refine ⟨index, member, ?_⟩
  split at here
  · exact here
  · exact (List.mem_filter.mp here).1

/-- A stage reads results of earlier stages only. -/
theorem producer?_lt
    {reader producer node : Nat}
    {stage : Stage}
    (valid : network.validate = .ok ())
    (consecutive : ∀ stage ∈ stages, Consecutive network stage)
    (divided : stages.flatMap Stage.nodes = List.range network.nodes.length)
    (present : stages[reader]? = some stage)
    (read : .node node ∈ outsideOperands network stage)
    (found : producer? stages node = some producer) :
    producer < reader := by
  have stageConsecutive := consecutive stage (List.mem_of_getElem? present)
  obtain ⟨index, member, operand⟩ := operand_of_mem_outside stageConsecutive read
  have earlier : node < index := by
    rw [operandsAt] at operand
    have inside := lt_of_mem_nodes divided (List.mem_of_getElem? present) member
    rw [List.getElem?_eq_getElem inside] at operand
    have back := refersBack_of_validate valid (List.getElem?_eq_getElem inside) _ operand
    simpa [refersBack] using back
  obtain ⟨other, otherPresent, output⟩ := output_of_producer? found
  have otherConsecutive := consecutive other (List.mem_of_getElem? otherPresent)
  have produced : node ∈ other.nodes := by
    rw [← output, otherConsecutive.output_eq, otherConsecutive.nodes_eq, List.mem_range'_1]
    omega
  by_contra notBefore
  rcases Nat.eq_or_lt_of_le (Nat.le_of_not_lt notBefore) with same | after
  · -- The result of a stage is that of its last node, which no node of the stage can read.
    subst same
    rw [present] at otherPresent
    cases otherPresent
    rw [stageConsecutive.output_eq] at output
    rw [stageConsecutive.nodes_eq, List.mem_range'_1] at member
    omega
  · obtain ⟨readerInside, rfl⟩ := List.getElem?_eq_some_iff.mp present
    obtain ⟨producerInside, rfl⟩ := List.getElem?_eq_some_iff.mp otherPresent
    have ordered := List.pairwise_iff_getElem.mp (nodes_ordered divided) reader producer
      readerInside producerInside after index member node produced
    omega

end Assembly
end TileProgram
