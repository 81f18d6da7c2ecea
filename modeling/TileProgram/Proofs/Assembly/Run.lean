import TileProgram.Proofs.Assembly.Chaining
import TileProgram.Proofs.Assembly.Consistency
import TileProgram.Proofs.Assembly.Placement
import TileProgram.Proofs.Assembly.Prepared
import TileProgram.Proofs.Assembly.Reads
import TileProgram.Proofs.Residency.Replay

/-!
# Runs of the assembler

What is known of an assembly that succeeds, and which checks its records pass.
-/

/-!
## Runs of the assembler

An assembly that succeeds has passed every step.  Its intermediate results say
what the container is made of: one record for each stage, encoded with the
places of what the stage reads, then numbered and linked.
-/

namespace TileProgram
namespace Assembly

open Network Stage Container

/-- The intermediate results of an assembly up to the chained records. -/
structure Chained (policy : Layout.Policy) (network : Network) where
  stages : List Stage
  reads : Residency.Reads
  placement : Placement
  draft : Draft
  linked : List Descriptor
  accepted : policy.validate = .ok ()
  valid : network.validate = .ok ()
  planned : Stage.plan policy.fusion network = .ok stages
  read : stageReads network stages = .ok reads
  placed : placeNetwork policy network stages = .ok placement
  encoded : encodeFrom policy.weightAlignment.toNat network placement reads
    (Residency.Reads.plan reads) ⟨inputRelocations placement, [], []⟩ 0 stages = .ok draft
  chained : chainFrom draft.records.length 0 draft.records = .ok linked

/-- The intermediate results of an assembly. -/
structure Run (policy : Layout.Policy) (network : Network) (container : Container)
    extends Chained policy network where
  sound : validateFrom 0 linked = .ok ()
  resident : Residency.verify linked = .ok ()
  made : ofRecords linked
    (draft.relocations ++ outputRelocations network stages placement) draft.data = .ok container

variable {policy : Layout.Policy} {network : Network} {container : Container}

/-- An assembly that succeeds has intermediate results. -/
theorem exists_run (success : assemble policy network = .ok container) :
    Nonempty (Run policy network container) := by
  unfold assemble at success
  simp only [Outcome.seq_eq_ok, Outcome.exists_unit] at success
  obtain ⟨accepted, valid, stages, planned, reads, read, placement, placed, draft, encoded,
    linked, chained, sound, resident, made⟩ := success
  exact ⟨⟨⟨stages, reads, placement, draft, linked, accepted, valid, planned, read, placed,
    encoded, chained⟩, sound, resident, made⟩⟩

/-- A surface that is shared with the caller is no lookup table. -/
theorem kind_of_mem_inputs
    {placement : Placement}
    {relocation : Relocation}
    (present : relocation ∈ inputRelocations placement) :
    relocation.kind = .surface := by
  obtain ⟨number, inside, rfl⟩ := List.mem_mapIdx.mp present
  rfl

theorem mem_outputRelocations
    {stages : List Stage}
    {placement : Placement}
    {relocation : Relocation}
    (present : relocation ∈ outputRelocations network stages placement) :
    ∃ number placed, relocation = surfaceRelocation "output" number placed := by
  obtain ⟨choice, chosen, equal⟩ := List.mem_filterMap.mp present
  obtain ⟨number, inside, rfl⟩ := List.mem_mapIdx.mp chosen
  obtain ⟨stage, -, rfl⟩ := Option.map_eq_some_iff.mp equal
  exact ⟨number, _, rfl⟩

namespace Chained

variable (steps : Chained policy network)

include steps

theorem consecutive : ∀ stage ∈ steps.stages, Consecutive network stage :=
  (plan_eq_ok steps.planned).1

theorem divided : steps.stages.flatMap Stage.nodes = List.range network.nodes.length :=
  (plan_eq_ok steps.planned).2

theorem positive : 0 < policy.weightAlignment.toNat :=
  (Layout.Policy.alignments_pos steps.accepted).2

theorem length_records : steps.draft.records.length = steps.stages.length := by
  simpa using (encodeFrom_extends steps.positive steps.encoded).2

theorem length_linked : steps.linked.length = steps.stages.length := by
  rw [(chainFrom_eq_ok steps.chained).1, steps.length_records]

/-- The record of a stage as it was encoded, and as it was numbered and linked. -/
theorem record
    {index : Nat}
    {stage : Stage}
    (present : steps.stages[index]? = some stage) :
    ∃ weights record changed, steps.draft.records[index]? = some record ∧
      steps.linked[index]? = some changed ∧
      Stage.encode index (stage.nodesOf network)
        ⟨inputsOf steps.placement steps.reads index, steps.placement.lookup (.stage index),
          weights, ((Residency.Reads.plan steps.reads)[index]?).getD default⟩ = .ok record ∧
      record.assigned (chainAssignments steps.stages.length index) = .ok changed ∧
      Option.Rel (Holds steps.draft.data) weights
        ((stage.nodesOf network).head?.bind weightBytes) ∧
      ∀ relocation ∈ blobRelocation .weight "weights" index weights,
        relocation ∈ steps.draft.relocations := by
  obtain ⟨weights, record, recordPresent, encoded, held, located⟩ :=
    encodeFrom_encodes steps.positive steps.encoded present
  simp only [List.length_nil, Nat.zero_add] at recordPresent encoded located
  obtain ⟨-, each⟩ := chainFrom_eq_ok steps.chained
  obtain ⟨changed, changedPresent, assigned⟩ := each index record recordPresent
  rw [Nat.zero_add, steps.length_records] at assigned
  exact ⟨weights, record, changed, recordPresent, changedPresent, encoded, assigned, held,
    located⟩

/-- The task numbers are the indices of all records, so there are few. -/
theorem few : steps.stages.length ≤ 65536 := by
  cases stages : steps.stages.length with
  | zero => exact Nat.zero_le _
  | succ count =>
      have inside : count < steps.stages.length := by omega
      obtain ⟨weights, record, changed, -, -, encoded, assigned, -⟩ :=
        steps.record (List.getElem?_eq_getElem inside)
      exact (numbered_of_assigned (lookup_of_encode encoded).1 assigned).small

end Chained

namespace Run

variable (run : Run policy network container)

/-- What the container is made of. -/
theorem container_eq :
    container.version = formatVersion ∧
      container.relocations =
        run.draft.relocations ++ outputRelocations network run.stages run.placement ∧
      container.entries = (run.linked.mapIdx fun index descriptor =>
        ⟨recordOffset index, descriptor, following? run.linked.length index⟩) ∧
      container.data = run.draft.data := by
  obtain ⟨-, -, -, placed, version, relocations, data⟩ := ofRecords_eq_ok run.made
  obtain ⟨entries, -⟩ := placeFrom_eq_ok placed
  simp only [Nat.zero_add] at entries
  exact ⟨version, relocations, entries, data⟩

/-- The record of a stage as it was encoded, and as it was numbered and linked. -/
theorem record
    {index : Nat}
    {stage : Stage}
    (present : run.stages[index]? = some stage) :
    ∃ weights record changed, run.draft.records[index]? = some record ∧
      run.linked[index]? = some changed ∧
      Stage.encode index (stage.nodesOf network)
        ⟨inputsOf run.placement run.reads index, run.placement.lookup (.stage index), weights,
          ((Residency.Reads.plan run.reads)[index]?).getD default⟩ = .ok record ∧
      Numbered run.stages.length index record changed ∧
      Option.Rel (Holds run.draft.data) weights
        ((stage.nodesOf network).head?.bind weightBytes) ∧
      ∀ relocation ∈ blobRelocation .weight "weights" index weights,
        relocation ∈ run.draft.relocations := by
  obtain ⟨weights, record, changed, recordPresent, changedPresent, encoded, assigned, rest⟩ :=
    run.toChained.record present
  exact ⟨weights, record, changed, recordPresent, changedPresent, encoded,
    numbered_of_assigned (lookup_of_encode encoded).1 assigned, rest⟩

/-- A record that is numbered and linked belongs to a stage. -/
theorem numbered
    {index : Nat}
    {changed : Descriptor}
    (present : run.linked[index]? = some changed) :
    ∃ record, run.draft.records[index]? = some record ∧
      Numbered run.stages.length index record changed := by
  have inside := (List.getElem?_eq_some_iff.mp present).1
  rw [run.length_linked] at inside
  obtain ⟨-, record, other, recordPresent, otherPresent, -, numbered, -⟩ :=
    run.record (List.getElem?_eq_getElem inside)
  rw [present] at otherPresent
  cases otherPresent
  exact ⟨record, recordPresent, numbered⟩

/-- The lookup tables of the draft are those that its relocations locate. -/
theorem consistent : Consistent run.draft := by
  refine encodeFrom_consistent run.positive ?_ ⟨?_, ?_, ?_, ?_⟩ run.encoded
  · have few := run.few
    show 0 + run.stages.length ≤ 4294967296
    omega
  · simp
  · intro relocation present kind
    rw [kind_of_mem_inputs present] at kind
    cases kind
  · simp
  · show 0 < UInt64.size
    decide

end Run
end Assembly
end TileProgram

/-!
## Checks that chained records pass

The records of a network that could be grouped, placed, encoded and chained
link to each other and keep to the planned residency.  The only thing that can
be wrong with such a record is that its lookup table is missing.
-/

namespace TileProgram
namespace Assembly

open Network Stage Container Register

namespace Chained

variable {policy : Layout.Policy} {network : Network} (steps : Chained policy network)

/-- The intermediate results before the stages were encoded. -/
def prepared : Prepared policy network :=
  ⟨steps.stages, steps.reads, steps.placement, steps.accepted, steps.valid, steps.planned,
    steps.read, steps.placed⟩

include steps

theorem grown : ∀ stage ∈ steps.stages, Grown network stage :=
  steps.prepared.grown

theorem length_reads : steps.reads.length = steps.stages.length :=
  steps.prepared.length_reads

/-- The chained record of a stage, with the nodes that it was encoded from. -/
theorem changed
    {index : Nat}
    {stage : Stage}
    {changed : Descriptor}
    (present : steps.stages[index]? = some stage)
    (changedPresent : steps.linked[index]? = some changed) :
    ∃ primary folded weights record, stage.nodesOf network = primary :: folded ∧
      Stage.encode index (primary :: folded)
        ⟨inputsOf steps.placement steps.reads index, steps.placement.lookup (.stage index),
          weights, ((Residency.Reads.plan steps.reads)[index]?).getD default⟩ = .ok record ∧
      record.assigned (chainAssignments steps.stages.length index) = .ok changed ∧
      Numbered steps.stages.length index record changed := by
  obtain ⟨weights, record, other, -, otherPresent, encoded, assigned, -, -⟩ := steps.record present
  rw [changedPresent] at otherPresent
  cases otherPresent
  obtain ⟨primary, folded, -, nodesEq, -⟩ := encode_eq_ok encoded
  have numbered := numbered_of_assigned (lookup_of_encode encoded).1 assigned
  rw [nodesEq] at encoded
  exact ⟨primary, folded, weights, record, nodesEq, encoded, assigned, numbered⟩

/-- A chained record belongs to a stage. -/
theorem exists_stage
    {index : Nat}
    {changed : Descriptor}
    (present : steps.linked[index]? = some changed) :
    ∃ stage, steps.stages[index]? = some stage := by
  have inside := (List.getElem?_eq_some_iff.mp present).1
  rw [steps.length_linked] at inside
  exact ⟨_, List.getElem?_eq_getElem inside⟩

/-- What a stage reads has places. -/
theorem has_of_mem_reads
    {index : Nat}
    {source : Residency.Source}
    (member : source ∈ (steps.reads[index]?).getD []) :
    steps.placement.Has source :=
  steps.prepared.has_of_mem_reads member

/-- The place of a result. -/
theorem has_result
    {index : Nat}
    (inside : index < steps.stages.length) :
    steps.placement.Has (.stage index) :=
  steps.prepared.has_result inside

/-- A chained record is valid unless its lookup table is missing. -/
theorem validate_eq
    {index : Nat}
    {stage : Stage}
    {changed : Descriptor}
    (present : steps.stages[index]? = some stage)
    (changedPresent : steps.linked[index]? = some changed) :
    changed.validate =
      if tableMissing (stage.nodesOf network) then .error .missingTable else .ok () := by
  obtain ⟨primary, folded, weights, record, nodesEq, encoded, assigned, -⟩ :=
    steps.changed present changedPresent
  rw [← nodesEq] at encoded
  rw [steps.prepared.validate_linked present encoded assigned,
    steps.prepared.validate_encoded present encoded]

/-- A chained record reads and writes what its stage does, with the planned hints. -/
theorem follows
    {index : Nat}
    {changed : Descriptor}
    (present : steps.linked[index]? = some changed) :
    Residency.Follows steps.reads (fun source => (steps.placement.lookup source).surface.base)
      (((Residency.Reads.plan steps.reads)[index]?).getD default) index changed := by
  obtain ⟨stage, stagePresent⟩ := steps.exists_stage present
  obtain ⟨primary, folded, weights, record, -, encoded, -, numbered⟩ :=
    steps.changed stagePresent present
  refine ⟨?_, ?_, ?_⟩
  · intro lane
    refine ⟨_, (numbered.source lane).trans (source_of_encode encoded lane), ?_⟩
    have taken : operandOf lane < 2 := by cases lane <;> decide
    rw [Residency.Reads.laneSource?, Residency.Reads.lanes, List.getElem?_take_of_lt taken]
    dsimp only
    rw [inputsOf, List.getElem?_map, Option.map_map, Option.map_map]
    rfl
  · intro lane
    rw [numbered.residency]
    exact residency_of_encode encoded lane
  · refine ⟨_, ?_, rfl⟩
    rw [numbered.destination]
    exact destination_of_encode encoded

/-- The planned residency is kept. -/
theorem verify_eq : Residency.verify steps.linked = .ok () := by
  apply @Residency.replayFrom_eq_ok steps.reads
    (fun source => (steps.placement.lookup source).surface.base) [] [] 0 steps.stages.length
  · intro number inside source known equal
    refine base_injective steps.accepted steps.valid steps.grown steps.placed
      (steps.has_result inside) ?_ equal
    rcases known with ⟨stage, lane, read⟩ | ⟨other, otherInside, rfl⟩
    · exact steps.has_of_mem_reads (List.mem_of_mem_take (List.mem_of_getElem? read))
    · exact steps.has_result otherInside
  · rw [steps.length_linked, Nat.zero_add]
  · intro index changed present
    rw [Nat.zero_add, steps.length_linked, ← steps.length_reads]
    exact steps.follows present
  · simp
  · simp

/-- The records can be placed back to back. -/
theorem exists_entries : ∃ entries, placeFrom steps.linked.length 0 steps.linked = .ok entries := by
  apply exists_placeFrom
  intro index changed present
  obtain ⟨stage, stagePresent⟩ := steps.exists_stage present
  obtain ⟨primary, folded, weights, record, -, encoded, -, numbered⟩ :=
    steps.changed stagePresent present
  have small := numbered.small
  have pointer := numbered.nextPointer
  rw [Descriptor.next_eq_ok_iff, Nat.zero_add, following?, steps.length_linked]
  split
  · next more =>
      rw [if_pos more] at pointer
      refine ⟨pointer, ?_⟩
      show 0x4000 + (index + 1) * 0x300 < 4294967296
      omega
  · next last =>
      rw [if_neg last] at pointer
      exact ⟨pointer, by decide⟩

end Chained
end Assembly
end TileProgram
