import TileProgram.Proofs.Assembly.Success
import TileProgram.Proofs.Container.RoundTrip

/-!
# Programs and their bytes

An assembled program is read back from its bytes, so its bytes determine it.
-/

/-!
## Assembled programs are read back

The assembler makes well-formed containers: its records are linked, and its
relocations locate the lookup tables of the records and nothing else.  So an
assembled program is read back as it is.
-/

namespace TileProgram
namespace Assembly

open Network Stage Container

variable {policy : Layout.Policy} {network : Network} {container : Container}

namespace Run

variable (run : Run policy network container)

include run

/-- An entry of the container is a record that is numbered and linked, in its place. -/
theorem entry
    {index : Nat}
    {entry : Entry}
    (present : container.entries[index]? = some entry) :
    ∃ record, run.draft.records[index]? = some record ∧
      Numbered run.stages.length index record entry.descriptor ∧
      run.linked[index]? = some entry.descriptor ∧ entry.offset = recordOffset index ∧
      entry.next = following? run.stages.length index := by
  obtain ⟨-, -, entries, -⟩ := run.container_eq
  rw [entries, List.getElem?_mapIdx, Option.map_eq_some_iff] at present
  obtain ⟨changed, changedPresent, rfl⟩ := present
  obtain ⟨record, recordPresent, numbered⟩ := run.numbered changedPresent
  exact ⟨record, recordPresent, numbered, changedPresent, rfl, by rw [run.length_linked]⟩

theorem length_entries : container.entries.length = run.stages.length := by
  obtain ⟨-, -, entries, -⟩ := run.container_eq
  rw [entries, List.length_mapIdx, run.length_linked]

/-- The container has an entry for every stage. -/
theorem exists_entry
    {index : Nat}
    {stage : Stage}
    (present : run.stages[index]? = some stage) :
    ∃ entry, container.entries[index]? = some entry := by
  have inside := (List.getElem?_eq_some_iff.mp present).1
  rw [← run.length_entries] at inside
  exact ⟨_, List.getElem?_eq_getElem inside⟩

/-- The records of the container are those of the built-in table. -/
theorem builtIn : ∀ entry ∈ container.entries, entry.descriptor.table = .standard := by
  intro entry member
  obtain ⟨index, present⟩ := List.mem_iff_getElem?.mp member
  obtain ⟨record, -, numbered, -⟩ := run.entry present
  exact numbered.builtIn

/-- The lookup tables of the container are those of the draft. -/
theorem tableOf?_eq (index : Nat) :
    Container.tableOf? container.data container.relocations index =
      Container.tableOf? run.draft.data run.draft.relocations index := by
  obtain ⟨-, relocations, -, data⟩ := run.container_eq
  have none : Container.tableOf? container.data
      (outputRelocations network run.stages run.placement) index = none := by
    apply tableOf?_eq_none
    intro relocation present
    obtain ⟨number, placed, rfl⟩ := mem_outputRelocations present
    rfl
  rw [relocations, tableOf?_append, none, Option.none_or, data]

/-- An assembled container is well formed. -/
theorem wellFormed : container.WellFormed := by
  obtain ⟨version, relocations, entries, data⟩ := run.container_eq
  obtain ⟨nonempty, few, fit, placed, -, -, -⟩ := ofRecords_eq_ok run.made
  have consistent := run.consistent
  refine ⟨version, ?_, ?_, ?_, ?_, ?_, ?_⟩
  · rwa [relocations]
  · rw [relocations]
    intro relocation present
    simpa [Relocation.nameFits] using fit relocation present
  · refine linked_of_placed nonempty ?_ placed
    intro descriptor member
    obtain ⟨index, present⟩ := List.mem_iff_getElem?.mp member
    obtain ⟨record, -, numbered⟩ := run.numbered present
    exact numbered.builtIn
  · rw [relocations, data]
    intro relocation present kind
    rcases List.mem_append.mp present with drafted | output
    · obtain ⟨record, recordPresent, inside, announced⟩ :=
        consistent.tables relocation drafted kind
      have bound := (List.getElem?_eq_some_iff.mp recordPresent).1
      rw [run.length_records, ← run.length_entries] at bound
      have entryPresent := List.getElem?_eq_getElem bound
      obtain ⟨other, otherPresent, numbered, -⟩ := run.entry entryPresent
      rw [recordPresent] at otherPresent
      cases otherPresent
      refine ⟨_, entryPresent, inside, ?_⟩
      rw [Descriptor.get_stored numbered.builtIn, ← announced]
      exact numbered.unchanged _ (by decide)
    · obtain ⟨number, placed, rfl⟩ := mem_outputRelocations output
      cases kind
  · intro index entry present
    obtain ⟨record, recordPresent, numbered, -⟩ := run.entry present
    rw [numbered.lookup, run.tableOf?_eq]
    exact consistent.attached index record recordPresent
  · rw [data]
    exact consistent.addressable

/-- The records of the container in order. -/
theorem descriptors_eq : container.descriptors = run.linked := by
  obtain ⟨-, -, entries, -⟩ := run.container_eq
  apply List.ext_getElem?
  intro index
  rw [descriptors, entries, List.getElem?_map, List.getElem?_mapIdx, Option.map_map]
  exact congrFun Option.map_id _

/-- An assembled container is valid. -/
theorem validate_eq : container.validate = .ok () := by
  unfold Container.validate
  rw [run.descriptors_eq, run.sound]
  exact run.resident

end Run

/-- A half precision surface of two rows. -/
def strip : Tensor :=
  ⟨⟨1, 1, 1, 2, 4⟩, .half⟩

/-- A convolution with weights, a sum with a lookup table that is folded into
it, and a softmax of the sum. -/
def blend : Network :=
  { inputs := [strip, strip]
    nodes :=
      [ ⟨.convolution (1, 1) (1, 1) (0, 0) 1, [.input 0], strip, ⟨.identity, ⟨0⟩, ⟨0⟩⟩,
          some [⟨0x3F800000⟩], none⟩,
        ⟨.pointwise .add, [.node 0, .input 1], strip, ⟨.lut, ⟨0⟩, ⟨0⟩⟩,
          none, some [⟨0⟩, ⟨0x3F800000⟩]⟩,
        ⟨.softmax 4, [.node 1], strip, ⟨.identity, ⟨0⟩, ⟨0⟩⟩, none, none⟩ ] }

/-- The network is assembled. -/
theorem blend_assembled : ∃ container, assemble .standard blend = .ok container :=
  exists_assemble_iff.mpr (by decide +kernel)

/-- An assembled program has one record for each stage, numbered and linked in
order; it is read back as it is, and is valid. -/
theorem read_write_of_assemble (success : assemble policy network = .ok container) :
    (∃ stages, Stage.plan policy.fusion network = .ok stages ∧
        container.entries.length = stages.length) ∧
      (∀ (index : Nat) (entry : Entry), container.entries[index]? = some entry →
        entry.offset = 0x4000 + index * 0x300 ∧
          entry.descriptor.get Registers.taskId = .ok index ∧
          if index + 1 < container.entries.length then
            entry.descriptor.get Registers.lastOfNetwork = .ok 0 ∧
              entry.descriptor.get Registers.endOfNetwork = .ok 0 ∧
              entry.descriptor.next = .ok (0x4000 + (index + 1) * 0x300) ∧
              entry.next = some (index + 1)
          else
            entry.descriptor.get Registers.lastOfNetwork = .ok 1 ∧
              entry.descriptor.get Registers.endOfNetwork = .ok 1 ∧
              entry.descriptor.next = .ok 0 ∧ entry.next = none) ∧
      Container.read container.write = .ok container ∧ container.validate = .ok () := by
  obtain ⟨run⟩ := exists_run success
  refine ⟨⟨run.stages, run.planned, run.length_entries⟩, ?_, ?_, run.validate_eq⟩
  · intro index entry present
    obtain ⟨record, -, numbered, -, offset, next⟩ := run.entry present
    have last := numbered.lastOfNetwork
    have ends := numbered.endOfNetwork
    have pointer := numbered.nextPointer
    rw [← run.length_entries] at last ends pointer next
    refine ⟨offset, numbered.taskId, ?_⟩
    unfold following? at next
    split
    · next more =>
        rw [if_pos more] at last ends pointer next
        refine ⟨last, ends, Descriptor.next_eq_ok_iff.mpr ⟨pointer, ?_⟩, next⟩
        have small : index < 65536 := numbered.small
        show 0x4000 + (index + 1) * 0x300 < 4294967296
        omega
    · next final =>
        rw [if_neg final] at last ends pointer next
        exact ⟨last, ends, Descriptor.next_eq_ok_iff.mpr ⟨pointer, by decide⟩, next⟩
  · rw [read_write_eq run.wellFormed, run.wellFormed.stored_eq run.builtIn]

/-- The assembled network is read back. -/
theorem blend_read_back :
    ∃ container, assemble .standard blend = .ok container ∧
      (∃ stages, Stage.plan Layout.Policy.standard.fusion blend = .ok stages ∧
        container.entries.length = stages.length) ∧
      (∀ (index : Nat) (entry : Entry), container.entries[index]? = some entry →
        entry.offset = 0x4000 + index * 0x300 ∧
          entry.descriptor.get Registers.taskId = .ok index ∧
          if index + 1 < container.entries.length then
            entry.descriptor.get Registers.lastOfNetwork = .ok 0 ∧
              entry.descriptor.get Registers.endOfNetwork = .ok 0 ∧
              entry.descriptor.next = .ok (0x4000 + (index + 1) * 0x300) ∧
              entry.next = some (index + 1)
          else
            entry.descriptor.get Registers.lastOfNetwork = .ok 1 ∧
              entry.descriptor.get Registers.endOfNetwork = .ok 1 ∧
              entry.descriptor.next = .ok 0 ∧ entry.next = none) ∧
      Container.read container.write = .ok container ∧ container.validate = .ok () := by
  obtain ⟨container, assembled⟩ := blend_assembled
  exact ⟨container, assembled, read_write_of_assemble assembled⟩

end Assembly
end TileProgram

/-!
## What determines a program

The bytes of an assembled program determine it.  It is in turn determined by
the stages, by where their surfaces are and what they read, and by the records
of the stages: networks that agree in these are assembled to the same program.
-/

namespace TileProgram
namespace Assembly

open Network Stage Container

/-- A stage is added in the same way when its record and its weights are the same. -/
theorem Draft.addStage_congr
    {nodes others : List Node}
    (weights : others.head?.bind Node.weights = nodes.head?.bind Node.weights)
    (encoded : ∀ index binding, encode index others binding = encode index nodes binding)
    (draft : Draft)
    (alignment index : Nat)
    (inputs : List Placed)
    (output : Placed)
    (hints : Residency.StageHints) :
    draft.addStage alignment index others inputs output hints =
      draft.addStage alignment index nodes inputs output hints := by
  unfold addStage addWeights
  rw [weights]
  simp only [encoded]

/-- Stages are encoded in the same way when each of them is added in the same way. -/
theorem encodeFrom_congr
    {network other : Network}
    {placement : Placement}
    {reads : Residency.Reads}
    {hints : List Residency.StageHints}
    {alignment : Nat}
    {stages : List Stage}
    (added : ∀ stage ∈ stages, ∀ (draft : Draft) index inputs output hints,
      draft.addStage alignment index (stage.nodesOf other) inputs output hints =
        draft.addStage alignment index (stage.nodesOf network) inputs output hints)
    (draft : Draft)
    (start : Nat) :
    encodeFrom alignment other placement reads hints draft start stages =
      encodeFrom alignment network placement reads hints draft start stages := by
  induction stages generalizing draft start with
  | nil => rfl
  | cons stage rest inductionHypothesis =>
      obtain ⟨here, others⟩ := List.forall_mem_cons.mp added
      rw [encodeFrom, encodeFrom, here]
      simp only [inductionHypothesis others]

namespace Run

variable {policy otherPolicy : Layout.Policy} {network otherNetwork : Network}
  {container otherContainer : Container}

/-- Two assembled programs with the same bytes are the same. -/
theorem eq_of_write_eq
    (run : Run policy network container)
    (other : Run otherPolicy otherNetwork otherContainer)
    (equal : container.write = otherContainer.write) :
    container = otherContainer := by
  have readBack := read_write_eq run.wellFormed
  rw [equal, read_write_eq other.wellFormed, run.wellFormed.stored_eq run.builtIn,
    other.wellFormed.stored_eq other.builtIn] at readBack
  exact (Except.ok.inj readBack).symm

/-- Programs that agree in every step are the same. -/
theorem eq_of_steps_eq
    (run : Run policy network container)
    (other : Run policy otherNetwork otherContainer)
    (stages : other.stages = run.stages)
    (reads : other.reads = run.reads)
    (placement : other.placement = run.placement)
    (added : ∀ stage ∈ run.stages, ∀ (draft : Draft) index inputs output hints,
      draft.addStage policy.weightAlignment.toNat index (stage.nodesOf otherNetwork) inputs output
          hints =
        draft.addStage policy.weightAlignment.toNat index (stage.nodesOf network) inputs output
          hints)
    (outputs : otherNetwork.outputNodes = network.outputNodes) :
    container = otherContainer := by
  have encoded := other.encoded
  rw [stages, placement, reads, encodeFrom_congr added, run.encoded, Except.ok.injEq] at encoded
  have chained := other.chained
  rw [← encoded, run.chained, Except.ok.injEq] at chained
  have made := other.made
  rw [outputRelocations, outputs, ← outputRelocations, stages, placement, ← encoded, ← chained,
    run.made] at made
  exact Except.ok.inj made

end Run
end Assembly
end TileProgram
