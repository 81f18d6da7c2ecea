import TileProgram.Assembly
import TileProgram.Proofs.Container.Links
import TileProgram.Proofs.Descriptor.Assignments
import TileProgram.Proofs.Stage.Regions

/-!
# Chaining records

The records of a program are numbered and linked before they are placed.  Only
the header of a record changes in this; placed back to back, the records are
linked as a container has to be.
-/

namespace TileProgram

open Register

namespace Assembly

open Assignment Container

variable {count index : Nat} {record changed : Descriptor}

/-- Numbering and linking assigns to the header alone. -/
theorem within_chain (count index : Nat) : Within [.header] (chainAssignments count index) := by
  unfold chainAssignments
  split
  · simp [Descriptor.taskIdAssignments, Descriptor.nextAssignments, Registers.taskId,
      Registers.nextPointer, Registers.nextSize, Registers.lastOfNetwork,
      Registers.endOfNetwork]
  · simp [Descriptor.taskIdAssignments, Descriptor.lastAssignments, Registers.taskId,
      Registers.nextPointer, Registers.nextSize, Registers.lastOfNetwork,
      Registers.endOfNetwork]

/-- The registers of the header after numbering and linking. -/
theorem last?_chain (count index : Nat) :
    last? Registers.taskId (chainAssignments count index) = some (.unsigned index) ∧
      last? Registers.lastOfNetwork (chainAssignments count index) =
        some (.unsigned (if index + 1 < count then 0 else 1)) ∧
      last? Registers.endOfNetwork (chainAssignments count index) =
        some (.unsigned (if index + 1 < count then 0 else 1)) ∧
      last? Registers.nextPointer (chainAssignments count index) =
        some (.unsigned
          (if index + 1 < count then recordOffset (index + 1) else Descriptor.chainEnd)) := by
  unfold chainAssignments
  split
  · simp [Descriptor.taskIdAssignments, Descriptor.nextAssignments, Registers.taskId,
      Registers.nextPointer, Registers.nextSize, Registers.lastOfNetwork,
      Registers.endOfNetwork]
  · simp [Descriptor.taskIdAssignments, Descriptor.lastAssignments, Registers.taskId,
      Registers.nextPointer, Registers.nextSize, Registers.lastOfNetwork,
      Registers.endOfNetwork]

/-- A record with its number and its link, and otherwise as it was. -/
structure Numbered (count index : Nat) (record changed : Descriptor) : Prop where
  builtIn : changed.table = .standard
  lookup : changed.lookup = record.lookup
  unchanged : ∀ name : Name, name.region ≠ .header → changed.get name = record.get name
  taskId : changed.get Registers.taskId = .ok index
  lastOfNetwork : changed.get Registers.lastOfNetwork = .ok (if index + 1 < count then 0 else 1)
  endOfNetwork : changed.get Registers.endOfNetwork = .ok (if index + 1 < count then 0 else 1)
  nextPointer : changed.get Registers.nextPointer =
    .ok (if index + 1 < count then recordOffset (index + 1) else Descriptor.chainEnd)
  small : index < 65536

/-- A record that the header assignments succeed on has its number and its link. -/
theorem numbered_of_assigned
    (builtIn : record.table = .standard)
    (assigned : record.assigned (chainAssignments count index) = .ok changed) :
    Numbered count index record changed := by
  have separate : record.table.Separate := builtIn ▸ Table.standard_separate
  obtain ⟨table, lookup⟩ := Descriptor.assigned_frame assigned
  obtain ⟨taskId, lastOfNetwork, endOfNetwork, nextPointer⟩ := last?_chain count index
  refine ⟨table.trans builtIn, lookup, ?_,
    Descriptor.get_assigned_of_some separate assigned taskId,
    Descriptor.get_assigned_of_some separate assigned lastOfNetwork,
    Descriptor.get_assigned_of_some separate assigned endOfNetwork,
    Descriptor.get_assigned_of_some separate assigned nextPointer, ?_⟩
  · intro name elsewhere
    apply Descriptor.get_assigned_of_none separate assigned
    exact (within_chain count index).last?_eq_none (by simpa using elsewhere)
  · -- The task number has sixteen bits.
    obtain ⟨field, found, fits⟩ := Descriptor.lookup_of_assigned assigned
      (.unsigned Registers.taskId index) (List.mem_append_left _ (List.mem_singleton.mpr rfl))
    rw [builtIn] at found
    have sixteen : Table.standard.lookup Registers.taskId =
        .ok (Standard.unsigned .header "TID" 0 0 16) := rfl
    cases found.symm.trans sixteen
    exact fits index rfl

namespace Numbered

variable (numbered : Numbered count index record changed)

include numbered

/-- The kernel channels stay as they are. -/
theorem channel (channel : Nat) : changed.channel channel = record.channel channel := by
  have elsewhere : Region.kernelSource ≠ Region.header := by decide
  unfold Descriptor.channel
  rw [numbered.unchanged (Registers.channelEnabled channel) elsewhere,
    numbered.unchanged (Registers.channelOffset channel) elsewhere,
    numbered.unchanged (Registers.channelLength channel) elsewhere]

theorem usedChannels : changed.usedChannels = record.usedChannels := by
  have elsewhere : Region.kernelSource ≠ Region.header := by decide
  unfold Descriptor.usedChannels
  congr 1
  funext channel
  rw [numbered.unchanged (Registers.channelEnabled channel) elsewhere]

/-- A surface outside the header stays as it is. -/
theorem surface
    {enabled base interleave : Name}
    {names : Registers.StrideNames}
    (elsewhere : ∀ name ∈ [enabled, base, interleave, names.row, names.plane, names.depth,
      names.batch], name.region ≠ .header) :
    changed.surface enabled base interleave names =
      record.surface enabled base interleave names := by
  simp only [List.forall_mem_cons] at elsewhere
  obtain ⟨enabledElsewhere, baseElsewhere, interleaveElsewhere, rowElsewhere, planeElsewhere,
    depthElsewhere, batchElsewhere, -⟩ := elsewhere
  unfold Descriptor.surface Descriptor.strides Descriptor.extent
  rw [numbered.unchanged _ enabledElsewhere, numbered.unchanged _ baseElsewhere,
    numbered.unchanged _ interleaveElsewhere, numbered.unchanged _ rowElsewhere,
    numbered.unchanged _ planeElsewhere, numbered.unchanged _ depthElsewhere,
    numbered.unchanged _ batchElsewhere]

theorem source (lane : SourceLane) : changed.source lane = record.source lane := by
  apply numbered.surface
  cases lane <;> decide

theorem destination : changed.destination = record.destination := by
  apply numbered.surface
  decide

/-- So do the shapes. -/
theorem inputShape : changed.inputShape = record.inputShape := by
  have elsewhere : Region.common ≠ Region.header := by decide
  unfold Descriptor.inputShape Descriptor.extent
  rw [numbered.unchanged Registers.inputColumn elsewhere,
    numbered.unchanged Registers.inputRow elsewhere,
    numbered.unchanged Registers.inputPlane elsewhere,
    numbered.unchanged Registers.inputDepth elsewhere,
    numbered.unchanged Registers.group elsewhere]

theorem outputShape : changed.outputShape = record.outputShape := by
  have elsewhere : Region.common ≠ Region.header := by decide
  unfold Descriptor.outputShape Descriptor.extent
  rw [numbered.unchanged Registers.outputColumn elsewhere,
    numbered.unchanged Registers.outputRow elsewhere,
    numbered.unchanged Registers.outputPlane elsewhere,
    numbered.unchanged Registers.outputDepth elsewhere,
    numbered.unchanged Registers.group elsewhere]

theorem residency (lane : Residency.Lane) : changed.residency lane = record.residency lane := by
  unfold Descriptor.residency
  rw [numbered.unchanged]
  cases lane <;> decide

end Numbered

/-- Records are numbered and linked one after another. -/
theorem chainFrom_eq_ok
    {start : Nat}
    {records linked : List Descriptor}
    (success : chainFrom count start records = .ok linked) :
    linked.length = records.length ∧
      ∀ (index : Nat) (record : Descriptor), records[index]? = some record →
        ∃ changed, linked[index]? = some changed ∧
          record.assigned (chainAssignments count (start + index)) = .ok changed := by
  induction records generalizing start linked with
  | nil =>
      cases success
      simp
  | cons record rest inductionHypothesis =>
      rw [chainFrom] at success
      simp only [Outcome.seq_eq_ok, Outcome.mapError_eq_ok, Outcome.pure_eq_ok] at success
      obtain ⟨changed, assigned, others, later, rfl⟩ := success
      obtain ⟨lengthEq, each⟩ := inductionHypothesis later
      refine ⟨by rw [List.length_cons, List.length_cons, lengthEq], ?_⟩
      intro index other present
      cases index with
      | zero =>
          cases present
          exact ⟨changed, rfl, assigned⟩
      | succ index =>
          obtain ⟨final, finalPresent, finalAssigned⟩ := each index other present
          rw [Nat.add_assoc, Nat.add_comm 1] at finalAssigned
          exact ⟨final, finalPresent, finalAssigned⟩

/-- There is room for the number and the link of every record that has a task number. -/
theorem takes_chain (small : index < 65536) :
    Table.standard.Takes (chainAssignments count index) := by
  have width : ∀ pair ∈ [(Registers.taskId, 16), (Registers.nextPointer, 32),
      (Registers.nextSize, 9), (Registers.lastOfNetwork, 1), (Registers.endOfNetwork, 1)],
      (Table.standard.find? pair.1).map Field.width = some pair.2 := by
    decide +kernel
  have room : ∀ {name value} (bits : Nat), (name, bits) ∈ [(Registers.taskId, 16),
      (Registers.nextPointer, 32), (Registers.nextSize, 9), (Registers.lastOfNetwork, 1),
      (Registers.endOfNetwork, 1)] → value < Nat.pow 2 bits →
      (Assignment.unsigned name value).hasRoom .standard = true :=
    fun bits member fits => Table.hasRoom_unsigned (width _ member) fits
  have position : recordOffset (index + 1) < Nat.pow 2 32 := by
    show 0x4000 + (index + 1) * 0x300 < 4294967296
    omega
  unfold chainAssignments
  rw [Table.takes_append]
  refine ⟨?_, ?_⟩
  · simp only [Descriptor.taskIdAssignments, Table.takes_cons, Table.takes_nil, and_true]
    exact room 16 (by simp) small
  · split
    · simp only [Descriptor.nextAssignments, Table.takes_cons, Table.takes_nil, and_true]
      exact ⟨room 32 (by simp) position, room 9 (by simp) (by decide),
        room 1 (by simp) (by decide), room 1 (by simp) (by decide)⟩
    · simp only [Descriptor.lastAssignments, Table.takes_cons, Table.takes_nil, and_true]
      exact ⟨room 32 (by simp) (by decide), room 9 (by simp) (by decide),
        room 1 (by simp) (by decide), room 1 (by simp) (by decide)⟩

/-- Records of the built-in table are numbered and linked when there are few. -/
theorem exists_chainFrom
    {start : Nat}
    {records : List Descriptor}
    (builtIn : ∀ record ∈ records, record.table = .standard)
    (few : start + records.length ≤ 65536) :
    ∃ linked, chainFrom count start records = .ok linked := by
  induction records generalizing start with
  | nil => exact ⟨[], rfl⟩
  | cons record rest inductionHypothesis =>
      rw [List.length_cons] at few
      obtain ⟨here, others⟩ := List.forall_mem_cons.mp builtIn
      obtain ⟨changed, assigned⟩ :=
        (Descriptor.exists_assigned_iff record (chainAssignments count start)).mpr
          (here ▸ takes_chain (by omega))
      obtain ⟨linked, later⟩ :=
        inductionHypothesis others (show start + 1 + rest.length ≤ 65536 by omega)
      refine ⟨changed :: linked, ?_⟩
      rw [chainFrom]
      simp only [Outcome.seq_eq_ok, Outcome.mapError_eq_ok, Outcome.pure_eq_ok]
      exact ⟨changed, assigned, linked, later, rfl⟩

end Assembly

namespace Container

variable {count start : Nat} {descriptors : List Descriptor} {entries : List Entry}

/-- The index of the record behind a given one, if there is one. -/
def following? (count index : Nat) : Option Nat :=
  if index + 1 < count then some (index + 1) else none

/-- Records are placed back to back when each of them links to the next. -/
theorem placeFrom_eq_ok
    (success : placeFrom count start descriptors = .ok entries) :
    entries = descriptors.mapIdx (fun index descriptor =>
        ⟨recordOffset (start + index), descriptor, following? count (start + index)⟩) ∧
      ∀ (index : Nat) (descriptor : Descriptor), descriptors[index]? = some descriptor →
        descriptor.next =
          .ok (((following? count (start + index)).map recordOffset).getD Descriptor.chainEnd) := by
  induction descriptors generalizing start entries with
  | nil =>
      cases success
      simp
  | cons descriptor rest inductionHypothesis =>
      rw [placeFrom] at success
      simp only [Outcome.seq_eq_ok, Outcome.mapError_eq_ok, Outcome.guard_eq_ok,
        Outcome.pure_eq_ok, bne_iff_ne, ne_eq, Decidable.not_not] at success
      obtain ⟨position, linked, expected, others, placed, rfl⟩ := success
      obtain ⟨othersEq, each⟩ := inductionHypothesis placed
      have shift : ∀ index, start + 1 + index = start + (index + 1) := by
        intro index
        omega
      constructor
      · rw [List.mapIdx_cons, othersEq]
        simp only [shift, following?, Nat.add_zero]
      · intro index other present
        cases index with
        | zero =>
            cases present
            rw [linked, expected]
            rfl
        | succ index =>
            rw [← shift]
            exact each index other present

/-- Records of which each links to the next are placed back to back. -/
theorem exists_placeFrom
    (links : ∀ (index : Nat) (descriptor : Descriptor), descriptors[index]? = some descriptor →
      descriptor.next = .ok (((following? count (start + index)).map recordOffset).getD
        Descriptor.chainEnd)) :
    ∃ entries, placeFrom count start descriptors = .ok entries := by
  induction descriptors generalizing start with
  | nil => exact ⟨[], rfl⟩
  | cons descriptor rest inductionHypothesis =>
      obtain ⟨entries, placed⟩ := @inductionHypothesis (start + 1) (by
        intro index other present
        rw [Nat.add_assoc, Nat.add_comm 1]
        exact links (index + 1) other present)
      refine ⟨⟨recordOffset start, descriptor, following? count start⟩ :: entries, ?_⟩
      rw [placeFrom]
      simp only [Outcome.seq_eq_ok, Outcome.mapError_eq_ok, Outcome.guard_eq_ok,
        Outcome.pure_eq_ok, bne_iff_ne, ne_eq, Decidable.not_not]
      exact ⟨_, links 0 descriptor rfl, rfl, entries, placed, rfl⟩

/-- A container of chained records has few relocations with names that fit and
its records back to back. -/
theorem ofRecords_eq_ok
    {relocations : List Relocation}
    {data : Bytes}
    {container : Container}
    (success : ofRecords descriptors relocations data = .ok container) :
    descriptors ≠ [] ∧ relocations.length ≤ greatestRelocations ∧
      (∀ relocation ∈ relocations, Relocation.nameFits relocation.name = true) ∧
      placeFrom descriptors.length 0 descriptors = .ok container.entries ∧
      container.version = formatVersion ∧ container.relocations = relocations ∧
      container.data = data := by
  unfold ofRecords at success
  split at success
  · cases success
  next nonempty =>
    split at success
    · cases success
    next few =>
      split at success
      · cases success
      · next fit =>
          rw [Outcome.seq_eq_ok] at success
          obtain ⟨entries, placed, equal⟩ := success
          cases Outcome.pure_eq_ok.mp equal
          refine ⟨by simpa using nonempty, Nat.le_of_not_lt few, ?_, placed, rfl, rfl, rfl⟩
          intro relocation present
          simpa using List.find?_eq_none.mp fit relocation present

/-- Chained records with few relocations whose names fit make a container. -/
theorem ofRecords_of_placed
    {relocations : List Relocation}
    {data : Bytes}
    (nonempty : descriptors ≠ [])
    (few : relocations.length ≤ greatestRelocations)
    (fit : ∀ relocation ∈ relocations, Relocation.nameFits relocation.name = true)
    (placed : placeFrom descriptors.length 0 descriptors = .ok entries) :
    ofRecords descriptors relocations data =
      .ok ⟨formatVersion, 0, relocations, entries, data⟩ := by
  have named : (relocations.find? fun relocation => !Relocation.nameFits relocation.name) =
      none := by
    rw [List.find?_eq_none]
    intro relocation member
    simpa using fit relocation member
  rw [ofRecords, if_neg (by simpa using nonempty), if_neg (Nat.not_lt_of_le few), named]
  dsimp only
  rw [placed]
  rfl

/-- A container of records has no flags. -/
theorem ofRecords_flags
    {relocations : List Relocation}
    {data : Bytes}
    {container : Container}
    (success : ofRecords descriptors relocations data = .ok container) :
    container.flags = 0 := by
  obtain ⟨nonempty, few, fit, placed, -⟩ := ofRecords_eq_ok success
  rw [ofRecords_of_placed nonempty few fit placed] at success
  exact (congrArg Container.flags (Except.ok.inj success)).symm

/-- Records that are placed back to back are linked. -/
theorem linked_of_placed
    (nonempty : descriptors ≠ [])
    (builtIn : ∀ descriptor ∈ descriptors, descriptor.table = .standard)
    (placed : placeFrom descriptors.length 0 descriptors = .ok entries) :
    Linked entries := by
  obtain ⟨rfl, links⟩ := placeFrom_eq_ok placed
  simp only [Nat.zero_add] at links ⊢
  have stored : ∀ {index : Nat} {descriptor : Descriptor}, descriptors[index]? = some descriptor →
      descriptor.stored.next = descriptor.next := by
    intro index descriptor present
    exact Descriptor.next_stored (builtIn descriptor (List.mem_of_getElem? present))
  refine ⟨?_, ?_, ?_, ?_, ?_⟩
  · cases descriptors with
    | nil => exact absurd rfl nonempty
    | cons descriptor rest =>
        rw [List.mapIdx_cons, List.map_cons, List.head?_cons]
        rfl
  · intro offset present
    obtain ⟨entry, entryPresent, rfl⟩ := List.mem_map.mp present
    obtain ⟨index, inside, rfl⟩ := List.mem_mapIdx.mp entryPresent
    exact ⟨index, rfl⟩
  · rw [List.pairwise_map, List.pairwise_iff_getElem]
    intro first second firstInside secondInside before
    rw [List.getElem_mapIdx, List.getElem_mapIdx]
    have positive := recordSize_pos
    have := Nat.mul_lt_mul_of_pos_right before positive
    unfold recordOffset
    dsimp only
    omega
  · intro index entry following present followingPresent
    rw [List.getElem?_mapIdx, Option.map_eq_some_iff] at present followingPresent
    obtain ⟨descriptor, found, rfl⟩ := present
    obtain ⟨other, otherFound, rfl⟩ := followingPresent
    have inside := (List.getElem?_eq_some_iff.mp otherFound).1
    have link := links index descriptor found
    rw [following?, if_pos inside] at link
    refine ⟨if_pos inside, ?_⟩
    show descriptor.stored.next = _
    rw [stored found, link]
    rfl
  · intro entry final
    rw [List.getLast?_eq_getElem?, List.length_mapIdx, List.getElem?_mapIdx,
      Option.map_eq_some_iff] at final
    obtain ⟨descriptor, found, rfl⟩ := final
    have inside := (List.getElem?_eq_some_iff.mp found).1
    have ends : ¬ descriptors.length - 1 + 1 < descriptors.length := by omega
    have link := links _ descriptor found
    rw [following?, if_neg ends] at link
    refine ⟨if_neg ends, ?_⟩
    show descriptor.stored.next = _
    rw [stored found, link]
    rfl

end Container
end TileProgram
