import TileProgram.Difference
import TileProgram.Proofs.Container.RoundTrip

/-!
# Programs without a difference

An absent record is compared like a record of zeros.  The links of two programs
are registers, so that programs without a difference have their records at the
same positions.  What is stored of them may differ outside of the registers.
-/

namespace TileProgram

open Register

/-! ## Registers of two sides -/

namespace Difference

/-- What a register holds on a side, zero where there is no record. -/
def held (field : Field) (side : Option Descriptor) : Nat :=
  (side.map fun descriptor => field.unsigned descriptor.bits).getD 0

@[simp] theorem held_none (field : Field) : held field none = 0 := rfl

@[simp] theorem held_some (field : Field) (descriptor : Descriptor) :
    held field (some descriptor) = field.unsigned descriptor.bits := rfl

theorem differs_eq_false_iff {left right : Option Nat} :
    differs left right = false ↔ left.getD 0 = right.getD 0 := by
  cases left with
  | none =>
      cases right with
      | none => simp [differs]
      | some value => exact bne_eq_false_iff_eq.trans eq_comm
  | some value =>
      cases right with
      | none => simp [differs]
      | some other => simp [differs]

/-- Two records have no difference when each register that is not an alias holds the same. -/
theorem ofFields_eq_nil_iff
    {record : Nat}
    {left right : Option Descriptor}
    {fields : List Field} :
    ofFields record left right fields = [] ↔
      ∀ field ∈ fields, field.isAlias = false → held field left = held field right := by
  rw [ofFields, List.filterMap_eq_nil_iff]
  refine forall₂_congr fun field _ => ?_
  cases kind : field.isAlias with
  | true => simp
  | false =>
      rw [held, held, ← differs_eq_false_iff]
      simp

/-- Records of the built-in table are compared by its registers. -/
theorem ofRecords_eq_nil_iff
    {record : Nat}
    {left right : Option Descriptor}
    (leftBuiltIn : ∀ descriptor, left = some descriptor → descriptor.table = .standard)
    (rightBuiltIn : ∀ descriptor, right = some descriptor → descriptor.table = .standard) :
    ofRecords record left right = [] ↔
      ∀ field ∈ Table.standard.fields, field.isAlias = false →
        held field left = held field right := by
  cases left with
  | some descriptor =>
      rw [ofRecords, Option.some_or]
      dsimp only
      rw [leftBuiltIn descriptor rfl, ofFields_eq_nil_iff]
  | none =>
      cases right with
      | some descriptor =>
          rw [ofRecords, Option.none_or]
          dsimp only
          rw [rightBuiltIn descriptor rfl, ofFields_eq_nil_iff]
      | none => simp [ofRecords]

/-- Lists of records have no difference when they have none at any position. -/
theorem ofLists_eq_nil_iff {record : Nat} {lefts rights : List Descriptor} :
    ofLists record lefts rights = [] ↔
      ∀ index, ofRecords (record + index) lefts[index]? rights[index]? = [] := by
  -- The recursion takes one record from each side that still has one.
  induction record, lefts, rights using ofLists.induct with
  | case1 record => simp [ofLists, ofRecords]
  | case2 record left lefts inductionHypothesis =>
      rw [ofLists, List.append_eq_nil_iff, inductionHypothesis]
      refine Iff.trans ?_ Nat.and_forall_add_one
      simp [Nat.add_assoc, Nat.add_comm 1]
  | case3 record right rights inductionHypothesis =>
      rw [ofLists, List.append_eq_nil_iff, inductionHypothesis]
      refine Iff.trans ?_ Nat.and_forall_add_one
      simp [Nat.add_assoc, Nat.add_comm 1]
  | case4 record left lefts right rights inductionHypothesis =>
      rw [ofLists, List.append_eq_nil_iff, inductionHypothesis]
      refine Iff.trans ?_ Nat.and_forall_add_one
      simp [Nat.add_assoc, Nat.add_comm 1]

end Difference

/-! ## Records and programs that agree -/

namespace Descriptor

/-- Each register that is not an alias holds the same in two records. -/
def SameRegisters (first second : Descriptor) : Prop :=
  ∀ field ∈ Table.standard.fields, field.isAlias = false →
    field.unsigned first.bits = field.unsigned second.bits

/-- Two records are the same in the bits that belong to no register but aliases. -/
def SameBeside (first second : Descriptor) : Prop :=
  ∀ index, (∀ field ∈ Table.standard.fields, field.isAlias = false →
      ¬(field.bitStart ≤ index ∧ index < field.bitEnd)) →
    first.bits.getLsbD index = second.bits.getLsbD index

variable {first second : Descriptor}

/-- Records that are the same in and beside their registers have the same bits. -/
theorem bits_eq_of_same
    (registers : first.SameRegisters second)
    (beside : first.SameBeside second) :
    first.bits = second.bits := by
  apply BitVec.eq_of_getLsbD_eq
  intro index _
  by_cases owned : ∃ field ∈ Table.standard.fields, field.isAlias = false ∧
      field.bitStart ≤ index ∧ index < field.bitEnd
  · obtain ⟨field, present, plain, above, below⟩ := owned
    have slices : field.slice first.bits = field.slice second.bits :=
      BitVec.eq_of_toNat_eq (registers field present plain)
    have bits := congrArg (fun slice => slice.getLsbD (index - field.bitStart)) slices
    have narrow : index - field.bitStart < field.width := by
      unfold Field.bitEnd at below
      omega
    simp only [Field.getLsbD_slice, narrow, decide_true, Bool.true_and,
      Nat.add_sub_cancel' above] at bits
    exact bits
  · exact beside index fun field present plain inside => owned ⟨field, present, plain, inside⟩

/-- The register that points to the next record. -/
theorem exists_nextPointer :
    ∃ field ∈ Table.standard.fields, field.isAlias = false ∧
      ∀ {descriptor : Descriptor} {position : Nat},
        descriptor.stored.next = .ok position → field.unsigned descriptor.bits = position := by
  obtain ⟨field, found, plain⟩ : ∃ field,
      Table.standard.lookup Registers.nextPointer = .ok field ∧ field.isAlias = false :=
    ⟨⟨Registers.nextPointer, 0x20, 0, 32, false, false⟩, by decide +kernel, rfl⟩
  refine ⟨field, (Table.mem_of_lookup found).1, plain, ?_⟩
  intro descriptor position linked
  obtain ⟨other, otherFound, holds⟩ := Outcome.map_eq_ok.mp (next_eq_ok_iff.mp linked).1
  rw [stored_table, found] at otherFound
  rw [Except.ok.inj otherFound, ← descriptor.stored_bits]
  exact holds

end Descriptor

namespace Container

/-- Two programs have as many records, and these agree in their registers. -/
def SameRegisters (left right : Container) : Prop :=
  left.entries.length = right.entries.length ∧
    ∀ (index : Nat) (first second : Entry), left.entries[index]? = some first →
      right.entries[index]? = some second →
        first.descriptor.SameRegisters second.descriptor

/-- Two programs have the same flags, relocations and data, and their records
agree beside their registers. -/
def SameBeside (left right : Container) : Prop :=
  left.flags = right.flags ∧ left.relocations = right.relocations ∧ left.data = right.data ∧
    ∀ (index : Nat) (first second : Entry), left.entries[index]? = some first →
      right.entries[index]? = some second → first.descriptor.SameBeside second.descriptor

open Difference

/-- The register of the next record holds its position, and zero where there is none. -/
theorem Linked.held_nextPointer
    {entries : List Entry}
    (linked : Linked entries)
    {field : Field}
    (pointer : ∀ {descriptor : Descriptor} {position : Nat},
      descriptor.stored.next = .ok position → field.unsigned descriptor.bits = position)
    (index : Nat) :
    held field (entries[index]?.map Entry.descriptor) =
      (entries[index + 1]?.map Entry.offset).getD 0 := by
  cases present : entries[index]? with
  | none =>
      have past : entries.length ≤ index := List.getElem?_eq_none_iff.mp present
      rw [List.getElem?_eq_none (Nat.le_succ_of_le past)]
      rfl
  | some entry =>
      cases following : entries[index + 1]? with
      | some other => exact pointer (linked.linked index entry other present following).2
      | none =>
          have inside := (List.getElem?_eq_some_iff.mp present).1
          have past := List.getElem?_eq_none_iff.mp following
          have final : index = entries.length - 1 := by omega
          rw [final, ← List.getLast?_eq_getElem?] at present
          exact pointer (linked.last entry present).2

/-- No record lies at the beginning of the file. -/
theorem Linked.offset_pos
    {entries : List Entry}
    (linked : Linked entries)
    {entry : Entry}
    (present : entry ∈ entries) :
    0 < entry.offset := by
  obtain ⟨slot, position⟩ := linked.slots _ (List.mem_map_of_mem present)
  have start : 0 < arrayOffset := by decide
  omega

/-- Linked records whose pointers are the same lie at the same positions. -/
theorem Linked.offsets_eq
    {lefts rights : List Entry}
    (leftLinked : Linked lefts)
    (rightLinked : Linked rights)
    (pointers : ∀ index : Nat, (lefts[index + 1]?.map Entry.offset).getD 0 =
      (rights[index + 1]?.map Entry.offset).getD 0) :
    lefts.map Entry.offset = rights.map Entry.offset := by
  apply List.ext_getElem?
  intro index
  cases index with
  | zero =>
      rw [← List.head?_eq_getElem?, ← List.head?_eq_getElem?, leftLinked.start, rightLinked.start]
  | succ index =>
      have same := pointers index
      rw [List.getElem?_map, List.getElem?_map]
      cases leftPresent : lefts[index + 1]? with
      | none =>
          cases rightPresent : rights[index + 1]? with
          | none => rfl
          | some other =>
              have positive := rightLinked.offset_pos (List.mem_of_getElem? rightPresent)
              rw [leftPresent, rightPresent] at same
              exact absurd same (Nat.ne_of_lt positive)
      | some entry =>
          have positive := leftLinked.offset_pos (List.mem_of_getElem? leftPresent)
          rw [leftPresent] at same
          cases rightPresent : rights[index + 1]? with
          | none =>
              rw [rightPresent] at same
              exact absurd same (Nat.ne_of_gt positive)
          | some other =>
              rw [rightPresent] at same
              exact congrArg some same

section Pair

variable {left right : Container}

/-- Programs of the built-in table have no difference when every register that is
not an alias holds the same at every position. -/
theorem ofContainers_eq_nil_iff_held
    (leftBuiltIn : ∀ entry ∈ left.entries, entry.descriptor.table = .standard)
    (rightBuiltIn : ∀ entry ∈ right.entries, entry.descriptor.table = .standard) :
    ofContainers left right = [] ↔
      ∀ index : Nat, ∀ field ∈ Table.standard.fields, field.isAlias = false →
        held field (left.entries[index]?.map Entry.descriptor) =
          held field (right.entries[index]?.map Entry.descriptor) := by
  have builtIn : ∀ {container : Container},
      (∀ entry ∈ container.entries, entry.descriptor.table = .standard) →
      ∀ (index : Nat) (descriptor : Descriptor),
        container.entries[index]?.map Entry.descriptor = some descriptor →
          descriptor.table = .standard := by
    intro container every index descriptor present
    obtain ⟨entry, entryPresent, rfl⟩ := Option.map_eq_some_iff.mp present
    exact every entry (List.mem_of_getElem? entryPresent)
  rw [ofContainers, ofLists_eq_nil_iff]
  refine forall_congr' fun index => ?_
  rw [descriptors, descriptors, List.getElem?_map, List.getElem?_map,
    ofRecords_eq_nil_iff (builtIn leftBuiltIn index) (builtIn rightBuiltIn index)]

/-- Programs that agree in their registers hold the same at every position. -/
theorem SameRegisters.held_eq
    (same : left.SameRegisters right)
    (index : Nat)
    (field : Field)
    (present : field ∈ Table.standard.fields)
    (plain : field.isAlias = false) :
    held field (left.entries[index]?.map Entry.descriptor) =
      held field (right.entries[index]?.map Entry.descriptor) := by
  obtain ⟨counts, agree⟩ := same
  cases leftPresent : left.entries[index]? with
  | none =>
      have past := List.getElem?_eq_none_iff.mp leftPresent
      rw [List.getElem?_eq_none (counts ▸ past)]
  | some first =>
      have inside := (List.getElem?_eq_some_iff.mp leftPresent).1
      have rightPresent := List.getElem?_eq_getElem (counts ▸ inside)
      rw [rightPresent]
      exact agree index first _ leftPresent rightPresent field present plain

/-- The records of linked programs whose registers hold the same lie at the same positions. -/
theorem offsets_eq_of_held
    (leftLinked : Linked left.entries)
    (rightLinked : Linked right.entries)
    (same : ∀ index : Nat, ∀ field ∈ Table.standard.fields, field.isAlias = false →
      held field (left.entries[index]?.map Entry.descriptor) =
        held field (right.entries[index]?.map Entry.descriptor)) :
    left.entries.map Entry.offset = right.entries.map Entry.offset := by
  obtain ⟨field, present, plain, pointer⟩ := Descriptor.exists_nextPointer
  refine leftLinked.offsets_eq rightLinked fun index => ?_
  rw [← leftLinked.held_nextPointer pointer, ← rightLinked.held_nextPointer pointer]
  exact same index field present plain

/-- Linked programs have no difference exactly when they agree in their registers. -/
theorem ofContainers_eq_nil_iff
    (leftLinked : Linked left.entries)
    (rightLinked : Linked right.entries)
    (leftBuiltIn : ∀ entry ∈ left.entries, entry.descriptor.table = .standard)
    (rightBuiltIn : ∀ entry ∈ right.entries, entry.descriptor.table = .standard) :
    ofContainers left right = [] ↔ left.SameRegisters right := by
  rw [ofContainers_eq_nil_iff_held leftBuiltIn rightBuiltIn]
  constructor
  · intro same
    have offsets := offsets_eq_of_held leftLinked rightLinked same
    refine ⟨by simpa using congrArg List.length offsets, ?_⟩
    intro index first second firstPresent secondPresent field present plain
    have equal := same index field present plain
    rw [firstPresent, secondPresent] at equal
    exact equal
  · intro same index
    exact same.held_eq index

/-- Linked programs that agree in their registers have their records at the same
positions, with the same successors. -/
theorem SameRegisters.places_eq
    (same : left.SameRegisters right)
    (leftLinked : Linked left.entries)
    (rightLinked : Linked right.entries) :
    (left.entries.map fun entry => (entry.offset, entry.next)) =
      right.entries.map fun entry => (entry.offset, entry.next) := by
  have offsets := offsets_eq_of_held leftLinked rightLinked same.held_eq
  apply List.ext_getElem?
  intro index
  have offset := congrArg (fun list => list[index]?) offsets
  simp only [List.getElem?_map] at offset ⊢
  cases leftPresent : left.entries[index]? with
  | none =>
      rw [leftPresent] at offset
      rw [Option.map_eq_none_iff.mp offset.symm]
  | some first =>
      rw [leftPresent] at offset
      obtain ⟨second, rightPresent, positions⟩ := Option.map_eq_some_iff.mp offset.symm
      rw [rightPresent, Option.map_some, Option.map_some, positions,
        leftLinked.links index first leftPresent, rightLinked.links index second rightPresent,
        same.1]

/-- Programs of the same records are read back with the same registers. -/
theorem sameRegisters_stored (entries : left.entries = right.entries) :
    left.stored.SameRegisters right.stored := by
  refine ⟨by simp [stored, bare, withTables, entries], ?_⟩
  intro index first second firstPresent secondPresent field _ _
  rw [stored, getElem?_withTables, bare, List.getElem?_map, Option.map_map] at firstPresent
  rw [stored, getElem?_withTables, bare, List.getElem?_map, Option.map_map] at secondPresent
  obtain ⟨entry, present, rfl⟩ := Option.map_eq_some_iff.mp firstPresent
  obtain ⟨other, otherPresent, rfl⟩ := Option.map_eq_some_iff.mp secondPresent
  rw [entries, otherPresent] at present
  cases present
  rfl

/-- Programs that are read from the same bytes agree in and beside their
registers, and programs that do are read from the same bytes. -/
theorem bytes_eq_iff
    {leftBytes rightBytes : Bytes}
    (leftRead : read leftBytes = .ok left)
    (rightRead : read rightBytes = .ok right)
    (same : left.SameRegisters right) :
    leftBytes = rightBytes ↔ left.SameBeside right := by
  constructor
  · rintro rfl
    cases leftRead.symm.trans rightRead
    refine ⟨rfl, rfl, rfl, ?_⟩
    intro index first second firstPresent secondPresent bit _
    cases firstPresent.symm.trans secondPresent
    rfl
  · rintro ⟨flags, relocations, data, beside⟩
    have leftFormed := (wellFormed_of_read leftRead).1
    have rightFormed := (wellFormed_of_read rightRead).1
    have places := same.places_eq leftFormed.records rightFormed.records
    have entries : left.bare.entries = right.bare.entries := by
      apply List.ext_getElem?
      intro index
      have place := congrArg (fun list => list[index]?) places
      simp only [List.getElem?_map] at place
      rw [bare, bare, List.getElem?_map, List.getElem?_map]
      cases leftPresent : left.entries[index]? with
      | none =>
          rw [leftPresent] at place
          rw [Option.map_eq_none_iff.mp place.symm]
      | some first =>
          rw [leftPresent] at place
          obtain ⟨second, rightPresent, equal⟩ := Option.map_eq_some_iff.mp place.symm
          obtain ⟨offsets, successors⟩ := Prod.mk.inj equal
          have bits := Descriptor.bits_eq_of_same
            (same.2 index first second leftPresent rightPresent)
            (beside index first second leftPresent rightPresent)
          rw [rightPresent, Option.map_some, Option.map_some, Entry.stored, Entry.stored,
            Descriptor.stored, Descriptor.stored, Descriptor.toBytes, Descriptor.toBytes, bits,
            offsets, successors]
    have version := leftFormed.version.trans rightFormed.version.symm
    have equal : left.bare = right.bare :=
      (Container.mk.injEq ..).mpr ⟨version, flags, relocations, entries, data⟩
    rw [← write_eq_of_read leftRead, ← write_eq_of_read rightRead, ← write_bare left,
      ← write_bare right, equal]

end Pair
end Container
end TileProgram
