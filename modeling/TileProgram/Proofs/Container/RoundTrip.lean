import TileProgram.Proofs.Container.Links
import TileProgram.Proofs.Container.Tables
import TileProgram.Proofs.Endings

/-!
# Containers that are stored and read back

Which containers can be stored, and that they are read from their bytes.
-/

/-!
## Well-formed containers

A container is well formed when it can be stored: its counts and names fit,
its records are linked, and its lookup tables are those that its relocations
locate.  Registers are read from the stored bits, through the built-in table.
-/

namespace TileProgram
namespace Container

/-- What has to hold of a container for it to be stored and read back. -/
structure WellFormed (container : Container) : Prop where
  version : container.version = formatVersion
  few : container.relocations.length ≤ greatestRelocations
  names : ∀ relocation ∈ container.relocations,
    (Utf8.encode relocation.name).length ≤ Relocation.nameSize ∧
      '\x00' ∉ relocation.name.toList
  records : Linked container.entries
  tables : ∀ relocation ∈ container.relocations, relocation.kind = .lookupTable →
    ∃ entry, container.entries[relocation.record.toNat]? = some entry ∧
      relocation.offset.toNat + relocation.size.toNat ≤ container.data.length ∧
      entry.descriptor.stored.get Registers.lookupLength = .ok (relocation.size.toNat / 2)
  attached : ∀ index entry, container.entries[index]? = some entry →
    entry.descriptor.lookup = tableOf? container.data container.relocations index
  addressable : container.data.length < UInt64.size

/-- What has to hold of a container for everything but its lookup tables to be read back: its
counts and names fit, and its records are linked. -/
structure Framed (container : Container) : Prop where
  version : container.version = formatVersion
  few : container.relocations.length ≤ greatestRelocations
  names : ∀ relocation ∈ container.relocations, Relocation.nameFits relocation.name = true
  records : Linked container.entries
  addressable : container.data.length < UInt64.size

/-- A container as it is stored, before lookup tables are attached. -/
def bare (container : Container) : Container :=
  { container with entries := container.entries.map Entry.stored }

/-- A container as it is read back: the stored records with the lookup tables of
its relocations. -/
def stored (container : Container) : Container :=
  { container with
    entries := withTables container.data container.relocations container.bare.entries }

@[simp] theorem Entry.stored_stored (entry : Entry) : entry.stored.stored = entry.stored := by
  simp [Entry.stored]

@[simp] theorem Entry.stored_withTable (entry : Entry) (table : Option LookupTable) :
    (entry.withTable table).stored = entry.stored := rfl

/-- Storing records drops the tables that were given to them. -/
@[simp] theorem stored_withTables
    (data : Bytes)
    (relocations : List Relocation)
    (entries : List Entry) :
    (withTables data relocations entries).map Entry.stored = entries.map Entry.stored := by
  apply List.ext_getElem?
  intro index
  rw [List.getElem?_map, getElem?_withTables, List.getElem?_map, Option.map_map]
  rfl

/-- Records that are read are stored as they are. -/
@[simp] theorem stored_entriesAt (bytes : Bytes) (positions : List Nat) :
    (entriesAt bytes positions).map Entry.stored = entriesAt bytes positions := by
  apply List.ext_getElem?
  intro index
  rw [List.getElem?_map, getElem?_entriesAt, Option.map_map]
  simp only [Function.comp_def, Entry.stored, recordAt, Descriptor.stored_ofBytes]

/-- What is written for a container is what is written for its stored records. -/
theorem write_bare (container : Container) : container.bare.write = container.write := by
  rw [write_eq, write_eq]
  simp [bare, headerBytes, entriesEnd_eq]

/-- The stored records of a container are linked when its records are. -/
theorem Framed.linked {container : Container} (framed : container.Framed) :
    Linked container.bare.entries :=
  Linked.of_stored (by simp [bare]) framed.records

namespace WellFormed

variable {container : Container}

/-- A well-formed container is framed. -/
theorem framed (wellFormed : container.WellFormed) : container.Framed where
  version := wellFormed.version
  few := wellFormed.few
  names := by
    intro relocation present
    obtain ⟨short, nonzero⟩ := wellFormed.names relocation present
    simp [Relocation.nameFits, short, nonzero]
  records := wellFormed.records
  addressable := wellFormed.addressable

/-- The lookup tables of a well-formed container can be attached to its stored records. -/
theorem attachable (wellFormed : container.WellFormed) :
    ∀ relocation ∈ container.relocations, relocation.kind = .lookupTable →
      Attachable container.data container.bare.entries relocation := by
  intro relocation present kind
  obtain ⟨entry, entryPresent, located, announced⟩ :=
    wellFormed.tables relocation present kind
  refine ⟨entry.stored, ?_, located, announced⟩
  rw [bare, List.getElem?_map, entryPresent, Option.map_some]

/-- A well-formed container whose records are those of the built-in table is
stored as it is. -/
theorem stored_eq
    (wellFormed : container.WellFormed)
    (builtIn : ∀ entry ∈ container.entries, entry.descriptor.table = .standard) :
    container.stored = container := by
  have entriesEq : container.stored.entries = container.entries := by
    apply List.ext_getElem?
    intro index
    rw [stored, getElem?_withTables, bare, List.getElem?_map]
    cases present : container.entries[index]? with
    | none => rfl
    | some entry =>
        obtain ⟨offset, ⟨table, bits, lookup⟩, next⟩ := entry
        have tableEq : table = .standard := builtIn _ (List.mem_of_getElem? present)
        have lookupEq : lookup = tableOf? container.data container.relocations index :=
          wellFormed.attached index _ present
        simp only [Option.map_some, Entry.withTable, Entry.stored, ← lookupEq,
          Descriptor.stored_lookup, Descriptor.stored_table, Descriptor.stored_bits,
          Option.or_none, tableEq]
  exact congrArg (fun entries => { container with entries := entries }) entriesEq

end WellFormed
end Container
end TileProgram

/-!
## Writing and reading containers

Whatever is read is written back byte for byte and is well formed, and what is
written for a well-formed container is read back.  Both compare a byte string
with what is written part by part: each part is what a check of the reader
looks for.
-/

namespace TileProgram
namespace Container

variable {bytes : Bytes} {container : Container}

/-- The data section lies where it is looked for and ends the container. -/
theorem checkData_eq_ok_iff {entries : List Entry} :
    checkData bytes entries = .ok () ↔
      longWord bytes 0x18 = dataOffset entries ∧
        longWord bytes 0x18 + longWord bytes 0x20 = bytes.length := by
  unfold checkData
  simp only [Outcome.seq_eq_ok, Outcome.guard_eq_ok, Outcome.final_guard_eq_ok,
    Outcome.exists_unit, checkRange_eq_ok_iff, bne_iff_ne, ne_eq, Decidable.not_not]
  constructor
  · rintro ⟨offsetEq, -, sizeEq⟩
    exact ⟨offsetEq, sizeEq⟩
  · rintro ⟨offsetEq, sizeEq⟩
    exact ⟨offsetEq, Nat.le_of_eq sizeEq, sizeEq⟩

/-- A container is read exactly when it passes all checks. -/
theorem read_eq_ok_iff :
    read bytes = .ok container ↔
      checkHeader bytes = .ok () ∧ word bytes 0x10 ≤ greatestRelocations ∧
      ∃ relocations, readRelocations bytes 0 (word bytes 0x10) = .ok relocations ∧
      ∃ positions, walk bytes = .ok positions ∧ positions.length = word bytes 0x0C ∧
        checkData bytes (entriesAt bytes positions) = .ok () ∧
        checkClear .relocationPadding bytes
          (headerSize + word bytes 0x10 * Relocation.entrySize) arrayOffset = .ok () ∧
        checkGaps bytes (longWord bytes 0x18) arrayOffset (entriesAt bytes positions) = .ok () ∧
        ∃ entries,
          attachTables (bytes.slice (longWord bytes 0x18) (longWord bytes 0x20))
            (entriesAt bytes positions) 0 relocations = .ok entries ∧
          ⟨UInt32.ofNat (word bytes 0x04), UInt32.ofNat (word bytes 0x14), relocations, entries,
            bytes.slice (longWord bytes 0x18) (longWord bytes 0x20)⟩ = container := by
  unfold read
  simp only [Outcome.seq_eq_ok, Outcome.guard_eq_ok, Outcome.pure_eq_ok, Outcome.exists_unit,
    bne_iff_ne, ne_eq, Decidable.not_not, gt_iff_lt, Nat.not_lt, length_entriesAt]

/-- The number in four bytes has at most 32 bits. -/
theorem word_lt (bytes : Bytes) (position : Nat) : word bytes position < UInt32.size :=
  Bytes.toNat_slice_lt bytes position 4

/-- The number in eight bytes has at most 64 bits. -/
theorem longWord_lt (bytes : Bytes) (position : Nat) : longWord bytes position < UInt64.size :=
  Bytes.toNat_slice_lt bytes position 8

/-- A record that is found inside has the bytes it was read from. -/
theorem toBytes_recordAt
    {offset : Nat}
    (inside : offset + Register.recordSize ≤ bytes.length) :
    (recordAt bytes offset).toBytes = bytes.slice offset Register.recordSize :=
  Descriptor.toBytes_ofBytes (Bytes.length_slice inside)

/-- What a container is read from is what is written for it. -/
theorem write_eq_of_read (readEq : read bytes = .ok container) : container.write = bytes := by
  obtain ⟨header, few, relocations, relocationsEq, positions, walked, count, dataEq, padding,
    gaps, entries, attached, rfl⟩ := read_eq_ok_iff.mp readEq
  obtain ⟨inside, magicEq, versionEq, arrayEq, reserved⟩ := checkHeader_eq_ok_iff.mp header
  obtain ⟨lengthEq, names, tableEq⟩ := readRelocations_eq_ok_iff.mp relocationsEq
  obtain ⟨room, head, chained⟩ := walk_eq_ok_iff.mp walked
  obtain ⟨offsetEq, sizeEq⟩ := checkData_eq_ok_iff.mp dataEq
  obtain ⟨-, rfl⟩ := attachTables_eq_ok_iff.mp attached
  have linked := chained.linked head room
  have places := chained.slot_and_inside head room
  have lengthData : (bytes.slice (longWord bytes 0x18) (longWord bytes 0x20)).length =
      longWord bytes 0x20 := Bytes.length_slice (Nat.le_of_eq sizeEq)
  rw [← write_bare, bare]
  simp only [stored_withTables, stored_entriesAt]
  symm
  refine (eq_write_iff (by rwa [lengthEq]) linked.ordered ?_).mpr ⟨?_, ?_, ?_, ⟨?_, ?_⟩, ?_⟩
  · rw [lengthData, ← offsetEq, sizeEq]
  · refine (slice_eq_headerBytes_iff inside ?_ ?_ ?_ ?_).mpr ?_
    · rw [length_entriesAt, count]
      exact word_lt bytes _
    · rw [lengthEq]
      exact word_lt bytes _
    · rw [← offsetEq]
      exact longWord_lt bytes _
    · rw [lengthData]
      exact longWord_lt bytes _
    · refine ⟨magicEq, ?_, arrayEq, ?_, lengthEq.symm, ?_, offsetEq, lengthData.symm,
        reserved⟩
      · rw [UInt32.toNat_ofNat_of_lt' (word_lt bytes _)]
      · rw [length_entriesAt, count]
      · rw [UInt32.toNat_ofNat_of_lt' (word_lt bytes _)]
  · rw [lengthEq, ← tableEq, Nat.zero_mul, Nat.add_zero]
  · rwa [lengthEq]
  · rwa [← offsetEq]
  · intro entry present
    obtain ⟨position, record⟩ := mem_entriesAt present
    rw [record, toBytes_recordAt (places _ position).2]
  · rw [lengthData, ← offsetEq]

/-- What is read is well formed and stored as it is. -/
theorem wellFormed_of_read (readEq : read bytes = .ok container) :
    container.WellFormed ∧ container.stored = container := by
  obtain ⟨header, few, relocations, relocationsEq, positions, walked, count, dataEq, padding,
    gaps, entries, attached, rfl⟩ := read_eq_ok_iff.mp readEq
  obtain ⟨inside, magicEq, versionEq, arrayEq, reserved⟩ := checkHeader_eq_ok_iff.mp header
  obtain ⟨lengthEq, names, tableEq⟩ := readRelocations_eq_ok_iff.mp relocationsEq
  obtain ⟨room, head, chained⟩ := walk_eq_ok_iff.mp walked
  obtain ⟨offsetEq, sizeEq⟩ := checkData_eq_ok_iff.mp dataEq
  obtain ⟨attachable, rfl⟩ := attachTables_eq_ok_iff.mp attached
  have lengthData : (bytes.slice (longWord bytes 0x18) (longWord bytes 0x20)).length =
      longWord bytes 0x20 := Bytes.length_slice (Nat.le_of_eq sizeEq)
  generalize bytes.slice (longWord bytes 0x18) (longWord bytes 0x20) = data at *
  constructor
  · constructor
    · show UInt32.ofNat (word bytes 0x04) = formatVersion
      rw [versionEq, UInt32.ofNat_toNat]
    · show relocations.length ≤ greatestRelocations
      rwa [lengthEq]
    · intro relocation present
      simpa [Relocation.nameFits] using names relocation present
    · refine Linked.of_stored ?_ (chained.linked head room)
      rw [stored_withTables]
    · intro relocation present kind
      obtain ⟨entry, entryPresent, located, announced⟩ := attachable relocation present kind
      obtain ⟨-, record⟩ := mem_entriesAt (List.mem_of_getElem? entryPresent)
      refine ⟨_, by rw [getElem?_withTables, entryPresent, Option.map_some], located, ?_⟩
      show entry.descriptor.stored.get Registers.lookupLength = _
      rwa [record, recordAt, Descriptor.stored_ofBytes, ← recordAt, ← record]
    · intro index entry present
      rw [getElem?_withTables, Option.map_eq_some_iff] at present
      obtain ⟨bare, barePresent, rfl⟩ := present
      obtain ⟨-, record⟩ := mem_entriesAt (List.mem_of_getElem? barePresent)
      show (tableOf? data relocations index).or bare.descriptor.lookup = _
      rw [record]
      exact Option.or_none
    · show data.length < UInt64.size
      rw [lengthData]
      exact longWord_lt bytes _
  · simp only [stored, bare, stored_withTables, stored_entriesAt]

/-- A written record is read at its position. -/
theorem eq_recordAt
    {entry : Entry}
    (present : entry ∈ container.bare.entries)
    (record : bytes.slice entry.offset Register.recordSize = entry.descriptor.toBytes) :
    entry.descriptor = recordAt bytes entry.offset := by
  obtain ⟨other, -, rfl⟩ := List.mem_map.mp present
  rw [recordAt, record]
  exact (Descriptor.stored_stored other.descriptor).symm

/-- What remains of reading when the other checks are passed: the lookup tables are attached. -/
theorem read_eq_of_checks
    {relocations : List Relocation}
    {positions : List Nat}
    (header : checkHeader bytes = .ok ())
    (few : word bytes 0x10 ≤ greatestRelocations)
    (relocationsEq : readRelocations bytes 0 (word bytes 0x10) = .ok relocations)
    (walked : walk bytes = .ok positions)
    (count : positions.length = word bytes 0x0C)
    (dataEq : checkData bytes (entriesAt bytes positions) = .ok ())
    (padding : checkClear .relocationPadding bytes
      (headerSize + word bytes 0x10 * Relocation.entrySize) arrayOffset = .ok ())
    (gaps : checkGaps bytes (longWord bytes 0x18) arrayOffset (entriesAt bytes positions) =
      .ok ()) :
    read bytes =
      (attachTables (bytes.slice (longWord bytes 0x18) (longWord bytes 0x20))
        (entriesAt bytes positions) 0 relocations).map fun entries =>
          ⟨UInt32.ofNat (word bytes 0x04), UInt32.ofNat (word bytes 0x14), relocations, entries,
            bytes.slice (longWord bytes 0x18) (longWord bytes 0x20)⟩ := by
  have counted : (entriesAt bytes positions).length = word bytes 0x0C := by
    rw [length_entriesAt, count]
  unfold read
  rw [header, Outcome.ok_bind]
  dsimp only
  rw [if_neg (Nat.not_lt_of_ge few), relocationsEq, Outcome.ok_bind, walked, Outcome.ok_bind,
    if_neg (by simp [counted]), dataEq, Outcome.ok_bind, padding, Outcome.ok_bind, gaps,
    Outcome.ok_bind]
  cases attachTables (bytes.slice (longWord bytes 0x18) (longWord bytes 0x20))
    (entriesAt bytes positions) 0 relocations with
  | error error => rfl
  | ok entries => rfl

/-- A container whose stored records get the lookup tables of its relocations, if these can be
attached. -/
def attached (container : Container) : Except ProgramError Container :=
  (attachTables container.data container.bare.entries 0 container.relocations).map fun entries =>
    { container with entries := entries }

/-- What is written for a framed container is read up to its lookup tables. -/
theorem read_write_eq_attached (framed : container.Framed) :
    read container.write = container.attached := by
  have linked := framed.linked
  have few : container.bare.relocations.length ≤ greatestRelocations := framed.few
  have lengthEq := length_write few linked.ordered
  have parts := (eq_write_iff few linked.ordered lengthEq).mp rfl
  rw [write_bare] at lengthEq parts
  generalize container.write = bytes at *
  obtain ⟨header, tableEq, padding, ⟨gaps, records⟩, dataEq⟩ := parts
  have dataBehind := entriesEnd_le_dataOffset container.bare.entries
  have entriesBehind := linked.ordered.le_endFrom
  rw [← entriesEnd_eq] at entriesBehind
  have inside : headerSize ≤ bytes.length := by
    have arrayStart : headerSize ≤ arrayOffset := by decide
    omega
  obtain ⟨magicEq, versionEq, arrayEq, countEq, relocationsEq, flagsEq, offsetEq, sizeEq,
    reserved⟩ := (slice_eq_headerBytes_iff inside linked.entries_length_lt
      (Nat.lt_of_le_of_lt few (by decide)) linked.dataOffset_lt framed.addressable).mp header
  have recordEq : ∀ entry ∈ container.bare.entries,
      entry.descriptor = recordAt bytes entry.offset :=
    fun entry present => eq_recordAt present (records entry present)
  have places : ∀ entry ∈ container.bare.entries,
      entry.offset + Register.recordSize ≤ bytes.length := fun entry present =>
    Bytes.le_length_of_slice_eq (records entry present) (Descriptor.length_toBytes _) (by decide)
  have found := linked.entriesAt_eq recordEq
  rw [read_eq_of_checks ?_ ?_ ?_
    (linked.walk_eq places recordEq) ?_ ?_ ?_ ?_]
  · rw [found, offsetEq, sizeEq, dataEq, versionEq, flagsEq, UInt32.ofNat_toNat,
      UInt32.ofNat_toNat]
    rfl
  · refine checkHeader_eq_ok_iff.mpr ⟨inside, magicEq, ?_, arrayEq, reserved⟩
    rw [versionEq]
    exact congrArg UInt32.toNat framed.version
  · rw [relocationsEq]
    exact few
  · refine readRelocations_eq_ok_iff.mpr ⟨relocationsEq.symm, framed.names, ?_⟩
    rw [relocationsEq, Nat.zero_mul, Nat.add_zero]
    exact tableEq
  · rw [List.length_map, countEq]
  · rw [found, checkData_eq_ok_iff, offsetEq, sizeEq, lengthEq]
    exact ⟨rfl, rfl⟩
  · rwa [relocationsEq]
  · rwa [found, offsetEq]

/-- The lookup tables of a container are attached exactly when each of them can be. -/
theorem attached_eq_ok_iff {result : Container} :
    container.attached = .ok result ↔
      (∀ relocation ∈ container.relocations, relocation.kind = .lookupTable →
        Attachable container.data container.bare.entries relocation) ∧
      container.stored = result := by
  unfold attached
  rw [Outcome.map_eq_ok]
  constructor
  · rintro ⟨entries, attached, rfl⟩
    obtain ⟨attachable, rfl⟩ := attachTables_eq_ok_iff.mp attached
    exact ⟨attachable, rfl⟩
  · rintro ⟨attachable, rfl⟩
    exact ⟨_, attachTables_eq_ok_iff.mpr ⟨attachable, rfl⟩, rfl⟩

/-- What is written for a well-formed container is read as the stored container. -/
theorem read_write_eq (wellFormed : container.WellFormed) :
    read container.write = .ok container.stored := by
  rw [read_write_eq_attached wellFormed.framed]
  exact attached_eq_ok_iff.mpr ⟨wellFormed.attachable, rfl⟩

/-- The stored records are described by the built-in table. -/
theorem builtIn_of_mem_stored {entry : Entry} (present : entry ∈ container.stored.entries) :
    entry.descriptor.table = .standard := by
  obtain ⟨index, present⟩ := List.mem_iff_getElem?.mp present
  rw [stored, getElem?_withTables, bare, List.getElem?_map, Option.map_map,
    Option.map_eq_some_iff] at present
  obtain ⟨other, -, rfl⟩ := present
  rfl

/-- A program of two records with an empty slot between them; the second has a
lookup table of two entries in a blob of five bytes. -/
def curve : Container :=
  { version := formatVersion
    flags := 7
    relocations :=
      [ ⟨.surface, Relocation.wholeProgram, 0x10000, 64, "input0"⟩,
        ⟨.lookupTable, 1, 2, 5, "curve"⟩ ]
    entries :=
      [ ⟨0x4000, ⟨.standard, 0x4600#_ <<< (32 * 8), none⟩, some 1⟩,
        ⟨0x4600, ⟨.standard, 2#_ <<< (574 * 8), some ⟨[⟨0x3C00⟩, ⟨0x7E01⟩]⟩⟩, none⟩ ]
    data := [0, 0, 0x00, 0x3C, 0x01, 0x7E, 9] }

/-- The records of the program are linked. -/
theorem curve_linked : Linked curve.entries where
  start := rfl
  slots := by
    intro offset present
    rcases List.mem_pair.mp present with rfl | rfl
    · exact ⟨0, rfl⟩
    · exact ⟨2, rfl⟩
  increasing := by decide
  linked := by
    intro index entry following present followingPresent
    match index, present, followingPresent with
    | 0, rfl, rfl => exact ⟨rfl, by rw [Descriptor.next_stored rfl]; decide +kernel⟩
  last := by
    rintro entry ⟨⟩
    exact ⟨rfl, by rw [Descriptor.next_stored rfl]; decide +kernel⟩

/-- The program is well formed. -/
theorem curve_wellFormed : curve.WellFormed where
  version := rfl
  few := by decide
  names := by decide +kernel
  records := curve_linked
  tables := by
    intro relocation present kind
    rcases List.mem_pair.mp present with rfl | rfl
    · cases kind
    · refine ⟨_, rfl, by decide, ?_⟩
      rw [Descriptor.get_stored rfl]
      decide +kernel
  attached := by
    intro index entry present
    match index, present with
    | 0, rfl => rfl
    | 1, rfl => rfl
  addressable := by decide

/-- Whatever is read is written back byte for byte, is well formed, and is
linked as a whole. -/
theorem write_of_read (readEq : read bytes = .ok container) :
    container.write = bytes ∧ container.WellFormed ∧
      (∀ entry ∈ container.entries, entry.descriptor.table = .standard) ∧
      container.chainLength = container.entries.length ∧ 1 ≤ container.entries.length := by
  obtain ⟨wellFormed, storedEq⟩ := wellFormed_of_read readEq
  refine ⟨write_eq_of_read readEq, wellFormed, ?_, wellFormed.records.chainLength_eq,
    wellFormed.records.nonempty⟩
  intro entry present
  rw [← storedEq] at present
  exact builtIn_of_mem_stored present

/-- What is written for the program is written back. -/
theorem curve_written_back :
    read curve.write = .ok curve.stored ∧
      curve.stored.write = curve.write ∧ curve.stored.WellFormed ∧
      (∀ entry ∈ curve.stored.entries, entry.descriptor.table = .standard) ∧
      curve.stored.chainLength = curve.stored.entries.length ∧
      1 ≤ curve.stored.entries.length :=
  ⟨read_write_eq curve_wellFormed, write_of_read (read_write_eq curve_wellFormed)⟩

/-- What is written for a well-formed container is read back, whatever tables
describe its records. -/
theorem read_write (wellFormed : container.WellFormed) :
    ∃ result, read container.write = .ok result ∧
      result.version = container.version ∧ result.flags = container.flags ∧
      result.relocations = container.relocations ∧ result.data = container.data ∧
      (result.entries.map fun entry =>
          (entry.offset, entry.descriptor.toBytes, entry.next, entry.descriptor.lookup)) =
        container.entries.map fun entry =>
          (entry.offset, entry.descriptor.toBytes, entry.next, entry.descriptor.lookup) := by
  refine ⟨container.stored, read_write_eq wellFormed, rfl, rfl, rfl, rfl, ?_⟩
  apply List.ext_getElem?
  intro index
  rw [List.getElem?_map, List.getElem?_map, stored, getElem?_withTables, bare, List.getElem?_map]
  cases present : container.entries[index]? with
  | none => rfl
  | some entry =>
      have lookupEq : (entry.stored.withTable
          (tableOf? container.data container.relocations index)).descriptor.lookup =
            entry.descriptor.lookup := by
        rw [wellFormed.attached index entry present]
        exact Option.or_none
      have bytesEq : (entry.stored.withTable
          (tableOf? container.data container.relocations index)).descriptor.toBytes =
            entry.descriptor.toBytes := entry.descriptor.toBytes_stored
      simp only [Option.map_some, lookupEq, bytesEq]
      rfl

/-- What is written for the program is read back. -/
theorem curve_read_back :
    curve.WellFormed ∧
      ∃ result, read curve.write = .ok result ∧
        result.version = curve.version ∧ result.flags = curve.flags ∧
        result.relocations = curve.relocations ∧ result.data = curve.data ∧
        (result.entries.map fun entry =>
            (entry.offset, entry.descriptor.toBytes, entry.next, entry.descriptor.lookup)) =
          curve.entries.map fun entry =>
            (entry.offset, entry.descriptor.toBytes, entry.next, entry.descriptor.lookup) :=
  ⟨curve_wellFormed, read_write curve_wellFormed⟩

end Container
end TileProgram
