import Mathlib.Data.List.TakeWhile
import TileProgram.Container.Reader
import TileProgram.Container.Relocation
import TileProgram.Proofs.Bytes.Slices
import TileProgram.Proofs.Layout.Allocator
import TileProgram.Proofs.Outcome
import TileProgram.Proofs.Register.Bits
import TileProgram.Proofs.Text.Utf8

/-!
# The layout of written containers

A byte string is what is written for a container exactly when each of its parts
is: the records, the parts before them, then the whole.
-/

/-!
## Records and the gaps between them

Records that lie one behind the other divide the stretch up to the data
section into records and gaps.  The stretch holds what is written exactly when
every record has its bytes and every gap is zero, which the reader checks.
-/

namespace TileProgram

namespace Descriptor

@[simp] theorem length_toBytes (descriptor : Descriptor) :
    descriptor.toBytes.length = Register.recordSize :=
  Bytes.length_ofNat _ _

/-- The record that is stored: its bits under the built-in table, without a
lookup table. -/
def stored (descriptor : Descriptor) : Descriptor :=
  ofBytes descriptor.toBytes

@[simp] theorem stored_table (descriptor : Descriptor) : descriptor.stored.table = .standard := rfl

@[simp] theorem stored_lookup (descriptor : Descriptor) : descriptor.stored.lookup = none := rfl

@[simp] theorem stored_bits (descriptor : Descriptor) : descriptor.stored.bits = descriptor.bits :=
  Register.bitsOfBytes_bytesOfBits descriptor.bits

@[simp] theorem toBytes_stored (descriptor : Descriptor) :
    descriptor.stored.toBytes = descriptor.toBytes := by
  rw [toBytes, stored_bits, toBytes]

/-- What is stored is stored as it is. -/
@[simp] theorem stored_stored (descriptor : Descriptor) :
    descriptor.stored.stored = descriptor.stored := by
  rw [stored, toBytes_stored, stored]

@[simp] theorem stored_ofBytes (bytes : Bytes) : (ofBytes bytes).stored = ofBytes bytes := by
  unfold stored toBytes ofBytes
  rw [Register.bitsOfBytes_bytesOfBits]

/-- A register of the built-in table reads the same in the stored record. -/
theorem get_stored
    {descriptor : Descriptor}
    (builtIn : descriptor.table = .standard)
    (name : Register.Name) :
    descriptor.stored.get name = descriptor.get name := by
  unfold get
  rw [stored_table, stored_bits, builtIn]

/-- So does the pointer to the next record. -/
theorem next_stored
    {descriptor : Descriptor}
    (builtIn : descriptor.table = .standard) :
    descriptor.stored.next = descriptor.next := by
  unfold next
  rw [get_stored builtIn]

/-- A record that is read has the bytes it was read from. -/
theorem toBytes_ofBytes
    {bytes : Bytes}
    (lengthEq : bytes.length = Register.recordSize) :
    (ofBytes bytes).toBytes = bytes :=
  Register.bytesOfBits_bitsOfBytes lengthEq

end Descriptor

namespace Container

/-- Records that lie behind a position, one behind the other. -/
def Ordered : Nat → List Entry → Prop
  | _, [] => True
  | position, entry :: rest =>
      position ≤ entry.offset ∧ Ordered (entry.offset + Register.recordSize) rest

/-- The position behind records that begin behind a given one. -/
def endFrom : Nat → List Entry → Nat
  | position, [] => position
  | _, entry :: rest => endFrom (entry.offset + Register.recordSize) rest

theorem endFrom_eq (position : Nat) (entries : List Entry) :
    endFrom position entries =
      (entries.getLast?.map fun entry => entry.offset + Register.recordSize).getD position := by
  induction entries generalizing position with
  | nil => rfl
  | cons entry rest inductionHypothesis =>
      rw [endFrom, inductionHypothesis, List.getLast?_cons]
      cases rest.getLast? with
      | none => rfl
      | some final => rfl

/-- The records of a container end where those behind the first position end. -/
theorem entriesEnd_eq (entries : List Entry) :
    entriesEnd entries = endFrom arrayOffset entries := by
  rw [endFrom_eq, entriesEnd]
  cases entries.getLast? with
  | none => rfl
  | some final => rfl

theorem Ordered.le_endFrom
    {position : Nat}
    {entries : List Entry}
    (ordered : Ordered position entries) :
    position ≤ endFrom position entries := by
  induction entries generalizing position with
  | nil => exact Nat.le_refl _
  | cons entry rest inductionHypothesis =>
      obtain ⟨before, ordered⟩ := ordered
      have := inductionHypothesis ordered
      rw [endFrom]
      omega

/-- Records and gaps fill the stretch up to the end of the last record. -/
theorem Ordered.length_recordBytes
    {position : Nat}
    {entries : List Entry}
    (ordered : Ordered position entries) :
    (recordBytes position entries).length = endFrom position entries - position := by
  induction entries generalizing position with
  | nil => simp [recordBytes, endFrom]
  | cons entry rest inductionHypothesis =>
      obtain ⟨before, ordered⟩ := ordered
      have restEnds := ordered.le_endFrom
      rw [recordBytes, endFrom, List.length_append, List.length_append,
        inductionHypothesis ordered, Bytes.length_zeros, Descriptor.length_toBytes]
      omega

/-- A stretch is found clear exactly when it is zero. -/
theorem checkClear_eq_ok_iff
    (gap : Gap)
    {bytes : Bytes}
    {start stop : Nat}
    (inside : stop ≤ bytes.length)
    (forward : start ≤ stop) :
    checkClear gap bytes start stop = .ok () ↔
      bytes.slice start (stop - start) = Bytes.zeros (stop - start) := by
  have lengthEq : (bytes.slice start (stop - start)).length = stop - start :=
    Bytes.length_slice (by omega)
  have zero := Bytes.findIdx?_ne_zero_eq_none (bytes.slice start (stop - start))
  rw [lengthEq] at zero
  rw [checkClear, ← zero]
  cases (bytes.slice start (stop - start)).findIdx? (· != 0) with
  | none => simp
  | some index => simp

/-- A stretch holds what is written exactly when its gaps are zero and its
records have their bytes. -/
theorem checkGaps_eq_ok_iff
    {bytes : Bytes}
    {dataStart position : Nat}
    {entries : List Entry}
    (ordered : Ordered position entries)
    (before : endFrom position entries ≤ dataStart)
    (inside : dataStart ≤ bytes.length) :
    (checkGaps bytes dataStart position entries = .ok () ∧
        ∀ entry ∈ entries,
          bytes.slice entry.offset Register.recordSize = entry.descriptor.toBytes) ↔
      bytes.slice position (dataStart - position) =
        recordBytes position entries ++ Bytes.zeros (dataStart - endFrom position entries) := by
  induction entries generalizing position with
  | nil =>
      have before : position ≤ dataStart := before
      rw [checkGaps, checkClear_eq_ok_iff _ inside before]
      simp [recordBytes, endFrom]
  | cons entry rest inductionHypothesis =>
      obtain ⟨forward, ordered⟩ := ordered
      rw [endFrom] at before
      have restEnds := ordered.le_endFrom
      have parts : dataStart - position = entry.offset - position +
          (Register.recordSize + (dataStart - (entry.offset + Register.recordSize))) := by
        omega
      have start : position + (entry.offset - position) = entry.offset := by omega
      rw [checkGaps, Outcome.seq_eq_ok, Outcome.exists_unit, recordBytes, endFrom, parts,
        List.append_assoc, List.append_assoc, Bytes.slice_add_eq_append (Bytes.length_zeros _), start,
        Bytes.slice_add_eq_append (Descriptor.length_toBytes _),
        ← inductionHypothesis ordered before]
      have clearIff := checkClear_eq_ok_iff .recordGap
        (show entry.offset ≤ bytes.length by omega) forward
      simp only [List.forall_mem_cons, clearIff]
      constructor
      · rintro ⟨⟨clear, gaps⟩, here, records⟩
        exact ⟨clear, here, gaps, records⟩
      · rintro ⟨clear, here, gaps, records⟩
        exact ⟨⟨clear, gaps⟩, here, records⟩

end Container
end TileProgram

/-!
## Entries of the relocation table

An entry is read back from its bytes, and an entry that is read has the bytes
it was read from.  Both follow from `eq_toBytes_iff`, which says field by field
what it means for 64 bytes to be those of an entry.
-/

namespace TileProgram

namespace Bytes

/-- The part of a padded string before its first zero, if the string has none. -/
theorem takeWhile_append_zeros
    {bytes : Bytes}
    (count : Nat)
    (nonzero : (0 : UInt8) ∉ bytes) :
    (bytes ++ zeros count).takeWhile (· != 0) = bytes := by
  have passes : ∀ byte ∈ bytes, (byte != 0) = true := by
    intro byte present
    rw [bne_iff_ne]
    rintro rfl
    exact nonzero present
  rw [List.takeWhile_append_of_pos passes]
  cases count with
  | zero => simp
  | succ count => simp [zeros, List.replicate_succ]

/-- There is no zero before the first zero. -/
theorem zero_not_mem_takeWhile (bytes : Bytes) :
    (0 : UInt8) ∉ bytes.takeWhile (· != 0) := by
  intro present
  have passes := List.mem_takeWhile_imp present
  simp at passes

end Bytes

namespace Container
namespace RelocationKind

theorem code_lt (kind : RelocationKind) : kind.code < Bytes.capacity 4 := by
  cases kind <;> decide

/-- The kind found for a code has that code. -/
theorem code_of_ofCode?
    {code : Nat}
    {kind : RelocationKind}
    (found : ofCode? code = some kind) :
    kind.code = code := by
  simpa using List.find?_some found

end RelocationKind

namespace Relocation

/-- A name fits when its bytes fit and it has no zero character. -/
theorem nameFits_iff (name : String) :
    nameFits name = true ↔
      (Utf8.encode name).length ≤ nameSize ∧ (0 : UInt8) ∉ Utf8.encode name := by
  rw [Utf8.zero_mem_encode]
  simp [nameFits]

@[simp] theorem length_toBytes (relocation : Relocation) :
    relocation.toBytes.length = entrySize := by
  simp [toBytes, nameSize, entrySize]

/-- The bytes of an entry, field by field. -/
theorem eq_toBytes_iff
    {bytes : Bytes}
    {relocation : Relocation}
    (lengthEq : bytes.length = entrySize) :
    bytes = relocation.toBytes ↔
      Bytes.toNat (bytes.slice 0 4) = relocation.kind.code ∧
      Bytes.toNat (bytes.slice 4 4) = relocation.record.toNat ∧
      Bytes.toNat (bytes.slice 8 8) = relocation.offset.toNat ∧
      Bytes.toNat (bytes.slice 0x10 8) = relocation.size.toNat ∧
      bytes.slice 0x18 nameSize = Bytes.resize (Utf8.encode relocation.name) nameSize := by
  have lengthEq : bytes.length = 0x40 := lengthEq
  have whole : bytes = bytes.slice 0 (4 + 4 + 8 + 8 + nameSize) := by
    conv => lhs; rw [← Bytes.slice_all bytes, lengthEq]
    rfl
  conv => lhs; rw [whole, toBytes]
  rw [Bytes.slice_add_eq_append (by simp), Bytes.slice_add_eq_append (by simp),
    Bytes.slice_add_eq_append (by simp), Bytes.slice_add_eq_append (by simp),
    Bytes.slice_eq_ofNat_iff (by omega) relocation.kind.code_lt,
    Bytes.slice_eq_ofNat_iff (by omega) relocation.record.toNat_lt,
    Bytes.slice_eq_ofNat_iff (by omega) relocation.offset.toNat_lt,
    Bytes.slice_eq_ofNat_iff (by omega) relocation.size.toNat_lt]
  simp only [and_assoc, Nat.zero_add, Nat.reduceAdd]

/-- An entry whose name fits is read back from its bytes. -/
theorem ofBytes_toBytes
    (index : Nat)
    {relocation : Relocation}
    (fits : nameFits relocation.name = true) :
    ofBytes index relocation.toBytes = .ok relocation := by
  obtain ⟨short, nonzero⟩ := (nameFits_iff _).mp fits
  obtain ⟨kind, record, offset, size, name⟩ :=
    (eq_toBytes_iff (length_toBytes relocation)).mp (Eq.refl relocation.toBytes)
  rw [Bytes.resize_eq short] at name
  unfold ofBytes
  simp only [kind, RelocationKind.ofCode?_code, name, Bytes.takeWhile_append_zeros _ nonzero,
    List.drop_left, record, offset, size, Utf8.decode_encode, UInt32.ofNat_toNat,
    UInt64.ofNat_toNat]
  rw [if_neg]
  simp [Bytes.isClear_iff]

/-- An entry that is read has the bytes it was read from, and its name fits. -/
theorem toBytes_of_ofBytes
    {index : Nat}
    {bytes : Bytes}
    {relocation : Relocation}
    (lengthEq : bytes.length = entrySize)
    (read : ofBytes index bytes = .ok relocation) :
    bytes = relocation.toBytes ∧ nameFits relocation.name = true := by
  have lengthName : (bytes.slice 0x18 nameSize).length = nameSize :=
    Bytes.length_slice (by rw [lengthEq]; decide)
  unfold ofBytes at read
  dsimp only at read
  split at read
  · cases read
  rename_i kind kindEq
  split at read
  · cases read
  rename_i clear
  split at read
  · cases read
  rename_i name nameEq
  cases read
  have textEq := Utf8.encode_of_decode nameEq
  have nonzero := Bytes.zero_not_mem_takeWhile (bytes.slice 0x18 nameSize)
  have short := (List.takeWhile_sublist (· != 0) (l := bytes.slice 0x18 nameSize)).length_le
  have rest := List.prefix_iff_eq_append.mp
    (List.takeWhile_prefix (· != 0) (l := bytes.slice 0x18 nameSize))
  rw [← textEq] at nonzero short clear rest
  rw [lengthName] at short
  refine ⟨(eq_toBytes_iff lengthEq).mpr ⟨?_, ?_, ?_, ?_, ?_⟩, (nameFits_iff _).mpr ⟨short, nonzero⟩⟩
  · exact (RelocationKind.code_of_ofCode? kindEq).symm
  · exact (UInt32.toNat_ofNat_of_lt' (Bytes.toNat_slice_lt bytes 4 4)).symm
  · exact (UInt64.toNat_ofNat_of_lt' (Bytes.toNat_slice_lt bytes 8 8)).symm
  · exact (UInt64.toNat_ofNat_of_lt' (Bytes.toNat_slice_lt bytes 0x10 8)).symm
  · rw [Bool.not_eq_true', Bool.not_eq_false, Bytes.isClear_iff] at clear
    rw [Bytes.resize_eq short]
    rw [← rest, clear]
    simp [lengthName]

end Relocation
end Container
end TileProgram

/-!
## The header and the table of relocations

What stands before the records: the fixed numbers, the counts and positions,
and the entries of the relocation table.  Each part holds what is written
exactly when it passes the checks of the reader.
-/

namespace TileProgram
namespace Container

/-- A part lies inside exactly when its check passes. -/
theorem checkRange_eq_ok_iff {part : Part} {offset needed length : Nat} :
    checkRange part offset needed length = .ok () ↔ offset + needed ≤ length := by
  unfold checkRange
  split
  · next inside => simp [inside]
  · next outside => simp [outside]

/-- The header holds what is written for a container exactly when each number in
it does. -/
theorem slice_eq_headerBytes_iff
    {bytes : Bytes}
    {container : Container}
    (inside : headerSize ≤ bytes.length)
    (entriesFit : container.entries.length < Bytes.capacity 4)
    (relocationsFit : container.relocations.length < Bytes.capacity 4)
    (offsetFits : dataOffset container.entries < Bytes.capacity 8)
    (dataFits : container.data.length < Bytes.capacity 8) :
    bytes.slice 0 headerSize = container.headerBytes ↔
      word bytes 0x00 = magic ∧ word bytes 0x04 = container.version.toNat ∧
      word bytes 0x08 = arrayOffset ∧ word bytes 0x0C = container.entries.length ∧
      word bytes 0x10 = container.relocations.length ∧
      word bytes 0x14 = container.flags.toNat ∧
      longWord bytes 0x18 = dataOffset container.entries ∧
      longWord bytes 0x20 = container.data.length ∧
      bytes.slice 0x28 24 = Bytes.zeros 24 := by
  have inside : 0x40 ≤ bytes.length := inside
  have parts : headerSize = 4 + 4 + 4 + 4 + 4 + 4 + 8 + 8 + 24 := rfl
  rw [headerBytes, parts]
  rw [Bytes.slice_add_eq_append (by simp), Bytes.slice_add_eq_append (by simp),
    Bytes.slice_add_eq_append (by simp), Bytes.slice_add_eq_append (by simp),
    Bytes.slice_add_eq_append (by simp), Bytes.slice_add_eq_append (by simp),
    Bytes.slice_add_eq_append (by simp), Bytes.slice_add_eq_append (by simp),
    Bytes.slice_eq_ofNat_iff (by omega) (by decide),
    Bytes.slice_eq_ofNat_iff (by omega) container.version.toNat_lt,
    Bytes.slice_eq_ofNat_iff (by omega) (by decide),
    Bytes.slice_eq_ofNat_iff (by omega) entriesFit,
    Bytes.slice_eq_ofNat_iff (by omega) relocationsFit,
    Bytes.slice_eq_ofNat_iff (by omega) container.flags.toNat_lt,
    Bytes.slice_eq_ofNat_iff (by omega) offsetFits,
    Bytes.slice_eq_ofNat_iff (by omega) dataFits]
  simp only [and_assoc, Nat.zero_add, Nat.reduceAdd, word, longWord]

/-- The fixed numbers of a header are those that its check looks for. -/
theorem checkHeader_eq_ok_iff {bytes : Bytes} :
    checkHeader bytes = .ok () ↔
      headerSize ≤ bytes.length ∧ word bytes 0x00 = magic ∧
      word bytes 0x04 = formatVersion.toNat ∧ word bytes 0x08 = arrayOffset ∧
      bytes.slice 0x28 24 = Bytes.zeros 24 := by
  unfold checkHeader
  simp only [Outcome.seq_eq_ok, Outcome.guard_eq_ok, Outcome.exists_unit, checkRange_eq_ok_iff,
    bne_iff_ne, ne_eq, Decidable.not_not, Nat.zero_add, and_congr_right_iff]
  intro inside _ _ _
  exact checkClear_eq_ok_iff .reservedHeader inside (by decide)

/-- The bytes of entries fill as many slots of the table. -/
theorem length_flatMap_toBytes (relocations : List Relocation) :
    (relocations.flatMap Relocation.toBytes).length =
      relocations.length * Relocation.entrySize := by
  induction relocations with
  | nil => simp
  | cons relocation rest inductionHypothesis =>
      rw [List.flatMap_cons, List.length_append, inductionHypothesis, Relocation.length_toBytes,
        List.length_cons, Nat.succ_mul, Nat.add_comm]

/-- Entries are read exactly from the bytes that are written for them, if their
names fit. -/
theorem readRelocations_eq_ok_iff
    {bytes : Bytes}
    {index count : Nat}
    {relocations : List Relocation} :
    readRelocations bytes index count = .ok relocations ↔
      relocations.length = count ∧
      (∀ relocation ∈ relocations, Relocation.nameFits relocation.name = true) ∧
      bytes.slice (headerSize + index * Relocation.entrySize) (count * Relocation.entrySize) =
        relocations.flatMap Relocation.toBytes := by
  induction count generalizing index relocations with
  | zero =>
      rw [readRelocations]
      cases relocations with
      | nil => simp
      | cons relocation rest => simp
  | succ count inductionHypothesis =>
      rw [readRelocations]
      simp only [Outcome.seq_eq_ok, Outcome.pure_eq_ok, Outcome.exists_unit,
        checkRange_eq_ok_iff, inductionHypothesis]
      have parts : (count + 1) * Relocation.entrySize =
          Relocation.entrySize + count * Relocation.entrySize := by
        rw [Nat.succ_mul, Nat.add_comm]
      have following : headerSize + index * Relocation.entrySize + Relocation.entrySize =
          headerSize + (index + 1) * Relocation.entrySize := by
        rw [Nat.succ_mul, Nat.add_assoc]
      constructor
      · rintro ⟨inside, relocation, read, rest, ⟨lengthEq, fit, bytesEq⟩, rfl⟩
        obtain ⟨here, fits⟩ := Relocation.toBytes_of_ofBytes (Bytes.length_slice inside) read
        refine ⟨by rw [List.length_cons, lengthEq], ?_, ?_⟩
        · exact List.forall_mem_cons.mpr ⟨fits, fit⟩
        · rw [parts, List.flatMap_cons,
            Bytes.slice_add_eq_append (Relocation.length_toBytes _), following]
          exact ⟨here, bytesEq⟩
      · rintro ⟨lengthEq, fit, bytesEq⟩
        cases relocations with
        | nil => cases lengthEq
        | cons relocation rest =>
            obtain ⟨fits, fit⟩ := List.forall_mem_cons.mp fit
            rw [parts, List.flatMap_cons,
              Bytes.slice_add_eq_append (Relocation.length_toBytes _), following] at bytesEq
            obtain ⟨here, bytesEq⟩ := bytesEq
            have inside := Bytes.le_length_of_slice_eq here (Relocation.length_toBytes _)
              (by decide)
            refine ⟨inside, relocation, ?_, rest, ⟨Nat.succ.inj lengthEq, fit, bytesEq⟩, rfl⟩
            rw [here, Relocation.ofBytes_toBytes index fits]

end Container
end TileProgram

/-!
## The layout of a container

What is written for a container is divided into the header, the relocations,
the stretch of records and gaps, and the data.  A byte string of the right
length is what is written exactly when each part is.
-/

namespace TileProgram

namespace Container

/-- The data section lies behind the records. -/
theorem entriesEnd_le_dataOffset (entries : List Entry) :
    entriesEnd entries ≤ dataOffset entries :=
  Layout.le_alignUp (by decide)

/-- The table of relocations that fit ends before the records. -/
theorem relocations_end_le {count : Nat} (few : count ≤ greatestRelocations) :
    headerSize + count * Relocation.entrySize ≤ arrayOffset := by
  have few : count ≤ 255 := few
  change 0x40 + count * 0x40 ≤ 0x4000
  omega

@[simp] theorem length_headerBytes (container : Container) :
    container.headerBytes.length = headerSize := by
  simp [headerBytes, headerSize]

/-- The parts of what is written, the records together with the gap behind them. -/
theorem write_eq (container : Container) :
    container.write =
      container.headerBytes ++ container.relocations.flatMap Relocation.toBytes ++
        Bytes.zeros (arrayOffset - headerSize -
          container.relocations.length * Relocation.entrySize) ++
        (recordBytes arrayOffset container.entries ++
          Bytes.zeros (dataOffset container.entries - entriesEnd container.entries)) ++
        container.data := by
  rw [write, length_flatMap_toBytes]
  simp only [List.append_assoc]

variable {container : Container}

/-- The length of what is written. -/
theorem length_write
    (few : container.relocations.length ≤ greatestRelocations)
    (ordered : Ordered arrayOffset container.entries) :
    container.write.length = dataOffset container.entries + container.data.length := by
  have tableEnd := relocations_end_le few
  have arrayEnd := ordered.le_endFrom
  have dataBehind := entriesEnd_le_dataOffset container.entries
  rw [entriesEnd_eq] at dataBehind
  rw [write_eq]
  simp only [List.length_append, Bytes.length_zeros, length_headerBytes, length_flatMap_toBytes,
    ordered.length_recordBytes, entriesEnd_eq]
  omega

/-- A byte string of the right length is what is written exactly when each part is. -/
theorem eq_write_iff
    {bytes : Bytes}
    (few : container.relocations.length ≤ greatestRelocations)
    (ordered : Ordered arrayOffset container.entries)
    (lengthEq : bytes.length = dataOffset container.entries + container.data.length) :
    bytes = container.write ↔
      bytes.slice 0 headerSize = container.headerBytes ∧
      bytes.slice headerSize (container.relocations.length * Relocation.entrySize) =
        container.relocations.flatMap Relocation.toBytes ∧
      checkClear .relocationPadding bytes
        (headerSize + container.relocations.length * Relocation.entrySize) arrayOffset = .ok () ∧
      (checkGaps bytes (dataOffset container.entries) arrayOffset container.entries = .ok () ∧
        ∀ entry ∈ container.entries,
          bytes.slice entry.offset Register.recordSize = entry.descriptor.toBytes) ∧
      bytes.slice (dataOffset container.entries) container.data.length = container.data := by
  have tableEnd := relocations_end_le few
  have arrayEnd := ordered.le_endFrom
  have dataBehind := entriesEnd_le_dataOffset container.entries
  rw [entriesEnd_eq] at dataBehind
  have lengthRecords := ordered.length_recordBytes
  have lengthTable := length_flatMap_toBytes container.relocations
  generalize tableSizeEq : container.relocations.length * Relocation.entrySize = tableSize at *
  generalize offsetEq : dataOffset container.entries = dataStart at *
  have parts : bytes.length = headerSize + tableSize + (arrayOffset - headerSize - tableSize) +
      (dataStart - arrayOffset) + container.data.length := by
    omega
  have whole : bytes = bytes.slice 0 bytes.length := (Bytes.slice_all bytes).symm
  have padding : arrayOffset - (headerSize + tableSize) = arrayOffset - headerSize - tableSize := by
    omega
  have paddingEnd :
      headerSize + tableSize + (arrayOffset - headerSize - tableSize) = arrayOffset := by
    omega
  have arrayStretch : arrayOffset + (dataStart - arrayOffset) = dataStart := by omega
  conv => lhs; lhs; rw [whole, parts]
  rw [write_eq, tableSizeEq, offsetEq, entriesEnd_eq,
    Bytes.slice_add_eq_append (by simp [lengthTable, lengthRecords]; omega),
    Bytes.slice_add_eq_append (by simp [lengthTable]; omega),
    Bytes.slice_add_eq_append (by simp [lengthTable]),
    Bytes.slice_add_eq_append (length_headerBytes container),
    checkGaps_eq_ok_iff ordered dataBehind (by omega),
    checkClear_eq_ok_iff _ (by omega) tableEnd]
  simp only [Nat.zero_add, padding, paddingEnd, arrayStretch, and_assoc]

end Container
end TileProgram
