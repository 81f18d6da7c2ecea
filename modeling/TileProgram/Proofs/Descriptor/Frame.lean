import TileProgram.Proofs.Descriptor.Assignments
import TileProgram.Proofs.Register.Accepted
import TileProgram.Proofs.Register.Exact

/-!
# Writing registers of a record

A record that an accepted table describes is changed by a write in the bits of
the written register only.  The bytes of the region around it may be rewritten,
but every bit of them that belongs to another register, or to none, stays.  So
a record is restored from the values of its registers.
-/

namespace TileProgram

open Register

/-- Writes an amount into a register of a byte buffer. -/
def Amount.writeTo (field : Field) (buffer : Bytes) : Amount → Written
  | .unsigned value => field.packBytes buffer value
  | .signed value => field.packSignedBytes buffer value

namespace Descriptor

variable {descriptor changed : Descriptor} {field other : Field} {amount : Amount}

/-- Writing into the bytes of a record is writing into the record. -/
theorem writeTo_toBytes
    (shaped : field.Shaped recordSize)
    (descriptor : Descriptor)
    (amount : Amount) :
    amount.writeTo field descriptor.toBytes =
      match descriptor.put field amount with
      | .ok changed => ⟨changed.toBytes, .ok ()⟩
      | .error error => ⟨descriptor.toBytes, .error (.refused error)⟩ := by
  cases amount with
  | unsigned value =>
      rw [put, Amount.writeTo, toBytes, shaped.packBytes_bytesOfBits]
      cases field.pack descriptor.bits value <;> rfl
  | signed value =>
      rw [put, Amount.writeTo, toBytes, shaped.packSignedBytes_bytesOfBits]
      cases field.packSigned descriptor.bits value <;> rfl

/-- A byte all of whose bits are the same is the same. -/
theorem toBytes_getElem?_congr
    {offset : Nat}
    (bits : ∀ index, 8 * offset ≤ index → index < 8 * offset + 8 →
      changed.bits.getLsbD index = descriptor.bits.getLsbD index) :
    changed.toBytes[offset]? = descriptor.toBytes[offset]? := by
  have length (record : Descriptor) : record.toBytes.length = recordSize :=
    length_bytesOfBits record.bits
  rcases Nat.lt_or_ge offset recordSize with inside | outside
  · have present : offset < changed.toBytes.length := length changed ▸ inside
    have present' : offset < descriptor.toBytes.length := length descriptor ▸ inside
    rw [List.getElem?_eq_getElem present, List.getElem?_eq_getElem present']
    congr 1
    apply UInt8.toNat_inj.mp
    apply Nat.eq_of_testBit_eq
    intro index
    by_cases small : index < 8
    · rw [Bytes.testBit_toNat_getElem present small, Bytes.testBit_toNat_getElem present' small,
        toBytes, toBytes, testBit_toNat_bytesOfBits, testBit_toNat_bytesOfBits]
      exact bits _ (by omega) (by omega)
    · have large : ∀ byte : UInt8, byte.toNat.testBit index = false := fun byte =>
        Nat.testBit_lt_two_pow (Nat.lt_of_lt_of_le byte.toNat_lt
          (Nat.pow_le_pow_right (by decide) (by omega)))
      rw [large, large]
  · rw [List.getElem?_eq_none (length changed ▸ outside),
      List.getElem?_eq_none (length descriptor ▸ outside)]

/-- A bit outside the written register stays. -/
theorem getLsbD_of_put
    (written : descriptor.put field amount = .ok changed)
    {index : Nat}
    (outside : ¬(field.bitStart ≤ index ∧ index < field.bitEnd)) :
    changed.bits.getLsbD index = descriptor.bits.getLsbD index := by
  obtain ⟨rfl, -⟩ := put_eq_ok written
  rw [Field.getLsbD_replace, if_neg outside]

/-- A byte outside the region of the written register stays. -/
theorem toBytes_of_put
    (placed : Table.Placed field)
    (written : descriptor.put field amount = .ok changed)
    {offset : Nat}
    (outside : ¬(field.name.region.start ≤ offset ∧ offset < field.name.region.stop)) :
    changed.toBytes[offset]? = descriptor.toBytes[offset]? := by
  apply toBytes_getElem?_congr
  intro index above below
  apply getLsbD_of_put written
  unfold Table.Placed at placed
  omega

/-- A disjoint register stays. -/
theorem unsigned_of_put
    (disjoint : other.Disjoint field)
    (written : descriptor.put field amount = .ok changed) :
    other.unsigned changed.bits = other.unsigned descriptor.bits := by
  obtain ⟨rfl, -⟩ := put_eq_ok written
  rw [Field.unsigned, Field.unsigned, Field.slice_replace_of_disjoint disjoint]

/-- The written register holds the value. -/
theorem unsigned_of_put_unsigned
    {value : Nat}
    (shaped : field.Shaped recordSize)
    (written : descriptor.put field (.unsigned value) = .ok changed) :
    field.unsigned changed.bits = value := by
  obtain ⟨rfl, fits⟩ := put_eq_ok written
  rw [Field.unsigned, Field.slice_replace shaped.inside, Amount.bits, BitVec.toNat_ofNat]
  exact Nat.mod_eq_of_lt (fits value rfl)

/-- The bytes between and behind the regions. -/
theorem outside_of_unmapped
    (region : Region)
    {offset : Nat}
    (unmapped : 0x240 ≤ offset ∧ offset < 0x258 ∨ 0x274 ≤ offset) :
    ¬(region.start ≤ offset ∧ offset < region.stop) := by
  have apart : region.stop ≤ 0x240 ∨ 0x258 ≤ region.start ∧ region.stop ≤ 0x274 := by
    cases region <;> decide
  omega

/-- Writing into a register of a record leaves the bytes as they are if it is
refused, and otherwise changes bits of that register only. -/
theorem write_changes_own_bits
    (accepted : descriptor.table.Accepted)
    (present : field ∈ descriptor.table.fields)
    (amount : Amount) :
    (∀ error, descriptor.putText field.name.text amount = .error error →
      amount.writeTo field descriptor.toBytes =
        ⟨descriptor.toBytes, .error (.refused error)⟩) ∧
    ∀ changed, descriptor.putText field.name.text amount = .ok changed →
      amount.writeTo field descriptor.toBytes = ⟨changed.toBytes, .ok ()⟩ ∧
      (∀ index, ¬(field.bitStart ≤ index ∧ index < field.bitEnd) →
        (Bytes.toNat changed.toBytes).testBit index =
          (Bytes.toNat descriptor.toBytes).testBit index) ∧
      (∀ offset, ¬(field.name.region.start ≤ offset ∧ offset < field.name.region.stop) →
        changed.toBytes[offset]? = descriptor.toBytes[offset]?) ∧
      (∀ offset, 0x240 ≤ offset ∧ offset < 0x258 ∨ 0x274 ≤ offset →
        changed.toBytes[offset]? = descriptor.toBytes[offset]?) ∧
      (∀ other ∈ descriptor.table.fields, other ≠ field →
        other.isAlias = false → field.isAlias = false →
        changed.getText other.name.text = descriptor.getText other.name.text) ∧
      ∀ value, amount = .unsigned value → changed.getText field.name.text = .ok value := by
  have orderly := accepted.orderly
  have shaped := orderly.shaped field present
  have placed := orderly.placed field present
  have put_eq : descriptor.putText field.name.text amount = descriptor.put field amount := by
    rw [putText, orderly.lookupText_text present]
    rfl
  rw [writeTo_toBytes shaped, put_eq]
  constructor
  · intro error refused
    rw [refused]
  · intro changed written
    have table : changed.table = descriptor.table := by rw [(put_eq_ok written).1]
    refine ⟨by rw [written], ?_, ?_, ?_, ?_, ?_⟩
    · intro index outside
      rw [toBytes, toBytes, testBit_toNat_bytesOfBits, testBit_toNat_bytesOfBits]
      exact getLsbD_of_put written outside
    · intro offset outside
      exact toBytes_of_put placed written outside
    · intro offset unmapped
      exact toBytes_of_put placed written (outside_of_unmapped _ unmapped)
    · intro other otherPresent different otherPlain plain
      have disjoint := orderly.disjoint other otherPresent field present different otherPlain plain
      rw [getText, getText, table, orderly.lookupText_text otherPresent]
      exact congrArg Except.ok (unsigned_of_put disjoint written)
    · rintro value rfl
      rw [getText, table, orderly.lookupText_text present]
      exact congrArg Except.ok (unsigned_of_put_unsigned shaped written)

/-- A register over nine bytes, one that shares a byte with it, and an alias of its beginning. -/
def straddling : Table :=
  { fields :=
      [ ⟨⟨.common, "Wide"⟩, 0x130, 5, 64, false, false⟩,
        ⟨⟨.common, "Wide.Low"⟩, 0x130, 0, 32, false, true⟩,
        ⟨⟨.common, "Next"⟩, 0x138, 5, 11, true, false⟩ ] }

/-- The greatest value is written into the wide register, and its neighbour stays. -/
theorem straddling_written :
    straddling.Accepted ∧
      ∃ changed, (ofTable straddling).putText "Common.Wide" (.unsigned (2 ^ 64 - 1)) = .ok changed ∧
        (Amount.unsigned (2 ^ 64 - 1)).writeTo ⟨⟨.common, "Wide"⟩, 0x130, 5, 64, false, false⟩
          (ofTable straddling).toBytes = ⟨changed.toBytes, .ok ()⟩ ∧
        changed.getText "Common.Next" = (ofTable straddling).getText "Common.Next" ∧
        changed.getText "Common.Wide" = .ok (2 ^ 64 - 1) := by
  have accepted : straddling.Accepted := Or.inl ⟨straddling.fields, by cbv⟩
  have frame := (@write_changes_own_bits (ofTable straddling)
    ⟨⟨.common, "Wide"⟩, 0x130, 5, 64, false, false⟩ accepted (by decide)
    (.unsigned (2 ^ 64 - 1))).2
  have possible :
      ((ofTable straddling).putText "Common.Wide" (.unsigned (2 ^ 64 - 1))).toBool = true := by
    decide +kernel
  refine ⟨accepted, ?_⟩
  cases outcome : (ofTable straddling).putText "Common.Wide" (.unsigned (2 ^ 64 - 1)) with
  | error error =>
      rw [outcome] at possible
      cases possible
  | ok changed =>
      obtain ⟨bytes, -, -, -, others, own⟩ := frame changed outcome
      refine ⟨changed, rfl, bytes, ?_, own _ rfl⟩
      exact others ⟨⟨.common, "Next"⟩, 0x138, 5, 11, true, false⟩ (by decide) (by decide) rfl rfl

/-!
## Copying registers

A record yields its registers that are not zero, aliases among them.  Writing a
register replaces its bits by those of the record, so that registers that
overlap agree on what they write and the order does not matter.
-/

/-- Writes values into registers of given qualified names, one after another. -/
def putFields (descriptor : Descriptor) : List (Field × Nat) → Except Error Descriptor
  | [] => .ok descriptor
  | (field, value) :: rest =>
      (descriptor.putText field.name.text (.unsigned value)).bind fun changed =>
        changed.putFields rest

/-- A record yields each of its registers that is not zero, with its value. -/
theorem mem_fields {record : Descriptor} {field : Field} {value : Nat} :
    (field, value) ∈ record.fields ↔
      field ∈ record.table.fields ∧ value = field.unsigned record.bits ∧ value ≠ 0 := by
  simp only [fields, List.mem_filterMap]
  constructor
  · rintro ⟨other, present, chosen⟩
    split at chosen
    · cases chosen
    · next positive =>
        cases chosen
        exact ⟨present, rfl, positive⟩
  · rintro ⟨present, rfl, positive⟩
    exact ⟨field, present, if_neg positive⟩

/-- What another record of the table holds in a register can be written into it. -/
theorem putText_unsigned
    {record copy : Descriptor}
    {field : Field}
    (orderly : record.table.Orderly)
    (table : copy.table = record.table)
    (present : field ∈ record.table.fields) :
    copy.putText field.name.text (.unsigned (field.unsigned record.bits)) =
      .ok { copy with bits := field.replace copy.bits (field.slice record.bits) } := by
  have found : copy.table.lookupText field.name.text = .ok field := by
    rw [table, orderly.lookupText_text present]
  rw [putText, found]
  show (field.pack copy.bits _).map _ = _
  rw [Field.pack_unsigned_of]
  rfl

/-- After registers have been copied, each bit of one of them is the copied one and every other bit
is as before, in whatever order they are copied and however they overlap. -/
theorem exists_putFields
    {record start : Descriptor}
    {writes : List (Field × Nat)}
    (orderly : record.table.Orderly)
    (table : start.table = record.table)
    (held : ∀ write ∈ writes, write.1 ∈ record.table.fields ∧
      write.2 = write.1.unsigned record.bits) :
    ∃ copy, start.putFields writes = .ok copy ∧ copy.table = record.table ∧
      ∀ index,
        ((∃ write ∈ writes, write.1.Covers index) →
          copy.bits.getLsbD index = record.bits.getLsbD index) ∧
        ((∀ write ∈ writes, ¬ write.1.Covers index) →
          copy.bits.getLsbD index = start.bits.getLsbD index) := by
  induction writes generalizing start with
  | nil => exact ⟨start, rfl, table, fun index => ⟨by simp, fun _ => rfl⟩⟩
  | cons write rest inductionHypothesis =>
      obtain ⟨field, value⟩ := write
      obtain ⟨⟨present, valueEq⟩, later⟩ := List.forall_mem_cons.mp held
      dsimp only at present valueEq
      subst valueEq
      have step := putText_unsigned orderly table present
      obtain ⟨copy, run, kept, bits⟩ := @inductionHypothesis
        { start with bits := field.replace start.bits (field.slice record.bits) } table later
      refine ⟨copy, ?_, kept, ?_⟩
      · rw [putFields, step]
        exact run
      · intro index
        have here := field.getLsbD_replace_slice start.bits record.bits index
        obtain ⟨covered, untouched⟩ := bits index
        by_cases again : ∃ write ∈ rest, write.1.Covers index
        · refine ⟨fun _ => covered again, fun none => ?_⟩
          obtain ⟨other, otherPresent, covers⟩ := again
          exact absurd covers (none other (List.mem_cons_of_mem _ otherPresent))
        · have rest_none : ∀ write ∈ rest, ¬ write.1.Covers index :=
            fun write present covers => again ⟨write, present, covers⟩
          rw [untouched rest_none, here]
          constructor
          · rintro ⟨other, otherPresent, covers⟩
            rcases List.mem_cons.mp otherPresent with rfl | otherPresent
            · exact if_pos covers
            · exact absurd covers (rest_none other otherPresent)
          · intro none
            exact if_neg (none _ List.mem_cons_self)

/-- The registers that a record yields, written in any order into a zero record of its table, give
all bits of the record that belong to a register, and zero elsewhere. -/
theorem restored_by_fields
    {record : Descriptor}
    {writes : List (Field × Nat)}
    (accepted : record.table.Accepted)
    (order : writes.Perm record.fields) :
    ∃ copy, (ofTable record.table).putFields writes = .ok copy ∧ copy.table = record.table ∧
      ∀ index,
        ((∃ field ∈ record.table.fields, field.Covers index) →
          copy.toBytes.bit index = record.toBytes.bit index) ∧
        ((∀ field ∈ record.table.fields, ¬ field.Covers index) →
          copy.toBytes.bit index = false) := by
  have yielded : ∀ write ∈ writes, write.1 ∈ record.table.fields ∧
      write.2 = write.1.unsigned record.bits ∧ write.2 ≠ 0 :=
    fun write present => mem_fields.mp (order.mem_iff.mp present)
  have started : (ofTable record.table).table = record.table := rfl
  obtain ⟨copy, run, table, bits⟩ := exists_putFields accepted.orderly started
    fun write present => ⟨(yielded write present).1, (yielded write present).2.1⟩
  refine ⟨copy, run, table, ?_⟩
  intro index
  have bitOf (descriptor : Descriptor) :
      descriptor.toBytes.bit index = descriptor.bits.getLsbD index := by
    rw [Bytes.bit_eq_testBit, toBytes, testBit_toNat_bytesOfBits]
  have zero : (ofTable record.table).bits.getLsbD index = false := BitVec.getLsbD_zero
  rw [bitOf, bitOf]
  obtain ⟨covered, untouched⟩ := bits index
  constructor
  · rintro ⟨field, present, covers⟩
    by_cases written : ∃ write ∈ writes, write.1.Covers index
    · exact covered written
    · -- The register holds zero, or else it would have been written.
      have skipped : field.slice record.bits = BitVec.zero field.width := by
        by_contra positive
        have yields : field.unsigned record.bits ≠ 0 :=
          fun zero => positive (BitVec.eq_of_toNat_eq (by rw [← Field.unsigned, zero]; rfl))
        exact written ⟨_, order.mem_iff.mpr (mem_fields.mpr ⟨present, rfl, yields⟩), covers⟩
      rw [untouched fun write present covers => written ⟨write, present, covers⟩, zero,
        ← covers.getLsbD_slice, skipped]
      exact BitVec.getLsbD_zero.symm
  · intro none
    rw [untouched fun write present => none _ (yielded write present).1, zero]

/-- A record all of whose bits are set, by a table whose registers overlap. -/
def saturated : Descriptor :=
  ⟨straddling, BitVec.allOnes _, none⟩

/-- Its registers are restored in the reverse order, also where two of them overlap. -/
theorem saturated_restored :
    straddling.Accepted ∧
      ∃ copy, (ofTable straddling).putFields saturated.fields.reverse = .ok copy ∧
        copy.toBytes.bit (8 * 0x130 + 4) = true ∧
        copy.toBytes.bit (8 * 0x130 + 5) = true ∧
        copy.toBytes.bit (8 * 0x138 + 16) = false := by
  have accepted : straddling.Accepted := Or.inl ⟨straddling.fields, by cbv⟩
  have order : saturated.fields.reverse.Perm saturated.fields := List.reverse_perm _
  obtain ⟨copy, run, -, bits⟩ := restored_by_fields accepted order
  refine ⟨accepted, copy, run, ?_, ?_, ?_⟩
  · rw [(bits _).1 ⟨⟨⟨.common, "Wide.Low"⟩, 0x130, 0, 32, false, true⟩, by decide, by decide, by decide⟩]
    decide +kernel
  · rw [(bits _).1 ⟨⟨⟨.common, "Wide"⟩, 0x130, 5, 64, false, false⟩, by decide, by decide, by decide⟩]
    decide +kernel
  · exact (bits _).2 (by unfold Field.Covers; decide)

end Descriptor
end TileProgram
