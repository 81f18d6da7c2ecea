import Mathlib.Data.List.Chain
import Mathlib.Data.List.Pairwise
import TileProgram.Register.Codec
import TileProgram.Register.Standard

/-!
# Registers and their bits

Writing a register changes its own bits only, and no two registers share one.
-/

/-!
## Bits of a register

What reading and writing do to single bits of a record: writing replaces the
bits of the register and no other bit, reading takes them.  So a register reads
what was written to it and is not changed by writing to a disjoint one.
-/

namespace TileProgram
namespace Register

variable {size : Nat}

namespace Field

/-- Two registers have no bit in common. -/
def Disjoint (first second : Field) : Prop :=
  first.bitEnd ≤ second.bitStart ∨ second.bitEnd ≤ first.bitStart

theorem Disjoint.symm
    {first second : Field}
    (disjoint : first.Disjoint second) :
    second.Disjoint first :=
  Or.symm disjoint

/-- A bit of a record belongs to a register. -/
def Covers (field : Field) (index : Nat) : Prop :=
  field.bitStart ≤ index ∧ index < field.bitEnd

/-- No bit belongs to two disjoint registers. -/
theorem Disjoint.not_covers
    {first second : Field}
    {index : Nat}
    (disjoint : first.Disjoint second)
    (covers : first.Covers index) :
    ¬second.Covers index := by
  unfold Disjoint at disjoint
  unfold Covers at covers ⊢
  omega

/-- Registers with bits are disjoint when no bit belongs to both. -/
theorem disjoint_iff
    {first second : Field}
    (firstPositive : 0 < first.width)
    (secondPositive : 0 < second.width) :
    first.Disjoint second ↔ ∀ index, ¬(first.Covers index ∧ second.Covers index) := by
  constructor
  · rintro disjoint index ⟨covers, both⟩
    exact disjoint.not_covers covers both
  · intro apart
    unfold Disjoint
    unfold Covers bitEnd at apart
    unfold bitEnd
    have last := apart (max first.bitStart second.bitStart)
    omega

theorem getLsbD_slice (field : Field) (bits : BitVec size) (index : Nat) :
    (field.slice bits).getLsbD index =
      (decide (index < field.width) && bits.getLsbD (field.bitStart + index)) := by
  rw [slice, BitVec.getLsbD_extractLsb']

/-- A bit of a register is one of the bits that reading it takes. -/
theorem Covers.getLsbD_slice
    {field : Field}
    {index : Nat}
    (covers : field.Covers index)
    (bits : BitVec size) :
    (field.slice bits).getLsbD (index - field.bitStart) = bits.getLsbD index := by
  obtain ⟨above, below⟩ := covers
  have narrow : index - field.bitStart < field.width := by
    unfold bitEnd at below
    omega
  rw [Field.getLsbD_slice, Nat.add_sub_cancel' above, decide_eq_true narrow, Bool.true_and]

/-- Records that agree on the bits of a register hold the same in it. -/
theorem slice_congr
    {field : Field}
    {bits other : BitVec size}
    (agree : ∀ index, field.Covers index → bits.getLsbD index = other.getLsbD index) :
    field.slice bits = field.slice other := by
  apply BitVec.eq_of_getLsbD_eq
  intro index bound
  rw [getLsbD_slice, getLsbD_slice, agree]
  exact ⟨Nat.le_add_right _ _, Nat.add_lt_add_left bound _⟩

/-- A bit after writing: a bit of the value inside the register, the old bit outside. -/
theorem getLsbD_replace
    (field : Field)
    (bits : BitVec size)
    (value : BitVec field.width)
    (index : Nat) :
    (field.replace bits value).getLsbD index =
      if field.bitStart ≤ index ∧ index < field.bitEnd then
        decide (index < size) && value.getLsbD (index - field.bitStart)
      else bits.getLsbD index := by
  unfold replace bitEnd
  simp only [BitVec.getLsbD_or, BitVec.getLsbD_and, BitVec.getLsbD_not, BitVec.getLsbD_shiftLeft,
    BitVec.getLsbD_setWidth, BitVec.getLsbD_allOnes]
  by_cases inside : index < size
  · by_cases before : index < field.bitStart
    · rw [if_neg (by omega)]
      simp [inside, before]
    · by_cases past : index < field.bitStart + field.width
      · rw [if_pos (by omega)]
        have low : index - field.bitStart < size := by omega
        have narrow : index - field.bitStart < field.width := by omega
        simp [inside, before, low, narrow]
      · rw [if_neg (by omega)]
        have wide : ¬ index - field.bitStart < field.width := by omega
        have clear : value.getLsbD (index - field.bitStart) = false :=
          BitVec.getLsbD_of_ge _ _ (by omega)
        simp [inside, before, wide, clear]
  · have old : bits.getLsbD index = false := BitVec.getLsbD_of_ge _ _ (by omega)
    simp [inside, old]

/-- A register reads what was written to it. -/
theorem slice_replace
    {field : Field}
    (inside : field.bitEnd ≤ size)
    (bits : BitVec size)
    (value : BitVec field.width) :
    field.slice (field.replace bits value) = value := by
  apply BitVec.eq_of_getLsbD_eq
  intro index bound
  have last : field.bitStart + index < field.bitEnd := by
    unfold bitEnd
    omega
  have present : field.bitStart + index < size := by omega
  rw [getLsbD_slice, getLsbD_replace, if_pos (by omega)]
  simp [bound, present]

/-- Writing to a register does not change a disjoint one. -/
theorem slice_replace_of_disjoint
    {read written : Field}
    (disjoint : read.Disjoint written)
    (bits : BitVec size)
    (value : BitVec written.width) :
    read.slice (written.replace bits value) = read.slice bits := by
  apply slice_congr
  intro index covers
  rw [getLsbD_replace]
  exact if_neg (disjoint.not_covers covers)

/-- A bit after writing what another record holds in the register. -/
theorem getLsbD_replace_slice (field : Field) (bits other : BitVec size) (index : Nat) :
    (field.replace bits (field.slice other)).getLsbD index =
      if field.bitStart ≤ index ∧ index < field.bitEnd then other.getLsbD index
      else bits.getLsbD index := by
  rw [getLsbD_replace]
  split
  · next covers =>
      rw [Covers.getLsbD_slice covers]
      by_cases present : index < size
      · simp [present]
      · simp [present, BitVec.getLsbD_of_ge other index (by omega)]
  · rfl

/-- Writing to a register what it holds changes nothing. -/
theorem replace_slice (field : Field) (bits : BitVec size) :
    field.replace bits (field.slice bits) = bits := by
  apply BitVec.eq_of_getLsbD_eq
  intro index _
  rw [getLsbD_replace_slice, ite_self]

/-- The value of a register fits its width. -/
theorem unsigned_lt (field : Field) (bits : BitVec size) :
    field.unsigned bits < Nat.pow 2 field.width :=
  (field.slice bits).isLt

/-- A register of a zero record holds zero. -/
@[simp] theorem unsigned_zero (field : Field) : field.unsigned (0 : BitVec size) = 0 := by
  simp [unsigned, slice]

/-- A value that is written fits and is read back. -/
theorem unsigned_of_pack
    {field : Field}
    {bits changed : BitVec size}
    {value : Nat}
    (inside : field.bitEnd ≤ size)
    (packed : field.pack bits value = .ok changed) :
    field.unsigned changed = value := by
  unfold pack at packed
  split at packed
  · next fits =>
      rw [← Except.ok.inj packed, unsigned, slice_replace inside, BitVec.toNat_ofNat]
      exact Nat.mod_eq_of_lt fits
  · cases packed

/-- Writing the value that another record holds in a register succeeds. -/
theorem pack_unsigned_of (field : Field) (bits other : BitVec size) :
    field.pack bits (field.unsigned other) = .ok (field.replace bits (field.slice other)) := by
  have fits : field.unsigned other < Nat.pow 2 field.width := field.unsigned_lt other
  rw [pack, if_pos fits, unsigned, BitVec.ofNat_toNat, BitVec.setWidth_eq]

/-- Writing the value that a register holds succeeds and changes nothing. -/
theorem pack_unsigned (field : Field) (bits : BitVec size) :
    field.pack bits (field.unsigned bits) = .ok bits := by
  rw [pack_unsigned_of, replace_slice]

end Field

/-- The bits of a record are read back from its bytes. -/
@[simp] theorem bitsOfBytes_bytesOfBits (bits : BitVec (8 * size)) :
    bitsOfBytes size (bytesOfBits bits) = bits := by
  have fits : bits.toNat < Bytes.capacity size := by
    have bound := bits.isLt
    rwa [Nat.pow_mul] at bound
  rw [bitsOfBytes, bytesOfBits, Bytes.toNat_ofNat_of_lt fits, BitVec.ofNat_toNat,
    BitVec.setWidth_eq]

/-- The bytes of a record are read back from its bits. -/
theorem bytesOfBits_bitsOfBytes
    {bytes : Bytes}
    (lengthEq : bytes.length = size) :
    bytesOfBits (bitsOfBytes size bytes) = bytes := by
  have fits : Bytes.toNat bytes < 2 ^ (8 * size) := by
    have bound := Bytes.toNat_lt bytes
    rw [lengthEq] at bound
    rwa [Nat.pow_mul]
  rw [bytesOfBits, bitsOfBytes, BitVec.toNat_ofNat, Nat.mod_eq_of_lt fits, ← lengthEq,
    Bytes.ofNat_toNat]

end Register
end TileProgram

/-!
## Separate registers

The registers of a table are separate when each lies in the record and no two
have a bit in common.  The built-in table is separate: its registers stand in
the order of their bits.
-/

namespace TileProgram
namespace Register
namespace Table

/-- Every register lies in the record and shares no bit with another one. -/
structure Separate (table : Table) : Prop where
  inside : ∀ field ∈ table.fields, field.bitEnd ≤ 8 * recordSize
  disjoint : ∀ first ∈ table.fields, ∀ second ∈ table.fields,
    first ≠ second → first.Disjoint second

/-- A register that is found is one of the table and has the name asked for. -/
theorem mem_of_lookup
    {table : Table}
    {name : Name}
    {field : Field}
    (found : table.lookup name = .ok field) :
    field ∈ table.fields ∧ field.name = name := by
  unfold lookup find? at found
  split at found
  · next present =>
      cases found
      exact ⟨List.mem_of_find?_eq_some present, by simpa using List.find?_some present⟩
  · cases found

/-- A name that a register of the table has is found. -/
theorem exists_lookup
    {table : Table}
    {field : Field}
    (present : field ∈ table.fields) :
    ∃ found, table.lookup field.name = .ok found := by
  unfold lookup find?
  cases found : table.fields.find? fun other => other.name == field.name with
  | none => exact absurd (List.find?_eq_none.mp found field present) (by simp)
  | some other => exact ⟨other, rfl⟩

/-- Registers of different names are disjoint. -/
theorem Separate.disjoint_of_lookup
    {table : Table}
    {first second : Name}
    {firstField secondField : Field}
    (separate : table.Separate)
    (firstFound : table.lookup first = .ok firstField)
    (secondFound : table.lookup second = .ok secondField)
    (different : first ≠ second) :
    firstField.Disjoint secondField := by
  obtain ⟨firstPresent, rfl⟩ := mem_of_lookup firstFound
  obtain ⟨secondPresent, rfl⟩ := mem_of_lookup secondFound
  refine separate.disjoint _ firstPresent _ secondPresent ?_
  rintro rfl
  exact different rfl

/-- Registers that follow each other are disjoint. -/
theorem disjoint_of_isChain
    {fields : List Field}
    (chain : fields.IsChain fun first second => first.bitEnd ≤ second.bitStart) :
    ∀ first ∈ fields, ∀ second ∈ fields, first ≠ second → first.Disjoint second := by
  intro first firstPresent second secondPresent different
  have transitive : Trans (fun first second : Field => first.bitEnd ≤ second.bitStart)
      (fun first second : Field => first.bitEnd ≤ second.bitStart)
      (fun first second : Field => first.bitEnd ≤ second.bitStart) :=
    ⟨fun {first second third} before after => by
      unfold Field.bitEnd at before after ⊢
      omega⟩
  have pairwise := (List.isChain_iff_pairwise.mp chain).imp
    fun {first second} before => (Or.inl before : first.Disjoint second)
  have symmetric : Std.Symm Field.Disjoint := ⟨fun _ _ => Field.Disjoint.symm⟩
  exact pairwise.forall firstPresent secondPresent different

/-- The registers of the built-in table have bits inside a record, and follow each other. -/
private theorem standard_ordered :
    (∀ field ∈ Table.standard.fields, 0 < field.width ∧ field.bitEnd ≤ 8 * recordSize) ∧
      Table.standard.fields.IsChain fun first second => first.bitEnd ≤ second.bitStart := by
  decide +kernel

/-- Every register of the built-in table has bits. -/
theorem standard_positive : ∀ field ∈ Table.standard.fields, 0 < field.width :=
  fun field present => (standard_ordered.1 field present).1

/-- The built-in table is separate. -/
theorem standard_separate : Table.standard.Separate where
  inside := fun field present => (standard_ordered.1 field present).2
  disjoint := disjoint_of_isChain standard_ordered.2

end Table
end Register
end TileProgram
