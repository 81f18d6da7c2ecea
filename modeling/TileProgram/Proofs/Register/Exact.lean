import Mathlib.Algebra.Group.Int.Defs
import TileProgram.Proofs.Register.Window

/-!
# Accesses to byte buffers, bit by bit

A buffer is taken as the bits of its bytes, the lowest bit of a byte first.
Packing a value into a register puts the bits of the value at the bits of the
register and keeps every other bit, or, when the value is too large, refuses it
and keeps all of them.  Unpacking gives the number that has the bits of the
register.  This holds up to the widest register in the last bit of a byte, and
for values with a sign as for those without.
-/

/-!
## The bits of a buffer
-/

namespace TileProgram
namespace Bytes

/-- Bit `index` of a byte string, which is bit `index % 8` of byte `index / 8`.  There are no bits past the end. -/
def bit (bytes : Bytes) (index : Nat) : Bool :=
  bytes[index / 8]?.any fun byte => byte.toNat.testBit (index % 8)

theorem bit_eq_testBit (bytes : Bytes) (index : Nat) :
    bytes.bit index = (toNat bytes).testBit index := by
  unfold bit
  by_cases inside : index / 8 < bytes.length
  · rw [List.getElem?_eq_getElem inside, Option.any_some,
      testBit_toNat_getElem inside (Nat.mod_lt index (by decide)), Nat.div_add_mod]
  · rw [List.getElem?_eq_none (by omega), Option.any_none, testBit_toNat_of_ge (by omega)]

/-- Buffers of one length are equal when their bits are. -/
theorem eq_of_bit
    {first second : Bytes}
    (lengths : first.length = second.length)
    (bits : ∀ index, first.bit index = second.bit index) :
    first = second := by
  refine eq_of_testBit lengths ?_
  intro index
  rw [← bit_eq_testBit, ← bit_eq_testBit, bits]

end Bytes
end TileProgram

/-!
## What packing leaves and unpacking gives

Packing is described by the length, the bits and the outcome that it leaves.
The outcome depends on the value alone, so neither the order of two writes nor
what the buffer holds can make a write fail.
-/

namespace TileProgram
namespace Register

theorem Written.eq_of_parts
    {first second : Written}
    (buffers : first.buffer = second.buffer)
    (outcomes : first.outcome = second.outcome) :
    first = second := by
  cases first
  cases second
  cases buffers
  cases outcomes
  rfl

namespace Field
namespace Shaped

variable {field : Field} {buffer : Bytes} (shaped : field.Shaped buffer.length)

include shaped

/-- Packing into a buffer is packing into its bits. -/
theorem packBytes_eq (value : Nat) :
    field.packBytes buffer value =
      if value < 2 ^ field.width then
        ⟨bytesOfBits (field.replace (bitsOfBytes buffer.length buffer)
          (BitVec.ofNat field.width value)), .ok ()⟩
      else ⟨buffer, .error (.refused (.fieldOverflow field.name value field.width))⟩ := by
  have throughBits :=
    shaped.packBytes_bytesOfBits (bitsOfBytes buffer.length buffer) value
  rw [bytesOfBits_bitsOfBytes rfl] at throughBits
  rw [throughBits, pack]
  split
  · next packed =>
      split at packed
      · next fits =>
          cases packed
          exact (if_pos fits).symm
      · cases packed
  · next packed =>
      split at packed
      · cases packed
      · next large =>
          cases packed
          exact (if_neg large).symm

/-- Unpacking a buffer is taking the bits of the register. -/
theorem unpackBytes_eq :
    field.unpackBytes buffer = .ok (field.unsigned (bitsOfBytes buffer.length buffer)) := by
  have throughBits := shaped.read_bytesOfBits (bitsOfBytes buffer.length buffer)
  rw [bytesOfBits_bitsOfBytes rfl] at throughBits
  rw [unpackBytes, throughBits, Except.map, BitVec.toNat_setWidth, shaped.valueWidth_eq,
    Nat.mod_eq_of_lt (field.slice _).isLt]
  rfl

theorem outcome_packBytes (value : Nat) :
    (field.packBytes buffer value).outcome =
      if value < 2 ^ field.width then .ok ()
      else .error (.refused (.fieldOverflow field.name value field.width)) := by
  rw [shaped.packBytes_eq]
  split <;> rfl

theorem length_packBytes (value : Nat) :
    (field.packBytes buffer value).buffer.length = buffer.length := by
  rw [shaped.packBytes_eq]
  split
  · exact length_bytesOfBits _
  · rfl

/-- A bit after packing: a bit of a value that fits inside the register, the old bit elsewhere. -/
theorem bit_packBytes (value index : Nat) :
    (field.packBytes buffer value).buffer.bit index =
      if value < 2 ^ field.width ∧ field.bitStart ≤ index ∧ index < field.bitEnd then
        value.testBit (index - field.bitStart)
      else buffer.bit index := by
  rw [shaped.packBytes_eq]
  by_cases fits : value < 2 ^ field.width
  · have inside := shaped.inside
    rw [if_pos fits, Bytes.bit_eq_testBit, testBit_toNat_bytesOfBits, getLsbD_replace]
    by_cases own : field.bitStart ≤ index ∧ index < field.bitEnd
    · have narrow : index - field.bitStart < field.width := by
        have reach := own.2
        unfold bitEnd at reach
        omega
      have present : index < 8 * buffer.length := by omega
      rw [if_pos own, if_pos ⟨fits, own⟩, BitVec.getLsbD_ofNat]
      simp [present, narrow]
    · rw [if_neg own, if_neg (fun both => own both.2), bitsOfBytes, BitVec.getLsbD_ofNat,
        Bytes.bit_eq_testBit]
      by_cases present : index < 8 * buffer.length
      · simp [present]
      · rw [Bytes.testBit_toNat_of_ge (by omega), Bool.and_false]
  · rw [if_neg fits, if_neg (fun both => fits both.1)]

/-- Unpacking gives a number below two to the width that has the bits of the register. -/
theorem exists_unpackBytes :
    ∃ value, field.unpackBytes buffer = .ok value ∧ value < 2 ^ field.width ∧
      ∀ index, value.testBit index =
        (decide (index < field.width) && buffer.bit (field.bitStart + index)) := by
  refine ⟨_, shaped.unpackBytes_eq, field.unsigned_lt _, ?_⟩
  intro index
  rw [unsigned, BitVec.testBit_toNat, getLsbD_slice, bitsOfBytes, BitVec.getLsbD_ofNat,
    Bytes.bit_eq_testBit]
  by_cases narrow : index < field.width
  · have present : field.bitStart + index < 8 * buffer.length := by
      have inside := shaped.inside
      unfold bitEnd at inside
      omega
    simp [narrow, present]
  · simp [narrow]

end Shaped

/-!
## Packing and unpacking together
-/

/-- Registers keep their shape in a buffer of the same length. -/
theorem Shaped.packed
    {field other : Field}
    {buffer : Bytes}
    (otherShaped : other.Shaped buffer.length)
    (shaped : field.Shaped buffer.length)
    (value : Nat) :
    other.Shaped (field.packBytes buffer value).buffer.length := by
  rwa [shaped.length_packBytes]

/-- Unpacking what was packed returns the value. -/
theorem Shaped.unpack_pack
    {field : Field}
    {buffer : Bytes}
    {value : Nat}
    (shaped : field.Shaped buffer.length)
    (fits : value < 2 ^ field.width) :
    field.unpackBytes (field.packBytes buffer value).buffer = .ok value := by
  obtain ⟨held, unpacked, below, bits⟩ := (shaped.packed shaped value).exists_unpackBytes
  rw [unpacked]
  congr 1
  apply Nat.eq_of_testBit_eq
  intro index
  rw [bits, shaped.bit_packBytes]
  by_cases narrow : index < field.width
  · have last : field.bitStart + index < field.bitEnd := by
      unfold bitEnd
      omega
    rw [if_pos ⟨fits, by omega, last⟩, Nat.add_sub_cancel_left]
    simp [narrow]
  · have clear : value.testBit index = false :=
      Nat.testBit_lt_two_pow
        (Nat.lt_of_lt_of_le fits (Nat.pow_le_pow_right (by decide) (by omega)))
    simp [narrow, clear]

/-- Packing what unpacking gives changes nothing. -/
theorem Shaped.pack_unpack
    {field : Field}
    {buffer : Bytes}
    {held : Nat}
    (shaped : field.Shaped buffer.length)
    (unpacked : field.unpackBytes buffer = .ok held) :
    field.packBytes buffer held = ⟨buffer, .ok ()⟩ := by
  obtain ⟨value, gives, below, bits⟩ := shaped.exists_unpackBytes
  rw [unpacked] at gives
  cases gives
  refine Written.eq_of_parts (Bytes.eq_of_bit (shaped.length_packBytes held) ?_) ?_
  · intro index
    rw [shaped.bit_packBytes]
    split
    · next own =>
        have narrow : index - field.bitStart < field.width := by
          have reach := own.2.2
          unfold bitEnd at reach
          omega
        rw [bits, Nat.add_sub_cancel' own.2.1]
        simp [narrow]
    · rfl
  · rw [shaped.outcome_packBytes, if_pos below]

/-- The outcome of packing is the same after another register has been packed. -/
theorem Shaped.outcome_pack_pack
    {first second : Field}
    {buffer : Bytes}
    (firstShaped : first.Shaped buffer.length)
    (secondShaped : second.Shaped buffer.length)
    (firstValue secondValue : Nat) :
    (second.packBytes (first.packBytes buffer firstValue).buffer secondValue).outcome =
      (second.packBytes buffer secondValue).outcome := by
  rw [(secondShaped.packed firstShaped firstValue).outcome_packBytes,
    secondShaped.outcome_packBytes]

/-- Disjoint registers leave the same bytes in either order. -/
theorem Shaped.pack_pack_comm
    {first second : Field}
    {buffer : Bytes}
    (firstShaped : first.Shaped buffer.length)
    (secondShaped : second.Shaped buffer.length)
    (disjoint : first.Disjoint second)
    (firstValue secondValue : Nat) :
    (second.packBytes (first.packBytes buffer firstValue).buffer secondValue).buffer =
      (first.packBytes (second.packBytes buffer secondValue).buffer firstValue).buffer := by
  have secondAfter := secondShaped.packed firstShaped firstValue
  have firstAfter := firstShaped.packed secondShaped secondValue
  apply Bytes.eq_of_bit
  · rw [secondAfter.length_packBytes, firstShaped.length_packBytes, firstAfter.length_packBytes,
      secondShaped.length_packBytes]
  · intro index
    rw [secondAfter.bit_packBytes, firstShaped.bit_packBytes, firstAfter.bit_packBytes,
      secondShaped.bit_packBytes]
    -- No bit belongs to both registers, so at most one of the two conditions holds.
    unfold Disjoint at disjoint
    by_cases inSecond : secondValue < 2 ^ second.width ∧ second.bitStart ≤ index ∧
        index < second.bitEnd
    · rw [if_pos inSecond, if_neg (by omega), if_pos inSecond]
    · rw [if_neg inSecond, if_neg inSecond]

/-- Packing refuses a value that does not fit and leaves the buffer; it puts the bits of any other
value at the bits of the register and keeps all others, and unpacking gives it back.  Unpacking
gives the number that has the bits of the register, and packing that number changes nothing.
Packs of disjoint registers commute, in what they leave and in whether they fail. -/
theorem access_exact
    {field : Field}
    {buffer : Bytes}
    (shaped : field.Shaped buffer.length)
    (value : Nat) :
    (field.packBytes buffer value =
        ⟨buffer, .error (.refused (.fieldOverflow field.name value field.width))⟩ ↔
      2 ^ field.width ≤ value) ∧
    (value < 2 ^ field.width → ∃ changed,
      field.packBytes buffer value = ⟨changed, .ok ()⟩ ∧
      changed.length = buffer.length ∧
      (∀ index, changed.bit index =
        if field.bitStart ≤ index ∧ index < field.bitEnd then
          value.testBit (index - field.bitStart)
        else buffer.bit index) ∧
      field.unpackBytes changed = .ok value) ∧
    (∃ held,
      field.unpackBytes buffer = .ok held ∧
      held < 2 ^ field.width ∧
      (∀ index, held.testBit index =
        (decide (index < field.width) && buffer.bit (field.bitStart + index))) ∧
      field.packBytes buffer held = ⟨buffer, .ok ()⟩) ∧
    ∀ (other : Field) (otherValue : Nat),
      other.Shaped buffer.length → field.Disjoint other → ∃ both,
        other.packBytes (field.packBytes buffer value).buffer otherValue =
          ⟨both, (other.packBytes buffer otherValue).outcome⟩ ∧
        field.packBytes (other.packBytes buffer otherValue).buffer value =
          ⟨both, (field.packBytes buffer value).outcome⟩ := by
  refine ⟨?_, ?_, ?_, ?_⟩
  · rw [shaped.packBytes_eq]
    split
    · next fits =>
        refine ⟨?_, fun large => absurd fits (by omega)⟩
        intro refused
        cases congrArg Written.outcome refused
    · next large => exact ⟨fun _ => Nat.le_of_not_lt large, fun _ => rfl⟩
  · intro fits
    have completed : (field.packBytes buffer value).outcome = .ok () := by
      rw [shaped.outcome_packBytes, if_pos fits]
    refine ⟨(field.packBytes buffer value).buffer, Written.eq_of_parts rfl completed,
      shaped.length_packBytes value, ?_, shaped.unpack_pack fits⟩
    intro index
    rw [shaped.bit_packBytes]
    simp only [fits, true_and]
  · obtain ⟨held, unpacked, below, bits⟩ := shaped.exists_unpackBytes
    exact ⟨held, unpacked, below, bits, shaped.pack_unpack unpacked⟩
  · intro other otherValue otherShaped disjoint
    refine ⟨_, Written.eq_of_parts rfl (shaped.outcome_pack_pack otherShaped value otherValue),
      Written.eq_of_parts ?_ (otherShaped.outcome_pack_pack shaped otherValue value)⟩
    exact otherShaped.pack_pack_comm shaped disjoint.symm otherValue value

/-- A register of 64 bits that starts in the last bit of a byte touches nine bytes. -/
def widest : Field where
  name := ⟨.header, "Widest"⟩
  byteOffset := 1
  bitOffset := 7
  width := 64
  isSigned := false
  isAlias := false

theorem widest_shaped : widest.Shaped (Bytes.zeros 10).length where
  positive := by decide
  narrow := by decide
  offset := by decide
  inside := by decide

/-- The largest value goes into the widest register between bits that are clear. -/
theorem widest_exact :
    (∃ changed,
      widest.packBytes (Bytes.zeros 10) (2 ^ 64 - 1) = ⟨changed, .ok ()⟩ ∧
      changed.bit 14 = false ∧ changed.bit 15 = true ∧
      changed.bit 78 = true ∧ changed.bit 79 = false ∧
      widest.unpackBytes changed = .ok (2 ^ 64 - 1)) := by
  have spec := access_exact widest_shaped (2 ^ 64 - 1)
  obtain ⟨changed, packed, -, bits, unpacked⟩ := spec.2.1 (by decide)
  refine ⟨changed, packed, ?_, ?_, ?_, ?_, unpacked⟩
  all_goals rw [bits]; decide

/-!
## Signed values

A signed value is packed as its lowest bits.  Unpacking takes the bits of the
register as a number of 64 bits and carries the last of them up, which is two's
complement, for a register of one bit as for one of all 64.
-/

section Signed

variable {field : Field} {buffer : Bytes}

/-- Carrying the sign up repeats the last bit of the register in all bits above it. -/
theorem extendSign_setWidth
    (positive : 0 < field.width)
    (narrow : field.width ≤ greatestWidth)
    (bits : BitVec field.width) :
    field.extendSign (bits.setWidth greatestWidth) = bits.signExtend greatestWidth := by
  unfold extendSign
  apply BitVec.eq_of_getLsbD_eq
  intro index bound
  split
  · next whole =>
      have below : index < field.width := by omega
      rw [BitVec.getLsbD_setWidth, BitVec.getLsbD_signExtend, if_pos below]
  · next partly =>
      -- The shift up takes the last bit of the register to the last bit of the 64.
      have top : (bits.setWidth greatestWidth <<< (greatestWidth - field.width)).msb = bits.msb := by
        have place : greatestWidth - 1 - (greatestWidth - field.width) = field.width - 1 := by omega
        have above : ¬ greatestWidth - 1 < greatestWidth - field.width := by omega
        have inside : field.width - 1 < greatestWidth := by omega
        have last : greatestWidth - 1 < greatestWidth := by decide
        rw [BitVec.msb_eq_getLsbD_last, BitVec.getLsbD_shiftLeft, BitVec.getLsbD_setWidth,
          BitVec.msb_eq_getLsbD_last, place]
        simp [above, inside, last]
      rw [BitVec.getLsbD_sshiftRight, BitVec.getLsbD_signExtend, top]
      by_cases low : index < field.width
      · have within : greatestWidth - field.width + index < greatestWidth := by omega
        rw [if_pos within, if_pos low, BitVec.getLsbD_shiftLeft, BitVec.getLsbD_setWidth,
          Nat.add_sub_cancel_left]
        simp [bound, within, Nat.not_lt_of_ge (Nat.le_add_right _ _)]
      · rw [if_neg (by omega), if_neg low]
        simp [bound]

namespace Shaped

variable (shaped : field.Shaped buffer.length)

include shaped

theorem signedLeast_eq : field.signedLeast = -2 ^ (field.width - 1) := by
  rw [signedLeast, shaped.valueWidth_eq]
  simp

theorem signedGreatest_eq : field.signedGreatest = 2 ^ (field.width - 1) - 1 := by
  rw [signedGreatest, shaped.valueWidth_eq]
  simp

/-- Unpacking a signed value is taking the bits of the register in two's complement. -/
theorem unpackSignedBytes_eq :
    field.unpackSignedBytes buffer =
      .ok (field.twosComplement (bitsOfBytes buffer.length buffer)) := by
  have throughBits := shaped.read_bytesOfBits (bitsOfBytes buffer.length buffer)
  rw [bytesOfBits_bitsOfBytes rfl] at throughBits
  have positive := shaped.positive
  rw [unpackSignedBytes, throughBits]
  show (if field.width = 0 then _ else _) = _
  rw [if_neg (by omega), shaped.valueWidth_eq, BitVec.setWidth_eq,
    extendSign_setWidth positive shaped.narrow, BitVec.toInt_signExtend_of_le shaped.narrow,
    twosComplement]

/-- Packing a signed value into a buffer is packing its lowest bits. -/
theorem packSignedBytes_eq (value : Int) :
    field.packSignedBytes buffer value =
      if -2 ^ (field.width - 1) ≤ value ∧ value ≤ 2 ^ (field.width - 1) - 1 then
        field.packBytes buffer (BitVec.ofInt field.width value).toNat
      else ⟨buffer, .error (.refused (.fieldOverflow field.name value field.width))⟩ := by
  have throughBits := shaped.packSignedBytes_bytesOfBits (bitsOfBytes buffer.length buffer) value
  rw [bytesOfBits_bitsOfBytes rfl, packSigned, shaped.signedLeast_eq, shaped.signedGreatest_eq]
    at throughBits
  rw [throughBits]
  by_cases fits : -2 ^ (field.width - 1) ≤ value ∧ value ≤ 2 ^ (field.width - 1) - 1
  · rw [if_pos fits, if_pos fits, shaped.packBytes_eq, if_pos (BitVec.isLt _), BitVec.ofNat_toNat,
      BitVec.setWidth_eq]
  · rw [if_neg fits, if_neg fits]

/-- The signed value of a register is the two's complement of its unsigned value. -/
theorem unpackSigned_of_unpack
    {held : Nat}
    (unpacked : field.unpackBytes buffer = .ok held) :
    field.unpackSignedBytes buffer = .ok (BitVec.ofNat field.width held).toInt := by
  rw [shaped.unpackBytes_eq] at unpacked
  cases unpacked
  rw [shaped.unpackSignedBytes_eq, unsigned, BitVec.ofNat_toNat, BitVec.setWidth_eq,
    twosComplement]

/-- Packing what unpacking gives as a signed value changes nothing. -/
theorem packSigned_unpackSigned
    {held : Int}
    (unpacked : field.unpackSignedBytes buffer = .ok held) :
    -2 ^ (field.width - 1) ≤ held ∧ held ≤ 2 ^ (field.width - 1) - 1 ∧
      field.packSignedBytes buffer held = ⟨buffer, .ok ()⟩ := by
  obtain ⟨raw, gives, below, -⟩ := shaped.exists_unpackBytes
  rw [shaped.unpackSigned_of_unpack gives] at unpacked
  cases unpacked
  have least := BitVec.le_toInt (BitVec.ofNat field.width raw)
  have greatest := Int.le_sub_one_of_lt (BitVec.toInt_lt (x := BitVec.ofNat field.width raw))
  refine ⟨least, greatest, ?_⟩
  rw [shaped.packSignedBytes_eq, if_pos ⟨least, greatest⟩, BitVec.ofInt_toInt, BitVec.toNat_ofNat,
    Nat.mod_eq_of_lt below, shaped.pack_unpack gives]

end Shaped

/-- Packing a signed value refuses what is not in the signed range and leaves the buffer.  Any other
value is given back by unpacking, as its remainder by two to the width if it is unpacked without
sign, and all bits outside the register stay.  Unpacking gives a value of the signed range, and
packing that value changes nothing. -/
theorem signed_access_exact
    (shaped : field.Shaped buffer.length)
    (value : Int) :
    (field.packSignedBytes buffer value =
        ⟨buffer, .error (.refused (.fieldOverflow field.name value field.width))⟩ ↔
      value < -2 ^ (field.width - 1) ∨ 2 ^ (field.width - 1) - 1 < value) ∧
    (-2 ^ (field.width - 1) ≤ value → value ≤ 2 ^ (field.width - 1) - 1 → ∃ changed raw,
      field.packSignedBytes buffer value = ⟨changed, .ok ()⟩ ∧
      changed.length = buffer.length ∧
      field.unpackSignedBytes changed = .ok value ∧
      field.unpackBytes changed = .ok raw ∧ (raw : Int) = value % 2 ^ field.width ∧
      ∀ index, ¬(field.bitStart ≤ index ∧ index < field.bitEnd) →
        changed.bit index = buffer.bit index) ∧
    ∃ held,
      field.unpackSignedBytes buffer = .ok held ∧
      -2 ^ (field.width - 1) ≤ held ∧ held ≤ 2 ^ (field.width - 1) - 1 ∧
      field.packSignedBytes buffer held = ⟨buffer, .ok ()⟩ := by
  have packed := shaped.packSignedBytes_eq value
  refine ⟨?_, ?_, ?_⟩
  · rw [packed]
    split
    · next fits =>
        refine ⟨?_, fun outside => absurd fits (by omega)⟩
        intro refused
        have completed := shaped.outcome_packBytes (BitVec.ofInt field.width value).toNat
        rw [if_pos (BitVec.isLt _), refused] at completed
        cases completed
    · next outside => exact ⟨fun _ => by omega, fun _ => rfl⟩
  · intro least greatest
    rw [if_pos ⟨least, greatest⟩] at packed
    have fits : (BitVec.ofInt field.width value).toNat < 2 ^ field.width := BitVec.isLt _
    have completed := shaped.outcome_packBytes (BitVec.ofInt field.width value).toNat
    rw [if_pos fits] at completed
    have unpacked := shaped.unpack_pack fits
    refine ⟨_, _, packed.trans (Written.eq_of_parts rfl completed), shaped.length_packBytes _,
      ?_, unpacked, ?_, ?_⟩
    · rw [(shaped.packed shaped _).unpackSigned_of_unpack unpacked, BitVec.ofNat_toNat,
        BitVec.setWidth_eq, BitVec.toInt_ofInt_eq_self shaped.positive least (by omega)]
    · have remainder : 0 ≤ value % ((2 ^ field.width : Nat) : Int) :=
        Int.emod_nonneg _ (Int.natCast_ne_zero.mpr (Nat.two_pow_pos _).ne')
      rw [BitVec.toNat_ofInt, Int.toNat_of_nonneg remainder, Int.natCast_pow]
      rfl
    · intro index outside
      rw [shaped.bit_packBytes, if_neg fun both => outside both.2]
  · exact ⟨_, shaped.unpackSignedBytes_eq, shaped.packSigned_unpackSigned shaped.unpackSignedBytes_eq⟩

end Signed

/-- A signed register of six bits that begin in one byte and end in the next. -/
def crossing : Field where
  name := ⟨.header, "Crossing"⟩
  byteOffset := 1
  bitOffset := 5
  width := 6
  isSigned := true
  isAlias := false

theorem crossing_shaped : crossing.Shaped (Bytes.zeros 4).length where
  positive := by decide
  narrow := by decide
  offset := by decide
  inside := by decide

/-- The least signed value fits and the one below it does not. -/
theorem crossing_signed_exact :
    crossing.packSignedBytes (Bytes.zeros 4) (-33) =
        ⟨Bytes.zeros 4, .error (.refused (.fieldOverflow crossing.name (-33) 6))⟩ ∧
      ∃ changed,
        crossing.packSignedBytes (Bytes.zeros 4) (-32) = ⟨changed, .ok ()⟩ ∧
        crossing.unpackSignedBytes changed = .ok (-32) ∧
        crossing.unpackBytes changed = .ok 32 ∧
        changed.bit 12 = false ∧ changed.bit 19 = false := by
  refine ⟨(signed_access_exact crossing_shaped (-33)).1.mpr (by decide), ?_⟩
  obtain ⟨changed, raw, packed, -, signed, unsigned, remainder, outside⟩ :=
    (signed_access_exact crossing_shaped (-32)).2.1 (by decide) (by decide)
  have rawEq : raw = 32 := by
    have reduced : (-32 : Int) % 2 ^ crossing.width = 32 := by decide
    omega
  rw [rawEq] at unsigned
  refine ⟨changed, packed, signed, unsigned, ?_, ?_⟩
  all_goals rw [outside _ (by decide)]; decide

end Field
end Register
end TileProgram
