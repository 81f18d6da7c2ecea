import Mathlib.Algebra.Group.Nat.Defs
import TileProgram.Proofs.Bytes.Slices
import TileProgram.Proofs.Register.Bits

/-!
# Registers of byte buffers

A register of a byte buffer is written through a window: the bytes it touches
are read as one number, its bits are replaced there, and the bytes are put
back.  Bytes that the register shares with others are rewritten as they were.
So an access to the bytes of a record is the access to its bits.
-/

/-!
## Bits of byte strings

Bit `8 * k + i` of the number that a byte string stands for is bit `i` of byte
`k`.  Cutting out a slice and overwriting one move whole bytes.
-/

namespace TileProgram
namespace Bytes

theorem toNat_lt_two_pow (bytes : Bytes) : toNat bytes < 2 ^ (8 * bytes.length) := by
  rw [Nat.pow_mul]
  exact toNat_lt bytes

theorem toNat_append (front back : Bytes) :
    toNat (front ++ back) = 2 ^ (8 * front.length) * toNat back + toNat front := by
  induction front with
  | nil => simp
  | cons byte rest inductionHypothesis =>
      have longer : 2 ^ (8 * (rest.length + 1)) = 256 * 2 ^ (8 * rest.length) := by
        rw [Nat.mul_add, Nat.pow_add, Nat.mul_comm]
      rw [List.cons_append, toNat_cons, toNat_cons, inductionHypothesis, List.length_cons, longer,
        Nat.mul_assoc]
      omega

/-- The bits of two strings one after the other. -/
theorem testBit_toNat_append (front back : Bytes) (index : Nat) :
    (toNat (front ++ back)).testBit index =
      if index < 8 * front.length then (toNat front).testBit index
      else (toNat back).testBit (index - 8 * front.length) := by
  rw [toNat_append, Nat.testBit_two_pow_mul_add _ (toNat_lt_two_pow front)]

/-- There are no bits past the end. -/
theorem testBit_toNat_of_ge
    {bytes : Bytes}
    {index : Nat}
    (past : 8 * bytes.length ≤ index) :
    (toNat bytes).testBit index = false :=
  Nat.testBit_lt_two_pow
    (Nat.lt_of_lt_of_le (toNat_lt_two_pow bytes) (Nat.pow_le_pow_right (by decide) past))

theorem testBit_toNat_take (bytes : Bytes) (count index : Nat) :
    (toNat (bytes.take count)).testBit index =
      (decide (index < 8 * count) && (toNat bytes).testBit index) := by
  by_cases whole : bytes.length ≤ count
  · rw [List.take_of_length_le whole]
    by_cases inside : index < 8 * count
    · simp [inside]
    · rw [testBit_toNat_of_ge (by omega), Bool.and_false]
  · have split := testBit_toNat_append (bytes.take count) (bytes.drop count) index
    rw [List.take_append_drop, List.length_take, Nat.min_eq_left (by omega)] at split
    by_cases inside : index < 8 * count
    · rw [split, if_pos inside]
      simp [inside]
    · rw [testBit_toNat_of_ge (by rw [List.length_take]; omega)]
      simp [inside]

theorem testBit_toNat_drop (bytes : Bytes) (count index : Nat) :
    (toNat (bytes.drop count)).testBit index = (toNat bytes).testBit (8 * count + index) := by
  by_cases whole : bytes.length ≤ count
  · rw [List.drop_of_length_le whole, testBit_toNat_of_ge (by simp), testBit_toNat_of_ge (by omega)]
  · have split := testBit_toNat_append (bytes.take count) (bytes.drop count) (8 * count + index)
    rw [List.take_append_drop, List.length_take, Nat.min_eq_left (by omega), if_neg (by omega)]
      at split
    rw [split, Nat.add_sub_cancel_left]

/-- The bits of a slice. -/
theorem testBit_toNat_slice (bytes : Bytes) (offset length index : Nat) :
    (toNat (bytes.slice offset length)).testBit index =
      (decide (index < 8 * length) && (toNat bytes).testBit (8 * offset + index)) := by
  rw [slice, testBit_toNat_take, testBit_toNat_drop]

/-- The bits after a slice has been overwritten. -/
theorem testBit_toNat_overwrite
    {bytes patch : Bytes}
    {offset : Nat}
    (inside : offset + patch.length ≤ bytes.length)
    (index : Nat) :
    (toNat (bytes.overwrite offset patch)).testBit index =
      if 8 * offset ≤ index ∧ index < 8 * (offset + patch.length) then
        (toNat patch).testBit (index - 8 * offset)
      else (toNat bytes).testBit index := by
  have front : (bytes.take offset).length = offset := by
    rw [List.length_take]
    omega
  rw [overwrite, List.append_assoc, testBit_toNat_append, front]
  by_cases before : index < 8 * offset
  · rw [if_pos before, if_neg (by omega), testBit_toNat_take]
    simp [before]
  · rw [if_neg before, testBit_toNat_append]
    by_cases within : index - 8 * offset < 8 * patch.length
    · rw [if_pos within, if_pos (by omega)]
    · rw [if_neg within, if_neg (by omega), testBit_toNat_drop]
      congr 1
      omega

theorem length_overwrite
    {bytes patch : Bytes}
    {offset : Nat}
    (inside : offset + patch.length ≤ bytes.length) :
    (bytes.overwrite offset patch).length = bytes.length := by
  rw [overwrite, List.length_append, List.length_append, List.length_take, List.length_drop]
  omega

/-- Strings of one length are equal when their bits are. -/
theorem eq_of_testBit
    {first second : Bytes}
    (lengths : first.length = second.length)
    (bits : ∀ index, (toNat first).testBit index = (toNat second).testBit index) :
    first = second := by
  rw [← ofNat_toNat first, ← ofNat_toNat second, lengths, Nat.eq_of_testBit_eq bits]

/-- The bits of a byte. -/
theorem testBit_toNat_getElem
    {bytes : Bytes}
    {offset : Nat}
    (inside : offset < bytes.length)
    {index : Nat}
    (small : index < 8) :
    (bytes[offset]).toNat.testBit index = (toNat bytes).testBit (8 * offset + index) := by
  have only := testBit_toNat_slice bytes offset 1 index
  rw [slice, List.drop_eq_getElem_cons inside, List.take_succ_cons, List.take_zero, toNat_cons,
    toNat_nil, Nat.mul_zero, Nat.add_zero] at only
  rw [only]
  simp [small]

end Bytes

/-!
## Accesses through a window

A register of at most 64 bits that starts in some bit of a byte touches at most
nine bytes, so its window holds them all.
-/

namespace Register

variable {size : Nat}

theorem testBit_toNat_bytesOfBits (bits : BitVec (8 * size)) (index : Nat) :
    (Bytes.toNat (bytesOfBits bits)).testBit index = bits.getLsbD index := by
  have fits : bits.toNat < Bytes.capacity size := by
    have bound := bits.isLt
    rwa [Nat.pow_mul] at bound
  rw [bytesOfBits, Bytes.toNat_ofNat_of_lt fits, BitVec.testBit_toNat]

theorem length_bytesOfBits (bits : BitVec (8 * size)) : (bytesOfBits bits).length = size :=
  Bytes.length_ofNat _ _

namespace Field

/-- A register with a width that values have, in some bit of a byte, inside a buffer of a given size. -/
structure Shaped (size : Nat) (field : Field) : Prop where
  positive : 0 < field.width
  narrow : field.width ≤ greatestWidth
  offset : field.bitOffset ≤ 7
  inside : field.bitEnd ≤ 8 * size

theorem bits_le (field : Field) : field.bitOffset + field.width ≤ 8 * field.spanBytes := by
  unfold spanBytes
  omega

namespace Shaped

variable {field : Field} (shaped : field.Shaped size)

include shaped

theorem valueWidth_eq : field.valueWidth = field.width :=
  Nat.min_eq_left shaped.narrow

theorem touched_le : field.byteOffset + field.spanBytes ≤ size := by
  have inside := shaped.inside
  unfold bitEnd bitStart at inside
  unfold spanBytes
  omega

theorem spanBytes_le : field.spanBytes ≤ 9 := by
  have narrow : field.width ≤ 64 := shaped.narrow
  have offset := shaped.offset
  unfold spanBytes
  omega

theorem requireShifts_eq (place : Arithmetic) : field.requireShifts place = .ok () := by
  have narrow : field.width ≤ 64 := shaped.narrow
  have offset := shaped.offset
  rw [requireShifts, if_neg (by unfold windowBits; omega), if_neg (by unfold windowBits; omega)]

/-- The window of a register holds the bits of the record from its first byte on. -/
theorem exists_window (bits : BitVec (8 * size)) :
    ∃ window, field.window (bytesOfBits bits) = .ok window ∧
      ∀ index, index < 8 * field.spanBytes →
        window.getLsbD index = bits.getLsbD (8 * field.byteOffset + index) := by
  have touched := shaped.touched_le
  refine ⟨_, by rw [window, if_pos (by rwa [length_bytesOfBits])], ?_⟩
  intro index below
  have span := shaped.spanBytes_le
  have small : index < windowBits := by
    unfold windowBits
    omega
  rw [BitVec.getLsbD_ofNat, Bytes.testBit_toNat_slice, testBit_toNat_bytesOfBits]
  simp [small, below]

/-- Reading the bits of a register through its window. -/
theorem read_bytesOfBits (bits : BitVec (8 * size)) :
    field.read (bytesOfBits bits) = .ok ((field.slice bits).setWidth field.valueWidth) := by
  obtain ⟨window, found, agrees⟩ := shaped.exists_window bits
  have equal : window.extractLsb' field.bitOffset field.valueWidth =
      (field.slice bits).setWidth field.valueWidth := by
    apply BitVec.eq_of_getLsbD_eq
    intro index bound
    have width := shaped.valueWidth_eq
    have reach := field.bits_le
    rw [BitVec.getLsbD_extractLsb', BitVec.getLsbD_setWidth, getLsbD_slice,
      agrees _ (by omega)]
    have narrow : index < field.width := by omega
    have place : 8 * field.byteOffset + (field.bitOffset + index) = field.bitStart + index := by
      unfold bitStart
      omega
    simp [bound, narrow, place]
  rw [read, found]
  show (field.requireShifts .shiftRight >>= fun _ => _) = _
  rw [shaped.requireShifts_eq]
  exact congrArg _ equal

/-- A bit of a window after writing: a bit of the value inside the register, the old bit outside. -/
theorem getLsbD_replaceInWindow
    (window : BitVec windowBits)
    (value : BitVec field.valueWidth)
    {index : Nat}
    (below : index < 8 * field.spanBytes) :
    (field.replaceInWindow window value).getLsbD index =
      if field.bitOffset ≤ index ∧ index < field.bitOffset + field.width then
        value.getLsbD (index - field.bitOffset)
      else window.getLsbD index := by
  have span := shaped.spanBytes_le
  have small : index < windowBits := by
    unfold windowBits
    omega
  unfold replaceInWindow
  simp only [BitVec.getLsbD_or, BitVec.getLsbD_and, BitVec.getLsbD_not, BitVec.getLsbD_shiftLeft,
    BitVec.getLsbD_setWidth, BitVec.getLsbD_allOnes]
  by_cases before : index < field.bitOffset
  · rw [if_neg (by omega)]
    simp [small, before]
  · have low : index - field.bitOffset < windowBits := by omega
    by_cases past : index < field.bitOffset + field.width
    · have narrow : index - field.bitOffset < field.width := by omega
      rw [if_pos (by omega)]
      simp [small, before, low, narrow]
    · have wide : ¬ index - field.bitOffset < field.width := by omega
      rw [if_neg (by omega)]
      simp [small, before, wide]

/-- Writing bits through a window replaces the bits of the register in the record. -/
theorem write_bytesOfBits (bits : BitVec (8 * size)) (value : BitVec field.valueWidth) :
    field.write (bytesOfBits bits) value =
      ⟨bytesOfBits (field.replace bits (value.setWidth field.width)), .ok ()⟩ := by
  obtain ⟨window, found, agrees⟩ := shaped.exists_window bits
  have span := shaped.spanBytes_le
  have whole : min field.spanBytes windowBytes = field.spanBytes :=
    Nat.min_eq_left (Nat.le_trans span (by decide))
  have ready : (do field.requireShifts .shiftLeft; field.window (bytesOfBits bits)) =
      .ok window := by
    rw [shaped.requireShifts_eq, found]
    rfl
  have short : ¬ windowBytes < field.spanBytes := by
    have room : 9 ≤ windowBytes := by decide
    omega
  have touched := shaped.touched_le
  rw [write, ready]
  simp only [whole, if_neg short]
  have inside : field.byteOffset +
      (Bytes.ofNat field.spanBytes (field.replaceInWindow window value).toNat).length ≤
        (bytesOfBits bits).length := by
    rwa [Bytes.length_ofNat, length_bytesOfBits]
  congr 1
  apply Bytes.eq_of_testBit
  · rw [Bytes.length_overwrite inside, length_bytesOfBits, length_bytesOfBits]
  · intro index
    rw [Bytes.testBit_toNat_overwrite inside, Bytes.length_ofNat, testBit_toNat_bytesOfBits,
      testBit_toNat_bytesOfBits, getLsbD_replace, Bytes.toNat_ofNat]
    have capacity : Bytes.capacity field.spanBytes = 2 ^ (8 * field.spanBytes) := by
      rw [Nat.pow_mul]
      rfl
    have reach := field.bits_le
    have width := shaped.valueWidth_eq
    by_cases near : 8 * field.byteOffset ≤ index ∧
        index < 8 * (field.byteOffset + field.spanBytes)
    · have below : index - 8 * field.byteOffset < 8 * field.spanBytes := by omega
      rw [if_pos near, capacity, Nat.testBit_mod_two_pow, BitVec.testBit_toNat,
        shaped.getLsbD_replaceInWindow window value below, agrees _ below,
        Nat.add_sub_cancel' near.1]
      by_cases own : field.bitStart ≤ index ∧ index < field.bitEnd
      · have place : index - 8 * field.byteOffset - field.bitOffset = index - field.bitStart := by
          unfold bitStart
          omega
        unfold bitEnd bitStart at own
        have narrow : index - field.bitStart < field.width := by
          unfold bitStart
          omega
        have present : index < 8 * size := by omega
        rw [if_pos (by omega), if_pos (by unfold bitEnd bitStart; omega), place]
        simp [below, present, narrow]
      · rw [if_neg own, if_neg (by unfold bitEnd bitStart at own; omega)]
        simp [below]
    · rw [if_neg near, if_neg]
      unfold bitEnd bitStart
      omega

/-- Writing an unsigned value through a window is writing it into the record. -/
theorem packBytes_bytesOfBits (bits : BitVec (8 * size)) (value : Nat) :
    field.packBytes (bytesOfBits bits) value =
      match field.pack bits value with
      | .ok changed => ⟨bytesOfBits changed, .ok ()⟩
      | .error error => ⟨bytesOfBits bits, .error (.refused error)⟩ := by
  have width := shaped.valueWidth_eq
  have bound : value ≤ field.greatest ↔ value < Nat.pow 2 field.width := by
    have positive : 0 < Nat.pow 2 field.width := Nat.pow_pos (by decide)
    rw [greatest, width]
    omega
  unfold packBytes pack
  by_cases fits : value < Nat.pow 2 field.width
  · rw [if_pos (bound.mpr fits), if_pos fits, shaped.write_bytesOfBits]
    have same : (BitVec.ofNat field.valueWidth value).setWidth field.width =
        BitVec.ofNat field.width value := by
      rw [width, BitVec.setWidth_eq]
    rw [same]
  · rw [if_neg (bound.not.mpr fits), if_neg fits]

/-- Writing a signed value through a window is writing it into the record. -/
theorem packSignedBytes_bytesOfBits (bits : BitVec (8 * size)) (value : Int) :
    field.packSignedBytes (bytesOfBits bits) value =
      match field.packSigned bits value with
      | .ok changed => ⟨bytesOfBits changed, .ok ()⟩
      | .error error => ⟨bytesOfBits bits, .error (.refused error)⟩ := by
  have positive := shaped.positive
  have range : field.signedRange = .ok (field.signedLeast, field.signedGreatest) := by
    rw [signedRange, if_neg (by omega)]
  unfold packSignedBytes packSigned
  rw [range]
  by_cases fits : field.signedLeast ≤ value ∧ value ≤ field.signedGreatest
  · have same : (BitVec.ofInt field.valueWidth value).setWidth field.width =
        BitVec.ofInt field.width value := by
      rw [shaped.valueWidth_eq, BitVec.setWidth_eq]
    simp only [if_pos fits, shaped.write_bytesOfBits, same]
  · simp only [if_neg fits]

end Shaped
end Field
end Register
end TileProgram
