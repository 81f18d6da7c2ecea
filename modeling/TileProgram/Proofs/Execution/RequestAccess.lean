import TileProgram.Proofs.Endings
import TileProgram.Proofs.Execution.RequestRecord

/-!
# Reading any request record

Whatever a record holds, reading it never leaves it: the surfaces that it may
name all lie inside.  It is refused for a wrong mark and for too many surfaces
only.  Some of its bits mean nothing, and the request that is read says what all
others are: writing it gives the record with the bits that mean nothing cleared.
-/

namespace TileProgram
namespace Execution

namespace SurfaceReference

@[simp] theorem length_readFrom (bytes : Bytes) (offset count : Nat) :
    (readFrom bytes offset count).length = count := by
  induction count generalizing offset with
  | zero => rfl
  | succ count inductionHypothesis => rw [readFrom, List.length_cons, inductionHypothesis]

/-- References that follow each other are read one after another. -/
theorem readFrom_add (bytes : Bytes) (offset first second : Nat) :
    readFrom bytes offset (first + second) =
      readFrom bytes offset first ++ readFrom bytes (offset + first * byteCount) second := by
  induction first generalizing offset with
  | zero => simp [readFrom]
  | succ first inductionHypothesis =>
      rw [Nat.succ_add, readFrom, inductionHypothesis, readFrom, List.cons_append, Nat.succ_mul,
        Nat.add_comm (first * byteCount), Nat.add_assoc]

end SurfaceReference

/-!
## Guarded accesses
-/

namespace Request

/-- The number of a given width at an offset. -/
def guardedNumber (bytes : Bytes) (offset width : Nat) : Guarded Error Nat := do
  let part ← Guarded.slice bytes offset (offset + width)
  return Bytes.toNat part

/-- Reads a number of references that begin at an offset. -/
def guardedReferences (bytes : Bytes) (offset : Nat) : Nat → Guarded Error (List SurfaceReference)
  | 0 => return []
  | count + 1 => do
      let id ← guardedNumber bytes offset 8
      let size ← guardedNumber bytes (offset + 8) 8
      let rest ← guardedReferences bytes (offset + SurfaceReference.byteCount) count
      return ⟨UInt64.ofNat id, UInt64.ofNat size⟩ :: rest

/-- Reads a request. -/
def guardedDecode (bytes : Bytes) : Guarded Error Request := do
  let mark ← guardedNumber bytes 0 4
  if mark ≠ magic then throw (.device .badMagic)
  let inputs ← guardedNumber bytes 0x14 2
  let outputs ← guardedNumber bytes 0x16 2
  if inputs + outputs > greatestSurfaces then
    throw (.device (.tooManySurfaces (inputs + outputs)))
  let requestId ← guardedNumber bytes 8 8
  let program ← guardedNumber bytes 0x10 4
  let flags ← guardedNumber bytes 4 4
  let first ← guardedReferences bytes surfacesOffset inputs
  let second ←
    guardedReferences bytes (surfacesOffset + inputs * SurfaceReference.byteCount) outputs
  return ⟨UInt64.ofNat requestId, UInt32.ofNat program, flags % 2 = 1, first, second⟩

variable {bytes : Bytes} {request : Request}

theorem guardedNumber_eq
    {offset width : Nat}
    (inside : offset + width ≤ bytes.length) :
    guardedNumber bytes offset width = .of (.ok (numberAt bytes offset width)) := by
  rw [guardedNumber, Guarded.slice_add_eq inside]
  rfl

theorem guardedReferences_eq
    {offset count : Nat}
    (inside : offset + count * SurfaceReference.byteCount ≤ bytes.length) :
    guardedReferences bytes offset count =
      .of (.ok (SurfaceReference.readFrom bytes offset count)) := by
  induction count generalizing offset with
  | zero => rfl
  | succ count inductionHypothesis =>
      have inside : offset + (count + 1) * 16 ≤ bytes.length := inside
      have rest : offset + SurfaceReference.byteCount + count * SurfaceReference.byteCount ≤
          bytes.length := by
        show offset + 16 + count * 16 ≤ bytes.length
        omega
      rw [guardedReferences, guardedNumber_eq (by omega), guardedNumber_eq (by omega),
        inductionHypothesis rest]
      rfl

/-- A record is read without an access out of range. -/
theorem guardedDecode_eq (whole : bytes.length = byteCount) :
    guardedDecode bytes = .of (decode bytes) := by
  have whole : bytes.length = 256 := whole
  have number : ∀ offset width, offset + width ≤ 32 →
      guardedNumber bytes offset width = .of (.ok (numberAt bytes offset width)) :=
    fun offset width inside => guardedNumber_eq (by omega)
  unfold guardedDecode decode
  rw [number 0 4 (by decide), Guarded.of_ok_bind]
  split
  · rfl
  · rw [number 0x14 2 (by decide), number 0x16 2 (by decide), number 8 8 (by decide),
      number 0x10 4 (by decide), number 4 4 (by decide)]
    simp only [Guarded.of_ok_bind]
    split
    · rfl
    · next few =>
      have few : numberAt bytes 0x14 2 + numberAt bytes 0x16 2 ≤ 14 := Nat.le_of_not_gt few
      rw [guardedReferences_eq (by
          show 32 + numberAt bytes 0x14 2 * 16 ≤ bytes.length
          omega),
        guardedReferences_eq (by
          show 32 + numberAt bytes 0x14 2 * 16 + numberAt bytes 0x16 2 * 16 ≤ bytes.length
          omega)]
      rfl

/-!
## Bits that mean something
-/

/-- The bits of the byte at a position that mean something in a record that names a number of
surfaces. -/
def meaning (surfaces position : Nat) : UInt8 :=
  if position < 4 ∨ 8 ≤ position ∧ position < 0x18 ∨
      surfacesOffset ≤ position ∧
        position < surfacesOffset + surfaces * SurfaceReference.byteCount then 0xFF
  else if position = 4 then 1
  else 0

/-- A record with the bits cleared that mean nothing. -/
def cleared (surfaces : Nat) (bytes : Bytes) : Bytes :=
  bytes.mapIdx fun position byte => byte &&& meaning surfaces position

variable {surfaces offset length : Nat}

@[simp] theorem length_cleared : (cleared surfaces bytes).length = bytes.length :=
  List.length_mapIdx

/-- A slice of a cleared record is cleared as far as it reaches. -/
theorem slice_cleared (surfaces : Nat) (bytes : Bytes) (offset length : Nat) :
    (cleared surfaces bytes).slice offset length =
      (bytes.slice offset length).mapIdx fun index byte =>
        byte &&& meaning surfaces (offset + index) := by
  apply List.ext_getElem?
  intro index
  unfold Bytes.slice cleared
  rw [List.getElem?_mapIdx, List.getElem?_take, List.getElem?_take]
  split
  · rw [List.getElem?_drop, List.getElem?_drop, List.getElem?_mapIdx]
  · rfl

/-- Clearing keeps the bytes that mean something. -/
theorem slice_cleared_of_full
    (full : ∀ index < length, meaning surfaces (offset + index) = 0xFF) :
    (cleared surfaces bytes).slice offset length = bytes.slice offset length := by
  rw [slice_cleared, List.mapIdx_eq_iff]
  intro index
  cases found : (bytes.slice offset length)[index]? with
  | none => rfl
  | some byte =>
      have inside : index < length := by
        obtain ⟨inside, -⟩ := List.getElem?_eq_some_iff.mp found
        exact Nat.lt_of_lt_of_le inside (List.length_take_le _ _)
      rw [Option.map_some, full index inside]
      exact congrArg some UInt8.and_neg_one.symm

/-- Clearing leaves nothing of the bytes that mean nothing. -/
theorem slice_cleared_of_void
    (inside : offset + length ≤ bytes.length)
    (void : ∀ index < length, meaning surfaces (offset + index) = 0) :
    (cleared surfaces bytes).slice offset length = Bytes.zeros length := by
  have whole := Bytes.length_slice inside
  rw [slice_cleared, List.mapIdx_eq_iff]
  intro index
  rw [Bytes.zeros, List.getElem?_replicate]
  split
  · next within =>
    rw [List.getElem?_eq_getElem (by omega), Option.map_some, void index within]
    exact congrArg some UInt8.and_zero.symm
  · next beyond =>
    rw [List.getElem?_eq_none (by omega)]
    rfl

/-- Of the flags the lowest one is kept. -/
theorem flags_cleared (inside : 8 ≤ bytes.length) :
    numberAt (cleared surfaces bytes) 4 4 = numberAt bytes 4 4 % 2 := by
  have whole : (bytes.slice 4 4).length = 4 := Bytes.length_slice inside
  have lowest : meaning surfaces 4 = 1 := rfl
  have others : ∀ position, 4 < position → position < 8 → meaning surfaces position = 0 := by
    intro position behind before
    rw [meaning, if_neg (by unfold surfacesOffset; omega), if_neg (by omega)]
  unfold numberAt
  rw [slice_cleared]
  obtain ⟨first, second, third, fourth, flags⟩ :
      ∃ first second third fourth, bytes.slice 4 4 = [first, second, third, fourth] := by
    match bytes.slice 4 4, whole with
    | [first, second, third, fourth], _ => exact ⟨first, second, third, fourth, rfl⟩
  have kept : (first &&& 1).toNat = first.toNat % 2 := by
    rw [UInt8.toNat_and]
    exact Nat.and_one_is_mod _
  rw [flags]
  simp [lowest, others, kept]
  omega

/-- What a record holds that is read as a request. -/
theorem decode_eq_ok_iff :
    decode bytes = .ok request ↔
      numberAt bytes 0 4 = magic ∧
        numberAt bytes 0x14 2 + numberAt bytes 0x16 2 ≤ greatestSurfaces ∧
        request =
          { requestId := UInt64.ofNat (numberAt bytes 8 8)
            program := UInt32.ofNat (numberAt bytes 0x10 4)
            isCompile := numberAt bytes 4 4 % 2 = 1
            inputs := SurfaceReference.readFrom bytes surfacesOffset (numberAt bytes 0x14 2)
            outputs := SurfaceReference.readFrom bytes
              (surfacesOffset + numberAt bytes 0x14 2 * SurfaceReference.byteCount)
              (numberAt bytes 0x16 2) } := by
  unfold decode
  by_cases marked : numberAt bytes 0 4 = magic
  · by_cases few : numberAt bytes 0x14 2 + numberAt bytes 0x16 2 ≤ greatestSurfaces
    · simp [marked, few, Nat.not_lt.mpr few, eq_comm]
    · simp [marked, few, Nat.lt_of_not_le few]
  · simp [marked]

/-- Why a record is refused. -/
theorem decode_eq_error_iff {error : Error} :
    decode bytes = .error error ↔
      numberAt bytes 0 4 ≠ magic ∧ error = .device .badMagic ∨
        numberAt bytes 0 4 = magic ∧
          greatestSurfaces < numberAt bytes 0x14 2 + numberAt bytes 0x16 2 ∧
          error = .device (.tooManySurfaces (numberAt bytes 0x14 2 + numberAt bytes 0x16 2)) := by
  unfold decode
  by_cases marked : numberAt bytes 0 4 = magic
  · by_cases few : numberAt bytes 0x14 2 + numberAt bytes 0x16 2 ≤ greatestSurfaces
    · simp [marked, Nat.not_lt.mpr few]
    · simp [marked, Nat.lt_of_not_le few, eq_comm]
  · simp [marked, eq_comm]

/-!
## Writing what was read
-/

/-- Everything before the surfaces means something but the higher flags and the reserved bytes. -/
theorem meaning_header
    {position : Nat}
    (inside : position < 4 ∨ 8 ≤ position ∧ position < 0x18) :
    meaning surfaces position = 0xFF := by
  rw [meaning, if_pos]
  omega

theorem numberAt_cleared
    {width : Nat}
    (inside : offset + width ≤ 4 ∨ 8 ≤ offset ∧ offset + width ≤ 0x18) :
    numberAt (cleared surfaces bytes) offset width = numberAt bytes offset width := by
  unfold numberAt
  rw [slice_cleared_of_full]
  intro index within
  apply meaning_header
  omega

/-- The header of a cleared record is that of the request that is read. -/
theorem slice_cleared_header
    (whole : bytes.length = byteCount)
    (read : decode bytes = .ok request) :
    (cleared request.surfaceCount bytes).slice 0 surfacesOffset = request.headerBytes := by
  obtain ⟨marked, few, rfl⟩ := decode_eq_ok_iff.mp read
  have whole : bytes.length = 256 := whole
  have few : numberAt bytes 0x14 2 + numberAt bytes 0x16 2 ≤ 14 := few
  rw [slice_eq_headerBytes_iff]
  · refine ⟨?_, ?_, ?_, ?_, ?_, ?_, ?_⟩
    · rw [numberAt_cleared (by decide), marked]
    · rw [flags_cleared (by omega), flag]
      simp only [decide_eq_true_eq]
      split <;> omega
    · rw [numberAt_cleared (by decide)]
      exact (UInt64.toNat_ofNat_of_lt' (Bytes.toNat_slice_lt bytes 8 8)).symm
    · rw [numberAt_cleared (by decide)]
      exact (UInt32.toNat_ofNat_of_lt' (Bytes.toNat_slice_lt bytes 0x10 4)).symm
    · rw [numberAt_cleared (by decide), SurfaceReference.length_readFrom]
    · rw [numberAt_cleared (by decide), SurfaceReference.length_readFrom]
    · apply slice_cleared_of_void (by omega)
      intro index within
      rw [meaning, if_neg (by unfold surfacesOffset; omega), if_neg (by omega)]
  · rw [length_cleared]
    show 32 ≤ bytes.length
    omega
  · rw [SurfaceReference.length_readFrom]
    exact Bytes.toNat_slice_lt bytes 0x14 2
  · rw [SurfaceReference.length_readFrom]
    exact Bytes.toNat_slice_lt bytes 0x16 2

/-- The surfaces of a cleared record are those of the request that is read. -/
theorem slice_cleared_surfaces
    (whole : bytes.length = byteCount)
    (read : decode bytes = .ok request) :
    (cleared request.surfaceCount bytes).slice surfacesOffset
        (request.surfaceCount * SurfaceReference.byteCount) =
      (request.inputs ++ request.outputs).flatMap SurfaceReference.toBytes := by
  obtain ⟨-, few, rfl⟩ := decode_eq_ok_iff.mp read
  rw [slice_cleared_of_full]
  · simp only [surfaceCount, SurfaceReference.length_readFrom, ← SurfaceReference.readFrom_add]
    generalize numberAt bytes 0x14 2 + numberAt bytes 0x16 2 = count at few ⊢
    have whole : bytes.length = 256 := whole
    have few : count ≤ 14 := few
    have inside : 32 + count * 16 ≤ bytes.length := by omega
    have written_iff := @SurfaceReference.slice_eq_flatMap_toBytes_iff bytes surfacesOffset
      (SurfaceReference.readFrom bytes surfacesOffset count)
    rw [SurfaceReference.length_readFrom] at written_iff
    exact (written_iff inside).mpr rfl
  · intro index within
    rw [meaning, if_pos]
    exact .inr (.inr ⟨Nat.le_add_right _ _, Nat.add_lt_add_left within _⟩)

/-- Writing the request that is read gives the record, with the bits cleared that mean nothing. -/
theorem encode_of_decode
    (whole : bytes.length = byteCount)
    (read : decode bytes = .ok request) :
    request.encode = .ok (cleared request.surfaceCount bytes) := by
  have fits : request.surfaceCount ≤ greatestSurfaces := by
    obtain ⟨-, few, rfl⟩ := decode_eq_ok_iff.mp read
    simpa [surfaceCount] using few
  have inside := size_le_byteCount_iff.mpr fits
  have length : (cleared request.surfaceCount bytes).length = byteCount := by
    rw [length_cleared, whole]
  have written : (cleared request.surfaceCount bytes).slice 0 request.size =
      request.writtenBytes :=
    (Bytes.slice_add_eq_append (length_headerBytes request)).mpr
      ⟨slice_cleared_header whole read, by
        rw [Nat.zero_add]
        exact slice_cleared_surfaces whole read⟩
  have padding : (cleared request.surfaceCount bytes).slice request.size
      (byteCount - request.size) = Bytes.zeros (byteCount - request.size) := by
    apply slice_cleared_of_void
    · rw [whole]
      omega
    · intro index within
      have size : request.size = 32 + request.surfaceCount * 16 := rfl
      rw [meaning, if_neg, if_neg (by omega)]
      show ¬ (_ ∨ _ ∨ 32 ≤ _ ∧ _ < 32 + _ * 16)
      omega
  rw [encode_eq_ok_iff]
  refine ⟨fits, ?_⟩
  rw [← written, ← padding]
  have parts := Bytes.slice_append_slice (cleared request.surfaceCount bytes) 0 request.size
    (byteCount - request.size)
  rw [Nat.zero_add, Nat.add_sub_of_le inside, ← length, Bytes.slice_all] at parts
  rw [← length]
  exact parts.symm

/-- A request is written unless it names too many surfaces, and then it is read back. -/
structure WrittenExactly (request : Request) : Prop where
  refused_iff : request.encode =
      .error (.tooLarge (request.inputs.length + request.outputs.length) 14) ↔
    14 < request.inputs.length + request.outputs.length
  readBack : request.inputs.length + request.outputs.length ≤ 14 →
    ∃ raw, request.encode = .ok raw ∧ raw.length = byteCount ∧ decode raw = .ok request

/-- A record is read without leaving it unless its mark is wrong or it names too many surfaces, and
then it is written again but for the bits that mean nothing. -/
structure ReadExactly (bytes : Bytes) : Prop where
  inRange : guardedDecode bytes = .of (decode bytes)
  refused_iff : (∃ fault, decode bytes = .error (.device fault)) ↔
    numberAt bytes 0 4 ≠ magic ∨ 14 < numberAt bytes 0x14 2 + numberAt bytes 0x16 2
  fault : ∀ error, decode bytes = .error error → ∃ fault, error = .device fault
  rewritten : ∀ request, decode bytes = .ok request →
    request.encode = .ok (cleared request.surfaceCount bytes)

theorem writtenExactly (request : Request) : request.WrittenExactly where
  refused_iff := by
    constructor
    · intro refused
      apply Nat.lt_of_not_le
      intro few
      obtain ⟨raw, written, -⟩ := @decode_encode request few
      rw [written] at refused
      cases refused
    · exact fun many => if_pos many
  readBack := by
    intro few
    obtain ⟨raw, written, read⟩ := @decode_encode request few
    refine ⟨raw, written, ?_, read⟩
    obtain ⟨fits, rfl⟩ := encode_eq_ok_iff.mp written
    have inside := size_le_byteCount_iff.mpr fits
    rw [List.length_append, length_writtenBytes, Bytes.length_zeros]
    omega

/-- Requests are written as records, and records are read as requests, exactly. -/
theorem records_exact (request : Request) (whole : bytes.length = byteCount) :
    request.WrittenExactly ∧ ReadExactly bytes := by
  refine ⟨writtenExactly request, guardedDecode_eq whole, ?_, ?_,
    fun _ => encode_of_decode whole⟩
  · constructor
    · rintro ⟨fault, refused⟩
      rcases decode_eq_error_iff.mp refused with ⟨unmarked, -⟩ | ⟨-, many, -⟩
      · exact .inl unmarked
      · exact .inr many
    · intro bad
      by_cases marked : numberAt bytes 0 4 = magic
      · exact ⟨_, decode_eq_error_iff.mpr (.inr ⟨marked, bad.resolve_left (· marked), rfl⟩)⟩
      · exact ⟨_, decode_eq_error_iff.mpr (.inl ⟨marked, rfl⟩)⟩
  · intro error refused
    rcases decode_eq_error_iff.mp refused with ⟨-, rfl⟩ | ⟨-, -, rfl⟩
    · exact ⟨_, rfl⟩
    · exact ⟨_, rfl⟩

/-- A record of one input and no output in which all bits are set that mean nothing. -/
def noisy : Bytes :=
  Bytes.ofNat 4 magic ++ List.replicate 16 0xFF ++ [1, 0, 0, 0] ++ List.replicate 232 0xFF

/-- It is read, and written without the noise. -/
theorem noisy_exact :
    noisy.length = byteCount ∧
      decode noisy = .ok ⟨0xFFFFFFFFFFFFFFFF, 0xFFFFFFFF, true,
        [⟨0xFFFFFFFFFFFFFFFF, 0xFFFFFFFFFFFFFFFF⟩], []⟩ ∧
      WrittenExactly ⟨1, 1, false, List.replicate 7 ⟨0, 128⟩, List.replicate 8 ⟨7, 128⟩⟩ ∧
      ReadExactly noisy := by
  have whole : noisy.length = byteCount := by decide +kernel
  refine ⟨whole, decode_eq_ok_iff.mpr ?_, records_exact _ whole⟩
  exact ⟨by decide +kernel, by decide +kernel, by decide +kernel⟩

end Request
end Execution
end TileProgram
