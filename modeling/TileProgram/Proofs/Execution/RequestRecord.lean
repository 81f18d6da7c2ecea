import TileProgram.Execution.Request
import TileProgram.Proofs.Bytes.Slices

/-!
# Request records

A record holds the bytes that are written for a request exactly when each field
that is read from it is that of the request.  So a request that can be written
is read back.
-/

namespace TileProgram
namespace Execution

namespace SurfaceReference

@[simp] theorem length_toBytes (reference : SurfaceReference) :
    reference.toBytes.length = byteCount := by
  rw [toBytes, List.length_append, Bytes.length_ofNat, Bytes.length_ofNat]
  rfl

theorem length_flatMap_toBytes (references : List SurfaceReference) :
    (references.flatMap toBytes).length = references.length * byteCount := by
  simp [List.length_flatMap, List.map_const']

/-- A reference is read exactly from the bytes that are written for it. -/
theorem slice_eq_toBytes_iff
    {bytes : Bytes}
    {offset : Nat}
    {reference : SurfaceReference}
    (inside : offset + byteCount ≤ bytes.length) :
    bytes.slice offset byteCount = reference.toBytes ↔ readAt bytes offset = reference := by
  have inside : offset + 16 ≤ bytes.length := inside
  have parts : byteCount = 8 + 8 := rfl
  have number_iff : ∀ {start : Nat} {number : UInt64},
      Bytes.toNat (bytes.slice start 8) = number.toNat ↔
        UInt64.ofNat (Bytes.toNat (bytes.slice start 8)) = number := by
    intro start number
    rw [← UInt64.toNat_inj, UInt64.toNat_ofNat_of_lt' (Bytes.toNat_slice_lt bytes start 8)]
  rw [toBytes, parts, Bytes.slice_add_eq_append (by simp),
    Bytes.slice_eq_ofNat_iff (by omega) reference.id.toNat_lt,
    Bytes.slice_eq_ofNat_iff (by omega) reference.size.toNat_lt, number_iff, number_iff, readAt]
  cases reference with
  | mk id size => rw [mk.injEq]

/-- References are read exactly from the bytes that are written for them. -/
theorem slice_eq_flatMap_toBytes_iff
    {bytes : Bytes}
    {offset : Nat}
    (references : List SurfaceReference)
    (inside : offset + references.length * byteCount ≤ bytes.length) :
    bytes.slice offset (references.length * byteCount) = references.flatMap toBytes ↔
      readFrom bytes offset references.length = references := by
  induction references generalizing offset with
  | nil => simp [readFrom]
  | cons reference rest inductionHypothesis =>
      have parts : (reference :: rest).length * byteCount =
          byteCount + rest.length * byteCount := by
        rw [List.length_cons, Nat.succ_mul, Nat.add_comm]
      rw [parts] at inside ⊢
      rw [List.flatMap_cons, Bytes.slice_add_eq_append (length_toBytes reference),
        slice_eq_toBytes_iff (by omega), inductionHypothesis (by omega), List.length_cons,
        readFrom, List.cons.injEq]

end SurfaceReference

namespace Request

variable {request : Request} {bytes raw : Bytes}

@[simp] theorem length_headerBytes (request : Request) :
    request.headerBytes.length = surfacesOffset := by
  simp [headerBytes, surfacesOffset]

/-- The mark of a compile request. -/
def flag (request : Request) : Nat :=
  if request.isCompile then 1 else 0

/-- A record begins with what is written for a request exactly when each number in it does. -/
theorem slice_eq_headerBytes_iff
    (inside : surfacesOffset ≤ bytes.length)
    (inputsFit : request.inputs.length < Bytes.capacity 2)
    (outputsFit : request.outputs.length < Bytes.capacity 2) :
    bytes.slice 0 surfacesOffset = request.headerBytes ↔
      numberAt bytes 0 4 = magic ∧ numberAt bytes 4 4 = request.flag ∧
      numberAt bytes 8 8 = request.requestId.toNat ∧
      numberAt bytes 0x10 4 = request.program.toNat ∧
      numberAt bytes 0x14 2 = request.inputs.length ∧
      numberAt bytes 0x16 2 = request.outputs.length ∧
      bytes.slice 0x18 8 = Bytes.zeros 8 := by
  have inside : 0x20 ≤ bytes.length := inside
  have parts : surfacesOffset = 4 + 4 + 8 + 4 + 2 + 2 + 8 := rfl
  have flagFits : request.flag < Bytes.capacity 4 := by
    unfold flag
    split <;> decide
  -- The header is split before each of its last six parts; all parts but the last are numbers.
  rw [headerBytes, parts, ← flag]
  rw [Bytes.slice_add_eq_append (by simp), Bytes.slice_add_eq_append (by simp),
    Bytes.slice_add_eq_append (by simp), Bytes.slice_add_eq_append (by simp),
    Bytes.slice_add_eq_append (by simp), Bytes.slice_add_eq_append (by simp),
    Bytes.slice_eq_ofNat_iff (by omega) (by decide),
    Bytes.slice_eq_ofNat_iff (by omega) flagFits,
    Bytes.slice_eq_ofNat_iff (by omega) request.requestId.toNat_lt,
    Bytes.slice_eq_ofNat_iff (by omega) request.program.toNat_lt,
    Bytes.slice_eq_ofNat_iff (by omega) inputsFit,
    Bytes.slice_eq_ofNat_iff (by omega) outputsFit]
  simp only [and_assoc, Nat.zero_add, Nat.reduceAdd, numberAt]

/-- What is written for a request, but for the zeros behind it. -/
def writtenBytes (request : Request) : Bytes :=
  request.headerBytes ++ (request.inputs ++ request.outputs).flatMap SurfaceReference.toBytes

/-- The bytes that a request takes. -/
def size (request : Request) : Nat :=
  surfacesOffset + request.surfaceCount * SurfaceReference.byteCount

@[simp] theorem length_writtenBytes (request : Request) :
    request.writtenBytes.length = request.size := by
  rw [writtenBytes, List.length_append, length_headerBytes,
    SurfaceReference.length_flatMap_toBytes, List.length_append, size, surfaceCount]

/-- The surfaces of a request fit exactly when all that is written for it fits. -/
theorem size_le_byteCount_iff :
    request.size ≤ byteCount ↔ request.surfaceCount ≤ greatestSurfaces := by
  have greatest : greatestSurfaces = 14 := by decide
  simp only [size, byteCount, surfacesOffset, SurfaceReference.byteCount, greatest]
  omega

/-- A request is written exactly if its surfaces fit, and zeros fill the record. -/
theorem encode_eq_ok_iff :
    request.encode = .ok raw ↔ request.surfaceCount ≤ greatestSurfaces ∧
      raw = request.writtenBytes ++ Bytes.zeros (byteCount - request.size) := by
  unfold encode
  split
  · next large => simp [Nat.not_le_of_gt large]
  · next fits =>
    have fits := Nat.le_of_not_gt fits
    have short : request.writtenBytes.length ≤ byteCount := by
      rw [length_writtenBytes]
      exact size_le_byteCount_iff.mpr fits
    rw [← writtenBytes, Bytes.resize_eq short, length_writtenBytes, Except.ok.injEq]
    simp [fits, eq_comm]

/-- A record that begins with what is written for a request is read as that request. -/
theorem decode_of_slice
    (fits : request.surfaceCount ≤ greatestSurfaces)
    (inside : request.size ≤ bytes.length)
    (written : bytes.slice 0 request.size = request.writtenBytes) :
    decode bytes = .ok request := by
  have few : request.inputs.length + request.outputs.length ≤ 14 := fits
  have inside : 32 + (request.inputs.length + request.outputs.length) * 16 ≤ bytes.length := inside
  obtain ⟨header, references⟩ :=
    (Bytes.slice_add_eq_append (length_headerBytes request)).mp written
  obtain ⟨magicEq, flagEq, idEq, programEq, inputsEq, outputsEq, -⟩ :=
    (slice_eq_headerBytes_iff (Nat.le_trans (Nat.le_add_right ..) inside)
      (Nat.lt_of_le_of_lt (Nat.le_trans (Nat.le_add_right ..) few) (by decide))
      (Nat.lt_of_le_of_lt (Nat.le_trans (Nat.le_add_left ..) few) (by decide))).mp header
  rw [surfaceCount, Nat.add_mul, List.flatMap_append, Bytes.slice_add_eq_append
    (SurfaceReference.length_flatMap_toBytes _)] at references
  have inputs := (SurfaceReference.slice_eq_flatMap_toBytes_iff request.inputs (by
    show 0 + 32 + request.inputs.length * 16 ≤ bytes.length
    omega)).mp references.1
  have outputs := (SurfaceReference.slice_eq_flatMap_toBytes_iff request.outputs (by
    show 0 + 32 + request.inputs.length * 16 + request.outputs.length * 16 ≤ bytes.length
    omega)).mp references.2
  rw [Nat.zero_add] at inputs outputs
  have compiles : decide (request.flag % 2 = 1) = request.isCompile := by
    unfold flag
    cases request.isCompile <;> rfl
  have fits : ¬ request.inputs.length + request.outputs.length > greatestSurfaces :=
    Nat.not_lt.mpr fits
  unfold decode
  simp only [magicEq, ne_eq, not_true_eq_false, if_false, inputsEq, outputsEq, fits, inputs,
    outputs, idEq, programEq, flagEq, UInt64.ofNat_toNat, UInt32.ofNat_toNat, compiles]

/-- A request whose surfaces fit is written, and read back from what is written. -/
theorem decode_encode (fits : request.surfaceCount ≤ greatestSurfaces) :
    ∃ raw, request.encode = .ok raw ∧ decode raw = .ok request := by
  refine ⟨_, encode_eq_ok_iff.mpr ⟨fits, rfl⟩, decode_of_slice fits ?_ ?_⟩
  · simp
  · rw [← length_writtenBytes, Bytes.slice_append_of_le (by simp), Bytes.slice_all]

end Request
end Execution
end TileProgram
