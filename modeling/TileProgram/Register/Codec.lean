import TileProgram.Bytes.LittleEndian
import TileProgram.Register.Error

/-!
# Reading and writing registers

A byte string is taken as one bit string, bit `8 * k + i` being bit `i` of byte
`k`.  A register is a slice of that bit string: reading takes the slice, as an
unsigned or as a two's complement number, and writing replaces it and keeps
every other bit.  A value that does not fit is refused and nothing is written.
-/

namespace TileProgram
namespace Register

/-- The bit string of a byte string. -/
def bitsOfBytes (size : Nat) (bytes : Bytes) : BitVec (8 * size) :=
  BitVec.ofNat (8 * size) (Bytes.toNat bytes)

/-- The byte string of a bit string. -/
def bytesOfBits {size : Nat} (bits : BitVec (8 * size)) : Bytes :=
  Bytes.ofNat size bits.toNat

namespace Field

/-- The bits of a field. -/
def slice (field : Field) (bits : BitVec size) : BitVec field.width :=
  bits.extractLsb' field.bitStart field.width

/-- Replaces the bits of a field. -/
def replace (field : Field) (bits : BitVec size) (value : BitVec field.width) : BitVec size :=
  let mask := (BitVec.allOnes field.width).setWidth size <<< field.bitStart
  (bits &&& ~~~mask) ||| (value.setWidth size <<< field.bitStart)

/-- The unsigned value of a field. -/
def unsigned (field : Field) (bits : BitVec size) : Nat :=
  (field.slice bits).toNat

/-- The value of a field in two's complement. -/
def twosComplement (field : Field) (bits : BitVec size) : Int :=
  (field.slice bits).toInt

/-- Writes an unsigned value, which has to be below two to the width. -/
def pack (field : Field) (bits : BitVec size) (value : Nat) : Except Error (BitVec size) :=
  if value < Nat.pow 2 field.width then
    .ok (field.replace bits (BitVec.ofNat field.width value))
  else .error (.fieldOverflow field.name value field.width)

/-- Writes a signed value, which has to be in the signed range of the field. -/
def packSigned (field : Field) (bits : BitVec size) (value : Int) : Except Error (BitVec size) :=
  if field.signedLeast ≤ value ∧ value ≤ field.signedGreatest then
    .ok (field.replace bits (BitVec.ofInt field.width value))
  else .error (.fieldOverflow field.name value field.width)

end Field

/-- The steps of an access whose operand can be out of range. -/
inductive Arithmetic where
  | shiftLeft
  | shiftRight
  | subtract
  deriving DecidableEq

/-- The name of a step. -/
def Arithmetic.name : Arithmetic → String
  | .shiftLeft => "shift left"
  | .shiftRight => "shift right"
  | .subtract => "subtract"

/-- Why an access to a field of a byte buffer fails. -/
inductive AccessError where
  | refused (error : Error)
  | pastEnd (name : Name)
  | outOfRange (step : Arithmetic)
  deriving DecidableEq

/-- The wording of a failed access. -/
def AccessError.message : AccessError → String
  | .refused error => error.message
  | .pastEnd name => "field " ++ name.text ++ " past end of buffer"
  | .outOfRange step => "attempt to " ++ step.name ++ " with overflow"

/-- The number of bits that an access to a byte buffer sees: those of the first bytes that the field touches. -/
def windowBits : Nat := 128

/-- The number of bytes in a window. -/
def windowBytes : Nat := windowBits / 8

/-- What a write leaves in a byte buffer, and whether it came to its end. -/
structure Written where
  buffer : Bytes
  outcome : Except AccessError Unit

namespace Field

/-- Requires the place of a field in its window and its width to be shift distances of a window. -/
def requireShifts (field : Field) (place : Arithmetic) : Except AccessError Unit :=
  if windowBits ≤ field.bitOffset then .error (.outOfRange place)
  else if windowBits ≤ field.width then .error (.outOfRange .shiftLeft)
  else .ok ()

/-- The window of a field in a byte buffer that holds all bytes the field touches. -/
def window (field : Field) (buffer : Bytes) : Except AccessError (BitVec windowBits) :=
  if field.byteOffset + field.spanBytes ≤ buffer.length then
    .ok (BitVec.ofNat windowBits (Bytes.toNat (buffer.slice field.byteOffset field.spanBytes)))
  else .error (.pastEnd field.name)

/-- The value bits of a field in a byte buffer. -/
def read (field : Field) (buffer : Bytes) : Except AccessError (BitVec field.valueWidth) := do
  let window ← field.window buffer
  field.requireShifts .shiftRight
  return window.extractLsb' field.bitOffset field.valueWidth

/-- Reads an unsigned value from a byte buffer. -/
def unpackBytes (field : Field) (buffer : Bytes) : Except AccessError Nat :=
  (field.read buffer).map BitVec.toNat

/-- Carries the sign of a field into the bits above it, by a shift up to the last bit and an arithmetic shift back. -/
def extendSign (field : Field) (bits : BitVec greatestWidth) : BitVec greatestWidth :=
  if greatestWidth ≤ field.width then bits
  else (bits <<< (greatestWidth - field.width)).sshiftRight (greatestWidth - field.width)

/-- Reads a signed value from a byte buffer. -/
def unpackSignedBytes (field : Field) (buffer : Bytes) : Except AccessError Int := do
  let bits ← field.read buffer
  if field.width = 0 then .error (.outOfRange .shiftLeft)
  else .ok (field.extendSign (bits.setWidth greatestWidth)).toInt

/-- The least and the largest signed value of a field, which has to have a bit. -/
def signedRange (field : Field) : Except AccessError (Int × Int) :=
  if field.width = 0 then .error (.outOfRange .subtract)
  else .ok (field.signedLeast, field.signedGreatest)

/-- Replaces the bits of a field in its window. -/
def replaceInWindow (field : Field) (window : BitVec windowBits)
    (value : BitVec field.valueWidth) : BitVec windowBits :=
  let mask := (BitVec.allOnes field.width).setWidth windowBits <<< field.bitOffset
  (window &&& ~~~mask) ||| ((value.setWidth windowBits <<< field.bitOffset) &&& mask)

/-- Writes value bits into a byte buffer.  Of a field that touches more bytes than a window has, the bytes of the window are written before the write fails. -/
def write (field : Field) (buffer : Bytes) (value : BitVec field.valueWidth) : Written :=
  let window := do
    field.requireShifts .shiftLeft
    field.window buffer
  match window with
  | .error error => ⟨buffer, .error error⟩
  | .ok window =>
      let patch := Bytes.ofNat (min field.spanBytes windowBytes)
        (field.replaceInWindow window value).toNat
      ⟨buffer.overwrite field.byteOffset patch,
        if windowBytes < field.spanBytes then .error (.outOfRange .shiftRight) else .ok ()⟩

/-- Writes an unsigned value into a byte buffer; a value that does not fit is refused. -/
def packBytes (field : Field) (buffer : Bytes) (value : Nat) : Written :=
  if value ≤ field.greatest then field.write buffer (BitVec.ofNat field.valueWidth value)
  else ⟨buffer, .error (.refused (.fieldOverflow field.name value field.width))⟩

/-- Writes a signed value into a byte buffer; a value that does not fit is refused. -/
def packSignedBytes (field : Field) (buffer : Bytes) (value : Int) : Written :=
  match field.signedRange with
  | .error error => ⟨buffer, .error error⟩
  | .ok (least, greatest) =>
      if least ≤ value ∧ value ≤ greatest then
        field.write buffer (BitVec.ofInt field.valueWidth value)
      else ⟨buffer, .error (.refused (.fieldOverflow field.name value field.width))⟩

end Field
end Register
end TileProgram
