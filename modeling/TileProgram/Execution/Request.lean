import TileProgram.Execution.Error
import TileProgram.Execution.Surface

/-!
# Request records

A request is written as a record of fixed size: a mark, flags, the numbers of
the request and of its program, and the number and size of every surface,
inputs first.
-/

namespace TileProgram
namespace Execution

/-- A surface as a request names it. -/
structure SurfaceReference where
  id : UInt64
  size : UInt64
  deriving DecidableEq

/-- A request to run a program or to compile a description. -/
structure Request where
  requestId : UInt64
  program : UInt32
  isCompile : Bool
  inputs : List SurfaceReference
  outputs : List SurfaceReference
  deriving DecidableEq

namespace SurfaceReference

/-- The bytes of one reference. -/
def byteCount : Nat := 0x10

/-- The reference to a surface. -/
def ofSurface (surface : Surface) : SurfaceReference :=
  ⟨surface.id, UInt64.ofNat surface.size⟩

/-- Writes a reference. -/
def toBytes (reference : SurfaceReference) : Bytes :=
  Bytes.ofNat 8 reference.id.toNat ++ Bytes.ofNat 8 reference.size.toNat

/-- Reads the reference at an offset. -/
def readAt (bytes : Bytes) (offset : Nat) : SurfaceReference :=
  ⟨UInt64.ofNat (Bytes.toNat (bytes.slice offset 8)),
    UInt64.ofNat (Bytes.toNat (bytes.slice (offset + 8) 8))⟩

/-- Reads a number of references that begin at an offset. -/
def readFrom (bytes : Bytes) (offset : Nat) : Nat → List SurfaceReference
  | 0 => []
  | count + 1 => readAt bytes offset :: readFrom bytes (offset + byteCount) count

end SurfaceReference

namespace Request

/-- The bytes of a request. -/
def byteCount : Nat := 0x100

/-- The position of the first surface. -/
def surfacesOffset : Nat := 0x20

/-- The most surfaces that a request can name. -/
def greatestSurfaces : Nat :=
  (byteCount - surfacesOffset) / SurfaceReference.byteCount

/-- The mark that begins every request. -/
def magic : Nat := 0x51454E41

/-- The number of surfaces that a request names. -/
def surfaceCount (request : Request) : Nat :=
  request.inputs.length + request.outputs.length

/-- What precedes the surfaces of a request. -/
def headerBytes (request : Request) : Bytes :=
  Bytes.ofNat 4 magic ++ Bytes.ofNat 4 (if request.isCompile then 1 else 0) ++
    Bytes.ofNat 8 request.requestId.toNat ++ Bytes.ofNat 4 request.program.toNat ++
    Bytes.ofNat 2 request.inputs.length ++ Bytes.ofNat 2 request.outputs.length ++ Bytes.zeros 8

/-- Writes a request whose surfaces fit. -/
def encode (request : Request) : Except Error Bytes :=
  if request.surfaceCount > greatestSurfaces then
    .error (.tooLarge request.surfaceCount greatestSurfaces)
  else
    .ok (Bytes.resize
      (request.headerBytes ++
        (request.inputs ++ request.outputs).flatMap SurfaceReference.toBytes) byteCount)

/-- The number of a given width at an offset. -/
def numberAt (bytes : Bytes) (offset width : Nat) : Nat :=
  Bytes.toNat (bytes.slice offset width)

/-- Reads a request. -/
def decode (bytes : Bytes) : Except Error Request :=
  if numberAt bytes 0 4 ≠ magic then .error (.device .badMagic)
  else
    let inputs := numberAt bytes 0x14 2
    let outputs := numberAt bytes 0x16 2
    if inputs + outputs > greatestSurfaces then
      .error (.device (.tooManySurfaces (inputs + outputs)))
    else
      .ok
        { requestId := UInt64.ofNat (numberAt bytes 8 8)
          program := UInt32.ofNat (numberAt bytes 0x10 4)
          isCompile := numberAt bytes 4 4 % 2 = 1
          inputs := SurfaceReference.readFrom bytes surfacesOffset inputs
          outputs := SurfaceReference.readFrom bytes
            (surfacesOffset + inputs * SurfaceReference.byteCount) outputs }

end Request
end Execution
end TileProgram
