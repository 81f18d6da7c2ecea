import TileProgram.Activation
import TileProgram.Descriptor.Basic
import TileProgram.Descriptor.Registers
import TileProgram.Tensor

/-!
# Reading, setting and checking instructions

The parts of an instruction are registers of its record.  A part is read and set
as a whole, and a record is checked by looking at some of its registers.
-/

/-!
## The parts of an instruction

Each part of an instruction is written by a list of assignments and read back
from the same registers.  A register that the table lacks makes an access fail.
-/

namespace TileProgram
namespace Descriptor

open Register

/-- Assignments that set the task number. -/
def taskIdAssignments (number : Nat) : List Assignment :=
  [.unsigned Registers.taskId number]

/-- The pointer of the last record of a chain. -/
def chainEnd : Nat := 0

/-- Assignments that link a record to the next one. -/
def nextAssignments (position : Nat) : List Assignment :=
  [ .unsigned Registers.nextPointer position,
    .unsigned Registers.nextSize (recordSize / 4),
    .unsigned Registers.lastOfNetwork 0,
    .unsigned Registers.endOfNetwork 0 ]

/-- Assignments that make a record the last one of its chain. -/
def lastAssignments : List Assignment :=
  [ .unsigned Registers.nextPointer chainEnd,
    .unsigned Registers.nextSize 0,
    .unsigned Registers.lastOfNetwork 1,
    .unsigned Registers.endOfNetwork 1 ]

/-- The position of the next record. -/
def next (descriptor : Descriptor) : Except Error Nat := do
  let position ← descriptor.get Registers.nextPointer
  if position < UInt32.size then return position
  else throw (.fieldOverflow Registers.nextPointer position 32)

/-- Assignments that use a kernel channel. -/
def channelAssignments (channel : Nat) (data : ChannelData) : List Assignment :=
  [ .unsigned (Registers.channelEnabled channel) 1,
    .unsigned (Registers.channelOffset channel) data.offset.toNat,
    .unsigned (Registers.channelLength channel) data.length.toNat ]

/-- Refuses a kernel channel that does not exist. -/
def checkChannel (channel : Nat) : Except Error Unit :=
  if channel < Standard.channelCount then .ok ()
  else .error (.channelOutOfRange channel Standard.channelCount)

/-- The data of a kernel channel, if it is in use. -/
def channel (descriptor : Descriptor) (channel : Nat) : Except Error (Option ChannelData) := do
  checkChannel channel
  if (← descriptor.get (Registers.channelEnabled channel)) = 0 then return none
  else
    let offset ← descriptor.get (Registers.channelOffset channel)
    let length ← descriptor.get (Registers.channelLength channel)
    return some ⟨UInt32.ofNat offset, UInt32.ofNat length⟩

/-- The kernel channels in use. -/
def usedChannels (descriptor : Descriptor) : Except Error (List Nat) :=
  (List.range Standard.channelCount).filterMapM fun channel => do
    let enabled ← descriptor.get (Registers.channelEnabled channel)
    return if enabled = 0 then none else some channel

/-- Assignments of the shape of the input. -/
def inputAssignments (shape : Tensor.Shape) : List Assignment :=
  [ .unsigned Registers.inputColumn shape.column.toNat,
    .unsigned Registers.inputRow shape.row.toNat,
    .unsigned Registers.inputPlane shape.plane.toNat,
    .unsigned Registers.inputDepth shape.depth.toNat,
    .unsigned Registers.group shape.group.toNat ]

/-- Assignments of the shape of the output, whose groups are those of the input. -/
def outputAssignments (shape : Tensor.Shape) : List Assignment :=
  [ .unsigned Registers.outputColumn shape.column.toNat,
    .unsigned Registers.outputRow shape.row.toNat,
    .unsigned Registers.outputPlane shape.plane.toNat,
    .unsigned Registers.outputDepth shape.depth.toNat ]

/-- The extent that a register holds. -/
def extent (descriptor : Descriptor) (name : Name) : Except Error UInt32 :=
  (descriptor.get name).map UInt32.ofNat

/-- The shape of the input. -/
def inputShape (descriptor : Descriptor) : Except Error Tensor.Shape := do
  let column ← descriptor.extent Registers.inputColumn
  let row ← descriptor.extent Registers.inputRow
  let plane ← descriptor.extent Registers.inputPlane
  let depth ← descriptor.extent Registers.inputDepth
  let group ← descriptor.extent Registers.group
  return ⟨group, depth, plane, row, column⟩

/-- The shape of the output. -/
def outputShape (descriptor : Descriptor) : Except Error Tensor.Shape := do
  let column ← descriptor.extent Registers.outputColumn
  let row ← descriptor.extent Registers.outputRow
  let plane ← descriptor.extent Registers.outputPlane
  let depth ← descriptor.extent Registers.outputDepth
  let group ← descriptor.extent Registers.group
  return ⟨group, depth, plane, row, column⟩

/-- Assignments of the element types of both sources and of the result. -/
def typeAssignments (input second output : Tensor.ElementType) : List Assignment :=
  [ .unsigned Registers.inputFormat input.code,
    .unsigned Registers.secondFormat second.code,
    .unsigned Registers.outputFormat output.code ]

/-- The element type that a format register holds. -/
def elementType (descriptor : Descriptor) (name : Name) : Except Error Tensor.ElementType := do
  Tensor.ElementType.ofCode name.text (← descriptor.get name)

/-- The element type of the first source. -/
def inputType (descriptor : Descriptor) : Except Error Tensor.ElementType :=
  descriptor.elementType Registers.inputFormat

/-- The element type of the result. -/
def outputType (descriptor : Descriptor) : Except Error Tensor.ElementType :=
  descriptor.elementType Registers.outputFormat

/-- Assignments of a window: its size, its steps and its padding, horizontal first; negative padding crops. -/
def windowAssignments (kernel step : UInt32 × UInt32) (padding : Int32 × Int32) :
    List Assignment :=
  [ .unsigned Registers.kernelWidth kernel.1.toNat,
    .unsigned Registers.kernelHeight kernel.2.toNat,
    .unsigned Registers.stepAcross step.1.toNat,
    .unsigned Registers.stepDown step.2.toNat,
    .signed Registers.paddingAcross padding.1.toInt,
    .signed Registers.paddingDown padding.2.toInt ]

/-- Assignments of the class and variant of the operation and of the number of folded operations. -/
def operationAssignments (class_ variant folded : Nat) : List Assignment :=
  [ .unsigned Registers.operationType class_,
    .unsigned Registers.operationVariant variant,
    .unsigned Registers.foldedCount folded ]

/-- Assignments of four strides. -/
def strideAssignments (names : Registers.StrideNames) (strides : Strides) : List Assignment :=
  [ .unsigned names.row strides.row.toNat,
    .unsigned names.plane strides.plane.toNat,
    .unsigned names.depth strides.depth.toNat,
    .unsigned names.batch strides.batch.toNat ]

/-- The strides that four registers hold. -/
def strides (descriptor : Descriptor) (names : Registers.StrideNames) : Except Error Strides := do
  let row ← descriptor.extent names.row
  let plane ← descriptor.extent names.plane
  let depth ← descriptor.extent names.depth
  let batch ← descriptor.extent names.batch
  return ⟨row, plane, depth, batch⟩

/-- Assignments that enable a source. -/
def sourceAssignments (lane : SourceLane) (surface : StridedSurface) : List Assignment :=
  [ .unsigned (Registers.sourceEnabled lane) 1,
    .unsigned (Registers.sourceBase lane) surface.base.toNat ] ++
  strideAssignments (Registers.sourceStrides lane) surface.strides ++
  [ .unsigned (Registers.sourceInterleave lane) surface.interleave.toNat ]

/-- Assignments that enable the destination. -/
def destinationAssignments (surface : StridedSurface) : List Assignment :=
  [ .unsigned Registers.destinationEnabled 1,
    .unsigned Registers.destinationBase surface.base.toNat ] ++
  strideAssignments Registers.destinationStrides surface.strides ++
  [ .unsigned Registers.destinationInterleave surface.interleave.toNat ]

/-- The surface that registers describe, if the first of them enables it. -/
def surface (descriptor : Descriptor) (enabled base interleave : Name)
    (names : Registers.StrideNames) : Except Error (Option StridedSurface) := do
  if (← descriptor.get enabled) = 0 then return none
  else
    let base ← descriptor.extent base
    let strides ← descriptor.strides names
    let interleave ← descriptor.get interleave
    return some ⟨base, strides, UInt8.ofNat interleave⟩

/-- The surface of a source, if it is enabled. -/
def source (descriptor : Descriptor) (lane : SourceLane) : Except Error (Option StridedSurface) :=
  descriptor.surface (Registers.sourceEnabled lane) (Registers.sourceBase lane)
    (Registers.sourceInterleave lane) (Registers.sourceStrides lane)

/-- The surface of the destination, if it is enabled. -/
def destination (descriptor : Descriptor) : Except Error (Option StridedSurface) :=
  descriptor.surface Registers.destinationEnabled Registers.destinationBase
    Registers.destinationInterleave Registers.destinationStrides

/-- Assignments of the residency hint of a lane. -/
def residencyAssignments (lane : Residency.Lane) (hint : Residency.Hint) : List Assignment :=
  [.unsigned (Registers.residency lane) hint.code]

/-- The residency hint of a lane; a code that means nothing counts as the first hint. -/
def residency (descriptor : Descriptor) (lane : Residency.Lane) : Except Error Residency.Hint :=
  (descriptor.get (Registers.residency lane)).map fun code =>
    (Residency.Hint.ofCode? code).getD .allocate

/-- Assignments of the cached view of a surface. -/
def cacheAssignments (names : Registers.CacheNames) (surface : StridedSurface) :
    List Assignment :=
  [ .unsigned names.base surface.base.toNat,
    .unsigned names.plane surface.strides.plane.toNat,
    .unsigned names.row surface.strides.row.toNat ]

/-- Assignments of an activation, its parameters rounded to half precision. -/
def activationAssignments (activation : Activation) : List Assignment :=
  [ .unsigned Registers.activationKind activation.kind.code,
    .unsigned Registers.activationFirst activation.first.toHalf.bits.toNat,
    .unsigned Registers.activationSecond activation.second.toHalf.bits.toNat ]

/-- The scalar that a register holds in half precision. -/
def scalar (descriptor : Descriptor) (name : Name) : Except Error Binary.Single :=
  (descriptor.get name).map fun bits => (Binary.Half.mk (UInt16.ofNat bits)).toSingle

/-- The activation of a record. -/
def activation (descriptor : Descriptor) : Except Error Activation := do
  let kind ← Activation.Kind.ofCode (← descriptor.get Registers.activationKind)
  let first ← descriptor.scalar Registers.activationFirst
  let second ← descriptor.scalar Registers.activationSecond
  return ⟨kind, first, second⟩

/-- Assignments of a scalar bias. -/
def biasAssignments (bias : Binary.Single) : List Assignment :=
  [ .unsigned Registers.biasMode 1,
    .unsigned Registers.bias bias.toHalf.bits.toNat ]

/-- Assignments of a scalar scale. -/
def scaleAssignments (scale : Binary.Single) : List Assignment :=
  [ .unsigned Registers.scaleMode 1,
    .unsigned Registers.scale scale.toHalf.bits.toNat ]

/-- Attaches a lookup table and records its length; a table that is too long changes nothing. -/
def attach (descriptor : Descriptor) (lookup : LookupTable) : Except Error Descriptor :=
  (descriptor.assign (.unsigned Registers.lookupLength lookup.length)).map fun changed =>
    { changed with lookup := some lookup }

end Descriptor
end TileProgram

/-!
## Settings

A setting writes one part of an instruction.  It makes its assignments one after
another until one fails, so a setting that fails may have written some registers
of its part.  The number of a kernel channel is checked before anything is
written, and a lookup table is attached only if its length could be.
-/

namespace TileProgram

open Register

/-- A part of an instruction that is written as a whole. -/
inductive Part where
  | taskId
  | link
  | channel (number : Nat)
  | inputShape
  | outputShape
  | types
  | window
  | operation
  | source (lane : SourceLane)
  | destination
  | residency (lane : Residency.Lane)
  | cacheSource (lane : SourceLane)
  | cacheResult
  | activation
  | bias
  | scale
  | lookup
  deriving DecidableEq

/-- What to write, and into which part. -/
inductive Setting where
  | taskId (number : UInt16)
  | next (position : UInt32)
  | last
  | channel (number : Nat) (data : ChannelData)
  | inputShape (shape : Tensor.Shape)
  | outputShape (shape : Tensor.Shape)
  | types (input second output : Tensor.ElementType)
  | window (kernel step : UInt32 × UInt32) (padding : Int32 × Int32)
  | operation (class_ variant folded : UInt8)
  | source (lane : SourceLane) (surface : StridedSurface)
  | destination (surface : StridedSurface)
  | residency (lane : Residency.Lane) (hint : Residency.Hint)
  | cacheSource (lane : SourceLane) (surface : StridedSurface)
  | cacheResult (surface : StridedSurface)
  | activation (value : Activation)
  | bias (value : Binary.Single)
  | scale (value : Binary.Single)
  | lookup (table : LookupTable)

namespace Setting

/-- The part that a setting writes; the two kinds of link are one part. -/
def part : Setting → Part
  | .taskId _ => .taskId
  | .next _ => .link
  | .last => .link
  | .channel number _ => .channel number
  | .inputShape _ => .inputShape
  | .outputShape _ => .outputShape
  | .types .. => .types
  | .window .. => .window
  | .operation .. => .operation
  | .source lane _ => .source lane
  | .destination _ => .destination
  | .residency lane _ => .residency lane
  | .cacheSource lane _ => .cacheSource lane
  | .cacheResult _ => .cacheResult
  | .activation _ => .activation
  | .bias _ => .bias
  | .scale _ => .scale
  | .lookup _ => .lookup

/-- The assignments of a setting. -/
def assignments : Setting → List Assignment
  | .taskId number => Descriptor.taskIdAssignments number.toNat
  | .next position => Descriptor.nextAssignments position.toNat
  | .last => Descriptor.lastAssignments
  | .channel number data => Descriptor.channelAssignments number data
  | .inputShape shape => Descriptor.inputAssignments shape
  | .outputShape shape => Descriptor.outputAssignments shape
  | .types input second output => Descriptor.typeAssignments input second output
  | .window kernel step padding => Descriptor.windowAssignments kernel step padding
  | .operation class_ variant folded =>
      Descriptor.operationAssignments class_.toNat variant.toNat folded.toNat
  | .source lane surface => Descriptor.sourceAssignments lane surface
  | .destination surface => Descriptor.destinationAssignments surface
  | .residency lane hint => Descriptor.residencyAssignments lane hint
  | .cacheSource lane surface => Descriptor.cacheAssignments (Registers.cacheSource lane) surface
  | .cacheResult surface => Descriptor.cacheAssignments Registers.cacheResult surface
  | .activation value => Descriptor.activationAssignments value
  | .bias value => Descriptor.biasAssignments value
  | .scale value => Descriptor.scaleAssignments value
  | .lookup table => [.unsigned Registers.lookupLength table.length]

end Setting

namespace Descriptor

/-- Makes a setting; gives the record then reached and the failure, if there is one. -/
def set (descriptor : Descriptor) (setting : Setting) : Descriptor × Option Error :=
  match setting with
  | .channel number data =>
      match checkChannel number with
      | .error error => (descriptor, some error)
      | .ok () => descriptor.assignAll (channelAssignments number data)
  | .lookup table =>
      match descriptor.attach table with
      | .error error => (descriptor, some error)
      | .ok changed => (changed, none)
  | setting => descriptor.assignAll setting.assignments

/-- The record after settings that are made one after another, whether or not they fail. -/
def setAll (descriptor : Descriptor) (settings : List Setting) : Descriptor :=
  settings.foldl (fun reached setting => (reached.set setting).1) descriptor

end Descriptor
end TileProgram

/-!
## Valid descriptors

A record is valid when every stride is a multiple of 64 bytes, every format
register holds the code of an element type, and the selector of the activation
is known and has its lookup table if it needs one.  The first failure in this
order is reported.
-/

namespace TileProgram
namespace Descriptor

open Register

/-- The alignment of strides. -/
def strideAlignment : Nat := 0x40

/-- The first stride, in table order, that is not aligned. -/
def strideError? (descriptor : Descriptor) : Option Error :=
  (descriptor.table.fields.filter Field.isStride).findSome? fun field =>
    let value := field.unsigned descriptor.bits
    if value % strideAlignment = 0 then none else some (.invalidStride field.name value)

/-- The first format register with a code that means nothing. -/
def formatError? (descriptor : Descriptor) : Option Error :=
  Registers.formats.findSome? fun name =>
    (descriptor.table.find? name).bind fun field =>
      match Tensor.ElementType.ofCode name.text (field.unsigned descriptor.bits) with
      | .ok _ => none
      | .error error => some error

/-- What is wrong with the activation, if anything. -/
def activationError? (descriptor : Descriptor) : Option Error :=
  (descriptor.table.find? Registers.activationKind).bind fun field =>
    match Activation.Kind.ofCode (field.unsigned descriptor.bits) with
    | .error error => some error
    | .ok kind =>
        if kind.needsTable && descriptor.lookup.isNone then some .missingTable else none

/-- Checks a record. -/
def validate (descriptor : Descriptor) : Except Error Unit :=
  match (descriptor.strideError?.or descriptor.formatError?).or descriptor.activationError? with
  | some error => .error error
  | none => .ok ()

end Descriptor
end TileProgram
