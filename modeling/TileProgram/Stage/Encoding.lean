import TileProgram.Descriptor.Accessors
import TileProgram.ProgramError
import TileProgram.Residency.Planner

/-!
# Encoding stages

The record of a stage is the zero record after a list of assignments: channels,
sources, shapes, types, the destination, residency hints, the parameters of the
first operation, what is folded, and the operation's codes.
-/

namespace TileProgram
namespace Stage

open Network

/-- A tensor with its place in device memory. -/
structure Placed where
  tensor : Tensor
  surface : StridedSurface
  size : UInt32
  deriving DecidableEq, Inhabited

/-- Where a stage finds its operands and puts its result. -/
structure Binding where
  inputs : List Placed
  output : Placed
  weights : Option ChannelData
  hints : Residency.StageHints
  deriving DecidableEq, Inhabited

namespace Binding

/-- What the kernel channels read: the operands, then the weights. -/
def channels (binding : Binding) : List ChannelData :=
  binding.inputs.map (fun input => ⟨input.surface.base, input.size⟩) ++ binding.weights.toList

/-- Assignments that use the kernel channels from a given one on. -/
def channelAssignments : Nat → List ChannelData → List Assignment
  | _, [] => []
  | channel, data :: rest =>
      Descriptor.channelAssignments channel data ++ channelAssignments (channel + 1) rest

/-- Assignments for a source lane. -/
def sourceAssignments (binding : Binding) (lane : SourceLane) (index : Nat) : List Assignment :=
  match binding.inputs[index]? with
  | none => []
  | some input =>
      Descriptor.sourceAssignments lane input.surface ++
        Descriptor.cacheAssignments (Registers.cacheSource lane) input.surface

/-- Assignments of the shape of the first operand. -/
def inputShapeAssignments (binding : Binding) : List Assignment :=
  match binding.inputs[0]? with
  | none => []
  | some input => Descriptor.inputAssignments input.tensor.shape

/-- Assignments of the element types; a missing source has the type of the one before it, and the result's if there is none. -/
def typeAssignments (binding : Binding) : List Assignment :=
  let typeAt (index : Nat) (otherwise : Tensor.ElementType) : Tensor.ElementType :=
    (binding.inputs[index]?.map fun input => input.tensor.elementType).getD otherwise
  let output := binding.output.tensor.elementType
  let first := typeAt 0 output
  Descriptor.typeAssignments first (typeAt 1 first) output

/-- Assignments for the result. -/
def outputAssignments (binding : Binding) : List Assignment :=
  Descriptor.outputAssignments binding.output.tensor.shape ++
    Descriptor.destinationAssignments binding.output.surface ++
    Descriptor.cacheAssignments Registers.cacheResult binding.output.surface

/-- Assignments of the residency hints. -/
def hintAssignments (binding : Binding) : List Assignment :=
  Descriptor.residencyAssignments .first binding.hints.first ++
    Descriptor.residencyAssignments .second binding.hints.second ++
    Descriptor.residencyAssignments .result binding.hints.result

/-- All assignments that depend on the binding alone. -/
def assignments (binding : Binding) : List Assignment :=
  channelAssignments 0 binding.channels ++
    binding.sourceAssignments .first 0 ++ binding.inputShapeAssignments ++
    binding.sourceAssignments .second 1 ++ binding.typeAssignments ++
    binding.outputAssignments ++ binding.hintAssignments

end Binding

/-- Assignments of a scale and a bias. -/
def scaleBiasAssignments (scale bias : Binary.Single) : List Assignment :=
  Descriptor.scaleAssignments scale ++ Descriptor.biasAssignments bias

/-- Assignments of the parameters of the first operation. -/
def primaryAssignments : Operation → List Assignment
  | .convolution kernel stride padding groups =>
      Descriptor.windowAssignments kernel stride padding ++
        [.unsigned Registers.groupCount groups.toNat]
  | .pooling _ kernel stride =>
      [ .unsigned Registers.poolWidth kernel.1.toNat,
        .unsigned Registers.poolHeight kernel.2.toNat,
        .unsigned Registers.stepAcross stride.1.toNat,
        .unsigned Registers.stepDown stride.2.toNat ]
  | .pointwise .multiply => [.unsigned Registers.multiplyMode 1]
  | .concat axis => [.unsigned Registers.axis axis.toNat]
  | .softmax axis => [.unsigned Registers.axis axis.toNat]
  | .transpose mode => [.unsigned Registers.transposeMode mode.toNat]
  | .broadcast mask => [.unsigned Registers.broadcastMask mask.toNat]
  | .scaleBias scale bias => scaleBiasAssignments scale bias
  | .normalization _ epsilon => [.unsigned Registers.epsilon epsilon.toHalf.bits.toNat]
  | _ => []

/-- Assignments of a folded operation. -/
def foldedAssignments : Operation → List Assignment
  | .scaleBias scale bias => scaleBiasAssignments scale bias
  | .pointwise operator => [.unsigned Registers.foldedPointwise (operator.code + 1)]
  | _ => []

/-- The lookup table of a node: its samples, if its activation uses them. -/
def tableOf? (node : Node) : Option LookupTable :=
  if node.activation.kind.needsTable then node.samples.map LookupTable.ofSingles else none

/-- Assignments of the activation of a node. -/
def activationAssignments (node : Node) : List Assignment :=
  if node.activation.isNone then []
  else
    Descriptor.activationAssignments node.activation ++
      match tableOf? node with
      | none => []
      | some table => [.unsigned Registers.lookupLength table.length]

/-- The largest count of folded operations that is written as it is. -/
def greatestFoldedCount : Nat := 255

/-- All assignments of a stage. -/
def assignments (primary : Node) (folded : List Node) (binding : Binding) : List Assignment :=
  binding.assignments ++ primaryAssignments primary.operation ++ activationAssignments primary ++
    (folded.flatMap fun node =>
      foldedAssignments node.operation ++ activationAssignments node) ++
    Descriptor.operationAssignments primary.operation.classCode primary.operation.variantCode
      (min folded.length greatestFoldedCount)

/-- The lookup table of a stage: that of the last node that has one. -/
def lookup? (nodes : List Node) : Option LookupTable :=
  (nodes.filterMap tableOf?).getLast?

/-- How the shapes of operands are inconsistent with an operation, if they are. -/
def shapeDefect? (node : Node) (inputs : List Placed) : Option ShapeDefect :=
  let output := node.output.shape
  let differing : Option ShapeDefect :=
    (inputs.find? fun input => input.tensor.shape != output).map fun input =>
      .operandDiffers input.tensor.shape output
  match node.operation with
  | .pointwise _ => differing
  | .scaleBias _ _ => differing
  | .activation => differing
  | .reshape =>
      inputs.head?.bind fun input =>
        if input.tensor.shape.elementCount == output.elementCount then none
        else some (.countChanges input.tensor.shape output)
  | _ => none

/-- The record of a stage with a given index. -/
def encode (index : Nat) (nodes : List Node) (binding : Binding) :
    Except ProgramError Descriptor :=
  match nodes with
  | [] => .error (.invalidOperand index .emptyStage)
  | primary :: folded =>
      let needed := binding.channels.length
      if needed > Register.Standard.channelCount then
        .error (.channelOverflow index needed Register.Standard.channelCount)
      else match shapeDefect? primary (binding.inputs.take primary.operands.length) with
        | some defect => .error (.shapeMismatch index defect)
        | none =>
            match Descriptor.empty.assigned (assignments primary folded binding) with
            | .error error => .error (.invalidRecord index error)
            | .ok descriptor => .ok { descriptor with lookup := lookup? nodes }

end Stage
end TileProgram
