import TileProgram.Activation
import TileProgram.Binary.Half
import TileProgram.Tensor

/-!
# Networks and their operations

A network is a list of nodes, each of which applies one of a closed set of
operations.
-/

/-!
## Operations

The closed set of operations of the engine.  Each has a class code and a
variant code, by which a record names it, and a rule for the number of its
operands.
-/

namespace TileProgram
namespace Network

/-- How pooling reduces a window. -/
inductive PoolMode where
  | max
  | average
  deriving DecidableEq

namespace PoolMode

/-- All modes, by increasing code. -/
def all : List PoolMode := [.max, .average]

/-- The name of a mode. -/
def name : PoolMode → String
  | .max => "max"
  | .average => "avg"

/-- The variant code of a mode. -/
def code : PoolMode → Nat
  | .max => 0
  | .average => 1

end PoolMode

/-- A binary operation on elements. -/
inductive Pointwise where
  | add
  | subtract
  | multiply
  | max
  | min
  deriving DecidableEq

namespace Pointwise

/-- All binary operations, by increasing code. -/
def all : List Pointwise := [.add, .subtract, .multiply, .max, .min]

/-- The name of a binary operation. -/
def name : Pointwise → String
  | .add => "add"
  | .subtract => "sub"
  | .multiply => "mul"
  | .max => "max"
  | .min => "min"

/-- The variant code of a binary operation. -/
def code : Pointwise → Nat
  | .add => 0
  | .subtract => 1
  | .multiply => 2
  | .max => 3
  | .min => 4

end Pointwise

/-- What a normalization averages over. -/
inductive NormKind where
  | layer
  | instance_
  | batch
  | euclidean
  deriving DecidableEq

namespace NormKind

/-- All kinds, by increasing code. -/
def all : List NormKind := [.layer, .instance_, .batch, .euclidean]

/-- The name of a kind. -/
def name : NormKind → String
  | .layer => "layer"
  | .instance_ => "instance"
  | .batch => "batch"
  | .euclidean => "l2"

/-- The variant code of a kind. -/
def code : NormKind → Nat
  | .layer => 0
  | .instance_ => 1
  | .batch => 2
  | .euclidean => 3

end NormKind

/-- An operation with its parameters; pairs are horizontal first. -/
inductive Operation where
  | convolution (kernel stride : UInt32 × UInt32) (padding : Int32 × Int32) (groups : UInt32)
  | pooling (mode : PoolMode) (kernel stride : UInt32 × UInt32)
  | pointwise (operator : Pointwise)
  | concat (axis : UInt8)
  | reshape
  | transpose (mode : UInt8)
  | matrixProduct
  | scaleBias (scale bias : Binary.Single)
  | broadcast (mask : UInt8)
  | softmax (axis : UInt8)
  | normalization (kind : NormKind) (epsilon : Binary.Single)
  | activation
  deriving DecidableEq

namespace Operation

/-- The class code of an operation. -/
def classCode : Operation → Nat
  | .convolution .. => 1
  | .pooling .. => 2
  | .pointwise .. => 3
  | .concat .. => 4
  | .reshape => 5
  | .transpose .. => 6
  | .matrixProduct => 7
  | .scaleBias .. => 8
  | .broadcast .. => 9
  | .softmax .. => 10
  | .normalization .. => 11
  | .activation => 12

/-- The variant code of an operation. -/
def variantCode : Operation → Nat
  | .pooling mode _ _ => mode.code
  | .pointwise operator => operator.code
  | .normalization kind _ => kind.code
  | _ => 0

/-- Whether other operations may be folded into the record of this one. -/
def isPrimary : Operation → Bool
  | .convolution .. => true
  | .pooling .. => true
  | _ => false

/-- Whether this operation may be folded into the record of another one. -/
def isSecondary : Operation → Bool
  | .scaleBias .. => true
  | .activation => true
  | .pointwise .. => true
  | _ => false

/-- Whether a record has room for only one folded operation of this class. -/
def isSingleSlot : Operation → Bool
  | .scaleBias .. => true
  | .pointwise .. => true
  | _ => false

/-- Whether an operation may have a given number of operands. -/
def acceptsOperands (operation : Operation) (count : Nat) (hasWeights : Bool) : Bool :=
  match operation with
  | .pointwise _ => count == 2
  | .concat _ => 2 ≤ count
  | .matrixProduct => count == 2 || (count == 1 && hasWeights)
  | _ => count == 1

end Operation
end Network
end TileProgram

/-!
## Networks

A network is a list of input tensors and a list of nodes in execution order.
Each node applies an operation to inputs of the network or to results of other
nodes.
-/

namespace TileProgram
namespace Network

/-- Where a node reads an operand: an input of the network or the result of a node. -/
inductive Operand where
  | input (index : Nat)
  | node (index : Nat)
  deriving DecidableEq

/-- One operation of a network with its operands and its result. -/
structure Node where
  operation : Operation
  operands : List Operand
  output : Tensor
  activation : Activation
  weights : Option (List Binary.Single)
  samples : Option (List Binary.Single)
  deriving DecidableEq

end Network

/-- Input tensors and nodes in execution order. -/
structure Network where
  inputs : List Tensor
  nodes : List Network.Node
  deriving DecidableEq

namespace Network

/-- The tensor that an operand refers to. -/
def tensorOf? (network : Network) : Operand → Option Tensor
  | .input index => network.inputs[index]?
  | .node index => network.nodes[index]?.map Node.output

/-- All operands of all nodes, in order. -/
def operands (network : Network) : List Operand :=
  network.nodes.flatMap Node.operands

/-- How often the result of a node is read. -/
def readerCount (network : Network) (index : Nat) : Nat :=
  network.operands.count (.node index)

/-- How often each result is read, node by node. -/
def readerCounts (network : Network) : List Nat :=
  (List.range network.nodes.length).map network.readerCount

/-- The nodes whose results nobody reads, in order. -/
def outputNodes (network : Network) : List Nat :=
  (List.range network.nodes.length).filter fun index => network.readerCount index == 0

end Network
end TileProgram
