import TileProgram.Json.Decode
import TileProgram.Json.Printer
import TileProgram.Json.Reader
import TileProgram.Network.Basic

/-!
# Networks as JSON

A network is an object of input tensors and operations.  An operation's kind is
tagged by its type; parameters that have a usual value may be left out when
reading and are always written.
-/

namespace TileProgram

open Json

namespace Tensor

/-- Reads a shape: an array of five extents. -/
def Shape.decode : Decoder Shape :=
  fun value => (Decoder.list Decoder.word value).bind Shape.ofExtents?

/-- Reads an element type. -/
def ElementType.decode : Decoder ElementType :=
  Decoder.named Decoder.isNull ElementType.name ElementType.all

/-- Reads a tensor. -/
def decode : Decoder Tensor := fun value => do
  let entries ← Decoder.entries ["shape", "dtype"] value
  let shape ← Decoder.required entries "shape" Shape.decode
  let elementType ← Decoder.required entries "dtype" ElementType.decode
  return ⟨shape, elementType⟩

/-- The document of a tensor. -/
def encode (tensor : Tensor) : Value :=
  .ofMembers
    [ ("shape", .array (tensor.shape.extents.map fun extent => .ofNat extent.toNat)),
      ("dtype", .ofText tensor.elementType.name) ]

end Tensor

namespace Activation

/-- Reads an activation; missing parameters are zero. -/
def decode : Decoder Activation := fun value => do
  let entries ← Decoder.entries ["kind", "a", "b"] value
  let kind ← Decoder.required entries "kind" (Decoder.named Decoder.isNull Kind.name Kind.all)
  let first ← Decoder.withDefault entries "a" .zero Decoder.single
  let second ← Decoder.withDefault entries "b" .zero Decoder.single
  return ⟨kind, first, second⟩

/-- The document of an activation. -/
def encode (activation : Activation) : Value :=
  .ofMembers
    [ ("kind", .ofText activation.kind.name), ("a", .ofSingle activation.first),
      ("b", .ofSingle activation.second) ]

end Activation

namespace Network

namespace Operation

/-- A pair of extents. -/
def encodePair (pair : UInt32 × UInt32) : Value :=
  .array [.ofNat pair.1.toNat, .ofNat pair.2.toNat]

/-- A pair of paddings. -/
def encodePadding (pair : Int32 × Int32) : Value :=
  .array [.ofInt pair.1.toInt, .ofInt pair.2.toInt]

/-- The type of an operation. -/
def typeName : Operation → String
  | .convolution .. => "convolution"
  | .pooling .. => "pooling"
  | .pointwise .. => "element_wise"
  | .concat .. => "concat"
  | .reshape => "reshape"
  | .transpose .. => "transpose"
  | .matrixProduct => "mat_mul"
  | .scaleBias .. => "scale_bias"
  | .broadcast .. => "broadcast"
  | .softmax .. => "softmax"
  | .normalization .. => "normalization"
  | .activation => "activation"

/-- The parameters of an operation. -/
def encodeParameters : Operation → List (String × Value)
  | .convolution kernel stride padding groups =>
      [ ("kernel", encodePair kernel), ("stride", encodePair stride),
        ("padding", encodePadding padding), ("groups", .ofNat groups.toNat) ]
  | .pooling mode kernel stride =>
      [("mode", .ofText mode.name), ("kernel", encodePair kernel), ("stride", encodePair stride)]
  | .pointwise operator => [("op", .ofText operator.name)]
  | .concat axis => [("axis", .ofNat axis.toNat)]
  | .transpose mode => [("mode", .ofNat mode.toNat)]
  | .scaleBias scale bias => [("scale", .ofSingle scale), ("bias", .ofSingle bias)]
  | .broadcast mask => [("mask", .ofNat mask.toNat)]
  | .softmax axis => [("axis", .ofNat axis.toNat)]
  | .normalization kind epsilon => [("kind", .ofText kind.name), ("eps", .ofSingle epsilon)]
  | _ => []

/-- The document of an operation. -/
def encode (operation : Operation) : Value :=
  .ofMembers (("type", .ofText operation.typeName) :: operation.encodeParameters)

/-- An unsigned integer of 8 bits. -/
def decodeByte : Decoder UInt8 :=
  fun value => (Decoder.natural 8 value).map UInt8.ofNat

/-- The usual epsilon, one hundred thousandth. -/
def usualEpsilon : Binary.Single := ⟨0x3727C5AC⟩

/-- Reads the parameters of an operation of a given type from the rest of its document. -/
def decodeParameters (type : String) (rest : Value) : Option Operation :=
  let byte (key : String) : Option UInt8 :=
    (Decoder.entries [key] rest).bind fun entries => Decoder.required entries key decodeByte
  let unit (operation : Operation) : Option Operation :=
    match rest with
    | .object _ => some operation
    | .array [] => some operation
    | _ => none
  match type with
  | "convolution" => do
      let entries ← Decoder.entries ["kernel", "stride", "padding", "groups"] rest
      let kernel ← Decoder.required entries "kernel" (Decoder.pair Decoder.word)
      let stride ← Decoder.withDefault entries "stride" (1, 1) (Decoder.pair Decoder.word)
      let padding ←
        Decoder.withDefault entries "padding" (0, 0) (Decoder.pair Decoder.signedWord)
      let groups ← Decoder.withDefault entries "groups" 1 Decoder.word
      return .convolution kernel stride padding groups
  | "pooling" => do
      let entries ← Decoder.entries ["mode", "kernel", "stride"] rest
      let mode ← Decoder.required entries "mode"
        (Decoder.named Decoder.isNullOrEmpty PoolMode.name PoolMode.all)
      let kernel ← Decoder.required entries "kernel" (Decoder.pair Decoder.word)
      let stride ← Decoder.withDefault entries "stride" (1, 1) (Decoder.pair Decoder.word)
      return .pooling mode kernel stride
  | "element_wise" => do
      let entries ← Decoder.entries ["op"] rest
      let operator ← Decoder.required entries "op"
        (Decoder.named Decoder.isNullOrEmpty Pointwise.name Pointwise.all)
      return .pointwise operator
  | "concat" => (byte "axis").map .concat
  | "reshape" => unit .reshape
  | "transpose" => (byte "mode").map .transpose
  | "mat_mul" => unit .matrixProduct
  | "scale_bias" => do
      let entries ← Decoder.entries ["scale", "bias"] rest
      let scale ← Decoder.required entries "scale" Decoder.single
      let bias ← Decoder.required entries "bias" Decoder.single
      return .scaleBias scale bias
  | "broadcast" => (byte "mask").map .broadcast
  | "softmax" => (byte "axis").map .softmax
  | "normalization" => do
      let entries ← Decoder.entries ["kind", "eps"] rest
      let kind ← Decoder.required entries "kind"
        (Decoder.named Decoder.isNullOrEmpty NormKind.name NormKind.all)
      let epsilon ← Decoder.withDefault entries "eps" usualEpsilon Decoder.single
      return .normalization kind epsilon
  | "activation" => unit .activation
  | _ => none

/-- Takes the members with a given key out of an object. -/
def withoutKey (key : String) (members : List (Quoted × Value)) : List (Quoted × Value) :=
  members.filter fun member => member.1 != some key

/-- Reads an operation that lies inside a given number of open arrays and objects: an object with one type among its members, or an array that begins with the type. -/
def decode (outer : Nat) : Decoder Operation := fun value =>
  if value.canBeKept outer then
    match value with
    | .object members =>
        match members.filter fun member => member.1 == some "type" with
        | [(_, .text (some type))] => decodeParameters type (.object (withoutKey "type" members))
        | _ => none
    | .array (.text (some type) :: rest) => decodeParameters type (.array rest)
    | _ => none
  else none

end Operation

/-- Reads an operand: an object with one key. -/
def Operand.decode : Decoder Operand
  | .object [(some "input", value)] => (Decoder.natural 64 value).map .input
  | .object [(some "op", value)] => (Decoder.natural 64 value).map .node
  | _ => none

/-- The document of an operand. -/
def Operand.encode : Operand → Value
  | .input index => .ofMembers [("input", .ofNat index)]
  | .node index => .ofMembers [("op", .ofNat index)]

namespace Node

/-- Reads a node that lies inside a given number of open arrays and objects. -/
def decode (outer : Nat) : Decoder Node := fun value => do
  let entries ← Decoder.entries ["kind", "inputs", "output", "activation", "weights", "lut"] value
  let operation ← Decoder.required entries "kind" (Operation.decode (outer + 1))
  let operands ← Decoder.required entries "inputs" (Decoder.list Operand.decode)
  let output ← Decoder.required entries "output" Tensor.decode
  let activation ← Decoder.withDefault entries "activation" .none Activation.decode
  let numbers : Decoder (Option (List Binary.Single)) :=
    Decoder.optional (Decoder.list Decoder.single)
  let weights ← Decoder.withDefault entries "weights" none numbers
  let samples ← Decoder.withDefault entries "lut" none numbers
  return ⟨operation, operands, output, activation, weights, samples⟩

/-- A list of numbers that is left out when there is none. -/
def encodeNumbers (key : String) : Option (List Binary.Single) → List (String × Value)
  | none => []
  | some numbers => [(key, .array (numbers.map .ofSingle))]

/-- The document of a node. -/
def encode (node : Node) : Value :=
  .ofMembers
    ([ ("kind", node.operation.encode), ("inputs", .array (node.operands.map Operand.encode)),
       ("output", node.output.encode), ("activation", node.activation.encode) ] ++
      encodeNumbers "weights" node.weights ++ encodeNumbers "lut" node.samples)

/-- Reads a text that holds a list of nodes. -/
def listOfJson (text : String) : Option (List Node) :=
  (Json.read text).bind (Decoder.list (decode 1))

end Node

/-- Reads an operation that is a document by itself. -/
def Operation.ofJson (text : String) : Option Operation :=
  (Json.read text).bind (Operation.decode 0)

/-- Reads a network. -/
def decode : Decoder Network := fun value => do
  let entries ← Decoder.entries ["inputs", "ops"] value
  let inputs ← Decoder.required entries "inputs" (Decoder.list Tensor.decode)
  let nodes ← Decoder.required entries "ops" (Decoder.list (Node.decode 2))
  return ⟨inputs, nodes⟩

/-- The document of a network. -/
def encode (network : Network) : Value :=
  .ofMembers
    [ ("inputs", .array (network.inputs.map Tensor.encode)),
      ("ops", .array (network.nodes.map Node.encode)) ]

/-- The network that a text describes. -/
def ofJson (text : String) : Option Network :=
  (Json.read text).bind decode

/-- The text of a network on several lines. -/
def toJson (network : Network) : String :=
  network.encode.pretty

end Network
end TileProgram
