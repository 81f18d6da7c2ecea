import TileProgram.Decimal.Shortest
import TileProgram.Network.Basic

/-!
# Operations and operands in messages

Messages show an operation with the names and values of its parameters.
-/

namespace TileProgram
namespace Network

open Decimal

/-- Numbers in messages are positional when the power of ten of their first digit is from -4 to 15, and a tie goes up. -/
def messageLayout : Layout := ⟨-4, 15, .upward⟩

/-- A written decimal in a message; an exponent has no sign unless it is negative. -/
def writtenText (written : Written) : String :=
  let fraction :=
    if written.fraction.isEmpty then "" else "." ++ textOf written.fraction
  let exponent :=
    match written.exponent with
    | none => ""
    | some power => "e" ++ toString power
  textOf written.whole ++ fraction ++ exponent

/-- A number in a message. -/
def numberText (number : Binary.Single) : String :=
  if number.isNaN then "NaN"
  else
    let magnitude :=
      if number.isFinite then
        writtenText (messageLayout.write Binary.Format.single number.magnitude)
      else "inf"
    if number.isNegative then "-" ++ magnitude else magnitude

/-- A pair in brackets. -/
def pairText (first second : String) : String :=
  "[" ++ first ++ ", " ++ second ++ "]"

/-- A pair of extents. -/
def extentsText (pair : UInt32 × UInt32) : String :=
  pairText (toString pair.1.toNat) (toString pair.2.toNat)

/-- A pair of paddings. -/
def paddingText (pair : Int32 × Int32) : String :=
  pairText (toString pair.1.toInt) (toString pair.2.toInt)

/-- A name with named parameters in braces. -/
def parametersText (name : String) (parameters : List (String × String)) : String :=
  name ++ " \x7b " ++
    String.intercalate ", " (parameters.map fun parameter => parameter.1 ++ ": " ++ parameter.2) ++
    " \x7d"

/-- A pooling mode in a message. -/
def PoolMode.text : PoolMode → String
  | .max => "Max"
  | .average => "Avg"

/-- A binary operation in a message. -/
def Pointwise.text : Pointwise → String
  | .add => "Add"
  | .subtract => "Sub"
  | .multiply => "Mul"
  | .max => "Max"
  | .min => "Min"

/-- A kind of normalization in a message. -/
def NormKind.text : NormKind → String
  | .layer => "Layer"
  | .instance_ => "Instance"
  | .batch => "Batch"
  | .euclidean => "L2"

/-- An operation in a message. -/
def Operation.text : Operation → String
  | .convolution kernel stride padding groups =>
      parametersText "Convolution"
        [ ("kernel", extentsText kernel), ("stride", extentsText stride),
          ("padding", paddingText padding), ("groups", toString groups.toNat) ]
  | .pooling mode kernel stride =>
      parametersText "Pooling"
        [("mode", mode.text), ("kernel", extentsText kernel), ("stride", extentsText stride)]
  | .pointwise operator => parametersText "ElementWise" [("op", operator.text)]
  | .concat axis => parametersText "Concat" [("axis", toString axis.toNat)]
  | .reshape => "Reshape"
  | .transpose mode => parametersText "Transpose" [("mode", toString mode.toNat)]
  | .matrixProduct => "MatMul"
  | .scaleBias scale bias =>
      parametersText "ScaleBias" [("scale", numberText scale), ("bias", numberText bias)]
  | .broadcast mask => parametersText "Broadcast" [("mask", toString mask.toNat)]
  | .softmax axis => parametersText "Softmax" [("axis", toString axis.toNat)]
  | .normalization kind epsilon =>
      parametersText "Normalization" [("kind", kind.text), ("eps", numberText epsilon)]
  | .activation => "Activation"

/-- An operand in a message. -/
def Operand.text : Operand → String
  | .input index => "Input(" ++ toString index ++ ")"
  | .node index => "Op(" ++ toString index ++ ")"

end Network
end TileProgram
