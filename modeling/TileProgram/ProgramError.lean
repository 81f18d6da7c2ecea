import TileProgram.Container.Defect
import TileProgram.Descriptor.Surface
import TileProgram.Files.Action
import TileProgram.Network.Text
import TileProgram.Register.Error
import TileProgram.Residency.Planner

/-!
# Why a program cannot be built or read

Every error is a cause with the data that its message needs; the message and
the exit code are functions of the cause.
-/

namespace TileProgram

/-- What is wrong with an operand, a node, or the layout that was asked for. -/
inductive OperandDefect where
  | noNodes
  | emptyInput (index : Nat)
  | badReference (operand : Network.Operand)
  | badCount (count : Nat) (operation : Network.Operation)
  | emptyOutput
  | emptyStage
  | foldedOperand (index : Nat)
  | badAlignment (alignment : Nat)
  | badWeightAlignment (alignment : Nat)
  | unalignedBase (base alignment : Nat)
  deriving DecidableEq

/-- How shapes are inconsistent with an operation. -/
inductive ShapeDefect where
  | operandDiffers (operand output : Tensor.Shape)
  | countChanges (input output : Tensor.Shape)
  deriving DecidableEq

/-- Why a program cannot be built or read. -/
inductive ProgramError where
  | invalidRecord (index : Nat) (error : Register.Error)
  | fusionShapeMismatch (index : Nat) (expected found : Tensor.Shape)
  | shapeMismatch (index : Nat) (defect : ShapeDefect)
  | channelOverflow (index needed limit : Nat)
  | residencyViolation (index : Nat) (lane : SourceLane) (hint : Residency.Hint) (base : Nat)
  | invalidOperand (index : Nat) (defect : OperandDefect)
  | truncated (part : Container.Part) (offset needed length : Nat)
  | cyclicChain (offset : Nat)
  | invalidContainer (defect : Container.Defect)
  | files (failure : Files.Failure)
  | description
  deriving DecidableEq

/-- The wording of an operand defect. -/
def OperandDefect.message : OperandDefect → String
  | .noNodes => "network has no operations"
  | .emptyInput index => "input " ++ toString index ++ " has an empty shape"
  | .badReference operand => operand.text ++ " does not refer to an input or an earlier op"
  | .badCount count operation =>
      toString count ++ " operand(s) is not valid for " ++ operation.text
  | .emptyOutput => "output shape is empty"
  | .emptyStage => "empty stage"
  | .foldedOperand index => "op " ++ toString index ++ " was folded and has no surface"
  | .badAlignment alignment =>
      "surface alignment " ++ Text.hexadecimal alignment ++
        " must be a power-of-two multiple of 0x40"
  | .badWeightAlignment alignment =>
      "weight alignment " ++ Text.hexadecimal alignment ++ " must be a power of two"
  | .unalignedBase base alignment =>
      "base address " ++ Text.hexadecimal base ++ " is not aligned to " ++
        Text.hexadecimal alignment

/-- The wording of a shape defect. -/
def ShapeDefect.message : ShapeDefect → String
  | .operandDiffers operand output =>
      "operand " ++ operand.text ++ " differs from output " ++ output.text
  | .countChanges input output =>
      "reshape " ++ input.text ++ " -> " ++ output.text ++ " changes element count"

/-- The name of a source in messages. -/
def SourceLane.name : SourceLane → String
  | .first => "Src1"
  | .second => "Src2"

namespace ProgramError

/-- The start of a message about a record. -/
def recordText (index : Nat) : String :=
  "TD[" ++ toString index ++ "]"

/-- The wording of an error. -/
def message : ProgramError → String
  | .invalidRecord index error => recordText index ++ ": " ++ error.message
  | .fusionShapeMismatch index expected found =>
      "op " ++ toString index ++ ": cannot fuse, shape " ++ found.text ++ " does not match " ++
        expected.text
  | .shapeMismatch index defect => recordText index ++ ": shape mismatch: " ++ defect.message
  | .channelOverflow index needed limit =>
      recordText index ++ ": needs " ++ toString needed ++ " kernel DMA channels, only " ++
        toString limit ++ " available"
  | .residencyViolation index lane hint base =>
      recordText index ++ " " ++ lane.name ++ ": hint " ++ hint.name ++ " assumes surface " ++
        Text.hexadecimal base ++ " is resident, but it was never allocated or was dropped"
  | .invalidOperand index defect =>
      "op " ++ toString index ++ ": invalid operand: " ++ defect.message
  | .truncated part offset needed length =>
      "container truncated: " ++ part.name ++ " at " ++ Text.hexadecimal offset ++ " needs " ++
        toString needed ++ " bytes, " ++ toString length ++ " available"
  | .cyclicChain offset =>
      "next-offset chain revisits record at " ++ Text.hexadecimal offset
  | .invalidContainer defect => "invalid container: " ++ defect.message
  | .files failure => "I/O error: " ++ failure.message
  | .description => "invalid network description"

/-- The name of the kind of an error. -/
def kind : ProgramError → String
  | .invalidRecord .. => "InvalidRecord"
  | .fusionShapeMismatch .. => "FusionShapeMismatch"
  | .shapeMismatch .. => "ShapeMismatch"
  | .channelOverflow .. => "ChannelOverflow"
  | .residencyViolation .. => "ResidencyViolation"
  | .invalidOperand .. => "InvalidOperand"
  | .truncated .. => "TruncatedContainer"
  | .cyclicChain .. => "CyclicChain"
  | .invalidContainer .. => "InvalidContainer"
  | .files .. => "Io"
  | .description => "Description"

/-- The exit code of a program that ends with an error: 3 for structure, 4 for containers, 6 for files. -/
def exitCode : ProgramError → Nat
  | .truncated .. => 4
  | .cyclicChain .. => 4
  | .invalidContainer .. => 4
  | .files .. => 6
  | _ => 3

/-- Whether an error is about the bytes of a container. -/
def isContainerError (error : ProgramError) : Bool :=
  error.exitCode == 4

end ProgramError
end TileProgram
