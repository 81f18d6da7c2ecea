import TileProgram.ProgramError

/-!
# Valid networks

A network has at least one node and no empty input; each node reads inputs and
earlier results only, has a number of operands that its operation accepts, and
a result that is not empty.  The first failure in node order is reported.
-/

namespace TileProgram
namespace Network

/-- Whether an operand of a node refers to an input or to an earlier node. -/
def refersBack (network : Network) (index : Nat) : Operand → Bool
  | .input input => input < network.inputs.length
  | .node node => node < index

/-- Checks the number of operands of a node. -/
def Operation.checkOperands (operation : Operation) (index count : Nat) (hasWeights : Bool) :
    Except ProgramError Unit :=
  if operation.acceptsOperands count hasWeights then .ok ()
  else .error (.invalidOperand index (.badCount count operation))

/-- What is wrong with a node, if anything. -/
def nodeDefect? (network : Network) (index : Nat) (node : Node) : Option OperandDefect :=
  match node.operands.find? fun operand => !network.refersBack index operand with
  | some operand => some (.badReference operand)
  | none =>
      if !node.operation.acceptsOperands node.operands.length node.weights.isSome then
        some (.badCount node.operands.length node.operation)
      else if node.output.shape.isEmpty then some .emptyOutput
      else none

/-- The first empty input. -/
def emptyInput? (network : Network) : Option Nat :=
  network.inputs.findIdx? fun tensor => tensor.shape.isEmpty

/-- The first node with a defect. -/
def firstDefect? (network : Network) : Nat → List Node → Option (Nat × OperandDefect)
  | _, [] => none
  | index, node :: rest =>
      match network.nodeDefect? index node with
      | some defect => some (index, defect)
      | none => network.firstDefect? (index + 1) rest

/-- Checks a network. -/
def validate (network : Network) : Except ProgramError Unit :=
  if network.nodes.isEmpty then .error (.invalidOperand 0 .noNodes)
  else match network.emptyInput? with
    | some index => .error (.invalidOperand 0 (.emptyInput index))
    | none =>
        match network.firstDefect? 0 network.nodes with
        | some (index, defect) => .error (.invalidOperand index defect)
        | none => .ok ()

end Network
end TileProgram
