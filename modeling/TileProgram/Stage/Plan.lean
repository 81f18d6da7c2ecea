import TileProgram.ProgramError

/-!
# Grouping nodes into stages

A stage is a node together with the nodes that are folded into its record.  A
node is folded into the stage before it when that stage starts with a
convolution or pooling and still has room, the node reads the result of the
stage and nothing else does, and no node of the stage has an activation.  If
all that holds but shapes differ, the network is refused.
-/

namespace TileProgram

open Network

/-- A node and the nodes folded into its record, in order. -/
structure Stage where
  primary : Nat
  folded : List Nat
  deriving DecidableEq, Inhabited

namespace Stage

/-- The most nodes that one record can fold. -/
def greatestFolded : Nat := 7

/-- The node whose result is the result of the stage. -/
def output (stage : Stage) : Nat :=
  stage.folded.getLast?.getD stage.primary

/-- All nodes of a stage in order. -/
def nodes (stage : Stage) : List Nat :=
  stage.primary :: stage.folded

/-- Adds a folded node. -/
def fold (stage : Stage) (index : Nat) : Stage :=
  { stage with folded := stage.folded ++ [index] }

/-- The nodes of a network that a stage names. -/
def nodesOf (stage : Stage) (network : Network) : List Node :=
  stage.nodes.filterMap fun index => network.nodes[index]?

/-- Whether the record of a stage has its only slot for a class of operations in use. -/
def slotInUse (stage : Stage) (network : Network) (operation : Operation) : Bool :=
  operation.isSingleSlot && stage.folded.any fun index =>
    (network.nodes[index]?).any fun node => node.operation.classCode == operation.classCode

/-- Whether a node is to be folded into a stage, shapes apart. -/
def wantsToFold (network : Network) (stage : Stage) (node : Node) : Bool :=
  (network.nodes[stage.primary]?).any (fun primary => primary.operation.isPrimary) &&
    node.operation.isSecondary &&
    stage.folded.length < greatestFolded &&
    network.readerCount stage.output == 1 &&
    (stage.nodesOf network).all (fun member => member.activation.isNone) &&
    node.operands.count (.node stage.output) == 1 &&
    !stage.slotInUse network node.operation

/-- The shape of the other operand of a folded binary operation. -/
def otherShape? (network : Network) (stage : Stage) (node : Node) : Option Tensor.Shape :=
  match node.operation with
  | .pointwise _ =>
      ((node.operands.find? fun operand => operand != .node stage.output).bind
        network.tensorOf?).map Tensor.shape
  | _ => none

/-- The shape of a node to be folded that differs from the result of the stage. -/
def differingShape? (network : Network) (stage : Stage) (node : Node) (expected : Tensor.Shape) :
    Option Tensor.Shape :=
  ((otherShape? network stage node).toList ++ [node.output.shape]).find? fun shape =>
    shape != expected

/-- Decides whether a node is folded into a stage. -/
def folds (network : Network) (stage : Stage) (index : Nat) (node : Node) :
    Except ProgramError Bool :=
  if wantsToFold network stage node then
    match (network.nodes[stage.output]?).map fun tail => tail.output.shape with
    | none => .ok false
    | some expected =>
        match differingShape? network stage node expected with
        | some found => .error (.fusionShapeMismatch index expected found)
        | none => .ok true
  else .ok false

/-- Puts nodes, from a given index on, into stages; the stage that may still grow comes apart from the list. -/
def groupFrom (fusion : Bool) (network : Network) (current : Stage) (index : Nat) :
    List Node → Except ProgramError (List Stage)
  | [] => .ok [current]
  | node :: rest => do
      let folded ← if fusion then folds network current index node else pure false
      if folded then
        groupFrom fusion network (current.fold index) (index + 1) rest
      else
        return current :: (← groupFrom fusion network ⟨index, []⟩ (index + 1) rest)

/-- The stages of a network. -/
def plan (fusion : Bool) (network : Network) : Except ProgramError (List Stage) :=
  match network.nodes with
  | [] => .ok []
  | _ :: rest => groupFrom fusion network ⟨0, []⟩ 1 rest

end Stage
end TileProgram
