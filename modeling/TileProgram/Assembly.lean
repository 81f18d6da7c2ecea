import TileProgram.Container.Basic
import TileProgram.Layout.Allocator
import TileProgram.Network.Validity
import TileProgram.Stage.Encoding
import TileProgram.Stage.Plan

/-!
# Assembling programs

A network becomes a container in steps: its nodes are grouped into stages,
inputs and results are placed in device memory, residency is planned, every
stage is encoded as one record, weights and lookup tables are packed into the
data section, and the records are chained and checked.
-/

namespace TileProgram
namespace Assembly

open Network Stage Container

/-- The stage, if any, whose result is the result of a node. -/
def producer? (stages : List Stage) (node : Nat) : Option Nat :=
  stages.findIdx? fun stage => stage.output == node

/-- What an operand of a node reads. -/
def sourceOf (stages : List Stage) (node : Nat) :
    Operand → Except ProgramError Residency.Source
  | .input index => .ok (.input index)
  | .node index =>
      match producer? stages index with
      | some stage => .ok (.stage stage)
      | none => .error (.invalidOperand node (.foldedOperand index))

/-- What a node of a stage reads from outside it; a folded node reads the node before it within the record. -/
def nodeReads (network : Network) (stages : List Stage) (stage : Stage) (index : Nat) :
    Except ProgramError (List Residency.Source) :=
  let operands := ((network.nodes[index]?).map Node.operands).getD []
  let outside :=
    if index == stage.primary then operands
    else operands.filter fun operand => operand != .node (index - 1)
  outside.mapM (sourceOf stages index)

/-- What each stage reads, in lane order. -/
def stageReads (network : Network) (stages : List Stage) :
    Except ProgramError Residency.Reads :=
  stages.mapM fun stage => do
    return (← stage.nodes.mapM (nodeReads network stages stage)).flatten

/-- Places a tensor on behalf of a record. -/
def place (policy : Layout.Policy) (allocator : Layout.Allocator) (index : Nat)
    (tensor : Tensor) : Except ProgramError (Placed × Layout.Allocator) :=
  let extent := policy.extent tensor
  let tooLarge (name : Register.Name) : ProgramError :=
    .invalidRecord index (.fieldOverflow name extent.size 32)
  if extent.size < UInt32.size then
    match allocator.place? extent.size with
    | none => .error (tooLarge Registers.destinationBase)
    | some (base, next) =>
        .ok (⟨tensor, ⟨base, extent.strides, 1⟩, UInt32.ofNat extent.size⟩, next)
  else .error (tooLarge Registers.destinationStrides.batch)

/-- Places tensors one after another, each on behalf of a record. -/
def placeAll (policy : Layout.Policy) (allocator : Layout.Allocator) :
    List (Nat × Tensor) → Except ProgramError (List Placed × Layout.Allocator)
  | [] => .ok ([], allocator)
  | (index, tensor) :: rest => do
      let (placed, next) ← place policy allocator index tensor
      let (others, last) ← placeAll policy next rest
      return (placed :: others, last)

/-- The tensor of a stage's result. -/
def resultTensor (network : Network) (stage : Stage) : Tensor :=
  ((network.nodes[stage.output]?).map Node.output).getD default

/-- Where inputs and results are placed. -/
structure Placement where
  inputs : List Placed
  results : List Placed
  deriving DecidableEq

namespace Placement

/-- The place of what a stage reads. -/
def lookup (placement : Placement) : Residency.Source → Placed
  | .input index => (placement.inputs[index]?).getD default
  | .stage index => (placement.results[index]?).getD default

end Placement

/-- Places the inputs of a network, then the results of its stages. -/
def placeNetwork (policy : Layout.Policy) (network : Network) (stages : List Stage) :
    Except ProgramError Placement := do
  let start := Layout.Allocator.ofPolicy policy
  let (placedInputs, next) ←
    placeAll policy start (network.inputs.map fun tensor => (0, tensor))
  let (placedResults, _) ←
    placeAll policy next (stages.mapIdx fun index stage => (index, resultTensor network stage))
  return ⟨placedInputs, placedResults⟩

/-- The relocations, data and records so far. -/
structure Draft where
  relocations : List Relocation
  data : Bytes
  records : List Descriptor
  deriving DecidableEq

namespace Draft

/-- Appends a blob to the data section, aligned, on behalf of a record. -/
def pushBlob (draft : Draft) (alignment index : Nat) (blob : Bytes) :
    Except ProgramError (ChannelData × Draft) :=
  let start := Layout.alignUp draft.data.length alignment
  let overflow (value : Nat) : ProgramError :=
    .invalidRecord index (.fieldOverflow Registers.channelOffsets value 32)
  if start ≥ UInt32.size then .error (overflow start)
  else if blob.length ≥ UInt32.size then .error (overflow blob.length)
  else
    .ok (⟨UInt32.ofNat start, UInt32.ofNat blob.length⟩,
      { draft with data := Bytes.resize draft.data start ++ blob })

/-- Appends a blob and its relocation. -/
def addBlob (draft : Draft) (alignment index : Nat) (kind : RelocationKind) (word : String)
    (blob : Bytes) : Except ProgramError (ChannelData × Draft) := do
  let (data, next) ← draft.pushBlob alignment index blob
  let relocation := Relocation.ofBlob kind index (word ++ toString index) data
  return (data, { next with relocations := next.relocations ++ [relocation] })

/-- Appends the weights of a stage, if its first node has any. -/
def addWeights (draft : Draft) (alignment index : Nat) (primary : Option Node) :
    Except ProgramError (Option ChannelData × Draft) :=
  match primary.bind Node.weights with
  | none => .ok (none, draft)
  | some weights => do
      let blob := Binary.Half.listToBytes (weights.map Binary.Single.toHalf)
      let (data, next) ← draft.addBlob alignment index .weight "weights" blob
      return (some data, next)

/-- Appends the lookup table of a record, if it has one. -/
def addTable (draft : Draft) (alignment index : Nat) (record : Descriptor) :
    Except ProgramError Draft :=
  match record.lookup with
  | none => .ok draft
  | some table => do
      return (← draft.addBlob alignment index .lookupTable "lut" table.toBytes).2

/-- Encodes a stage and appends its record and blobs. -/
def addStage (draft : Draft) (alignment index : Nat) (nodes : List Node)
    (inputs : List Placed) (output : Placed) (hints : Residency.StageHints) :
    Except ProgramError Draft := do
  let (weights, withWeights) ← draft.addWeights alignment index nodes.head?
  let record ← Stage.encode index nodes ⟨inputs, output, weights, hints⟩
  let withTable ← withWeights.addTable alignment index record
  return { withTable with records := withTable.records ++ [record] }

end Draft

/-- Encodes stages from a given index on. -/
def encodeFrom (alignment : Nat) (network : Network) (placement : Placement)
    (reads : Residency.Reads) (hints : List Residency.StageHints) (draft : Draft) (index : Nat) :
    List Stage → Except ProgramError Draft
  | [] => .ok draft
  | stage :: rest => do
      let inputs := ((reads[index]?).getD []).map placement.lookup
      let next ← draft.addStage alignment index (stage.nodesOf network) inputs
        (placement.lookup (.stage index)) ((hints[index]?).getD default)
      encodeFrom alignment network placement reads hints next (index + 1) rest

/-- A numbered surface that is shared with the caller. -/
def surfaceRelocation (word : String) (number : Nat) (placed : Placed) : Relocation :=
  .ofSurface (word ++ toString number) placed.surface.base.toNat placed.size.toNat

/-- The relocations of the inputs. -/
def inputRelocations (placement : Placement) : List Relocation :=
  placement.inputs.mapIdx (surfaceRelocation "input")

/-- The relocations of the results that nobody reads. -/
def outputRelocations (network : Network) (stages : List Stage) (placement : Placement) :
    List Relocation :=
  (network.outputNodes.mapIdx fun number node =>
    (producer? stages node).map fun stage =>
      surfaceRelocation "output" number (placement.lookup (.stage stage))).filterMap id

/-- The assignments that number a record of a given count and link it to the next one. -/
def chainAssignments (count index : Nat) : List Assignment :=
  Descriptor.taskIdAssignments index ++
    if index + 1 < count then Descriptor.nextAssignments (recordOffset (index + 1))
    else Descriptor.lastAssignments

/-- Numbers and links records from a given index on. -/
def chainFrom (count index : Nat) : List Descriptor → Except ProgramError (List Descriptor)
  | [] => .ok []
  | record :: rest => do
      let linked ←
        (record.assigned (chainAssignments count index)).mapError (.invalidRecord index)
      return linked :: (← chainFrom count (index + 1) rest)

/-- Assembles a network under a policy. -/
def assemble (policy : Layout.Policy) (network : Network) : Except ProgramError Container := do
  policy.validate
  network.validate
  let stages ← Stage.plan policy.fusion network
  let reads ← stageReads network stages
  let placement ← placeNetwork policy network stages
  let start : Draft := ⟨inputRelocations placement, [], []⟩
  let draft ← encodeFrom policy.weightAlignment.toNat network placement reads
    (Residency.Reads.plan reads) start 0 stages
  let records ← chainFrom draft.records.length 0 draft.records
  Container.validateFrom 0 records
  Residency.verify records
  Container.ofRecords records
    (draft.relocations ++ outputRelocations network stages placement) draft.data

end Assembly
end TileProgram
