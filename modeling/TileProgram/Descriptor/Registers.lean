import TileProgram.Descriptor.Surface
import TileProgram.Register.Standard
import TileProgram.Residency.Planner

/-!
# The registers that a program uses

Names of the registers that hold the parts of an instruction.
-/

namespace TileProgram
namespace Registers

open Register

/-- The task number. -/
def taskId : Name := ⟨.header, "TID"⟩

/-- The position of the next record. -/
def nextPointer : Name := ⟨.header, "NextPointer"⟩

/-- The size of the next record in words. -/
def nextSize : Name := ⟨.header, "NextSize"⟩

/-- The flag of the last record of a network. -/
def lastOfNetwork : Name := ⟨.header, "LNID"⟩

/-- The flag of the end of a network. -/
def endOfNetwork : Name := ⟨.header, "EON"⟩

/-- Whether a kernel channel is in use. -/
def channelEnabled (channel : Nat) : Name :=
  ⟨.kernelSource, Standard.indexed "CoeffDMAConfig" channel ".En"⟩

/-- The registers that say where the data of kernel channels begins, as a whole. -/
def channelOffsets : Name := ⟨.kernelSource, "CoeffBaseAddr"⟩

/-- Where the data of a kernel channel begins. -/
def channelOffset (channel : Nat) : Name :=
  ⟨.kernelSource, Standard.indexed "CoeffBaseAddr" channel ""⟩

/-- The length of the data of a kernel channel. -/
def channelLength (channel : Nat) : Name :=
  ⟨.kernelSource, Standard.indexed "CoeffBfrSize" channel ""⟩

/-- The number of groups, shared by input and output. -/
def group : Name := ⟨.common, "Batch"⟩

/-- The columns of the input. -/
def inputColumn : Name := ⟨.common, "InDim.Win"⟩

/-- The rows of the input. -/
def inputRow : Name := ⟨.common, "InDim.Hin"⟩

/-- The planes of the input. -/
def inputPlane : Name := ⟨.common, "Cin"⟩

/-- The depth of the input. -/
def inputDepth : Name := ⟨.common, "InDim.Din"⟩

/-- The columns of the output. -/
def outputColumn : Name := ⟨.common, "OutDim.Wout"⟩

/-- The rows of the output. -/
def outputRow : Name := ⟨.common, "OutDim.Hout"⟩

/-- The planes of the output. -/
def outputPlane : Name := ⟨.common, "Cout"⟩

/-- The depth of the output. -/
def outputDepth : Name := ⟨.common, "OutDim.Dout"⟩

/-- The element type of the first source. -/
def inputFormat : Name := ⟨.common, "ChCfg.InFmt"⟩

/-- The element type of the second source. -/
def secondFormat : Name := ⟨.common, "ChCfg.Src2InFmt"⟩

/-- The element type of the result. -/
def outputFormat : Name := ⟨.common, "ChCfg.OutFmt"⟩

/-- The registers that hold an element type. -/
def formats : List Name := [inputFormat, secondFormat, outputFormat]

/-- The width of the window. -/
def kernelWidth : Name := ⟨.common, "ConvCfg.Kw"⟩

/-- The height of the window. -/
def kernelHeight : Name := ⟨.common, "ConvCfg.Kh"⟩

/-- The horizontal step of the window. -/
def stepAcross : Name := ⟨.common, "ConvCfg.Sx"⟩

/-- The vertical step of the window. -/
def stepDown : Name := ⟨.common, "ConvCfg.Sy"⟩

/-- The horizontal padding. -/
def paddingAcross : Name := ⟨.common, "ConvCfg.Px"⟩

/-- The vertical padding. -/
def paddingDown : Name := ⟨.common, "ConvCfg.Py"⟩

/-- The class of the operation. -/
def operationType : Name := ⟨.common, "OpCfg.OpType"⟩

/-- The variant within the class. -/
def operationVariant : Name := ⟨.common, "OpCfg.SubOp"⟩

/-- The number of operations folded into the record. -/
def foldedCount : Name := ⟨.common, "OpCfg.FusedStages"⟩

/-- The number of channel groups. -/
def groupCount : Name := ⟨.common, "GroupConvCfg.NumGroups"⟩

/-- Whether elements are multiplied. -/
def multiplyMode : Name := ⟨.common, "GroupConvCfg.ElemMultMode"⟩

/-- The width of a pooling window. -/
def poolWidth : Name := ⟨.common, "OpCfg.PoolKw"⟩

/-- The height of a pooling window. -/
def poolHeight : Name := ⟨.common, "OpCfg.PoolKh"⟩

/-- The axis of an operation. -/
def axis : Name := ⟨.common, "OpCfg.Axis"⟩

/-- The permutation of a transposition. -/
def transposeMode : Name := ⟨.common, "OpCfg.TransposeMode"⟩

/-- The axes of a broadcast. -/
def broadcastMask : Name := ⟨.common, "OpCfg.BroadcastMask"⟩

/-- The epsilon of a normalization. -/
def epsilon : Name := ⟨.common, "OpCfg.NormEps"⟩

/-- Whether a source is read. -/
def sourceEnabled : SourceLane → Name
  | .first => ⟨.tileSource, "Src1DmaConfig.En"⟩
  | .second => ⟨.tileSource, "Src2DmaConfig.En"⟩

/-- The base address of a source. -/
def sourceBase : SourceLane → Name
  | .first => ⟨.tileSource, "Src1BaseAddr"⟩
  | .second => ⟨.tileSource, "Src2BaseAddr"⟩

/-- The interleave factor of a source. -/
def sourceInterleave : SourceLane → Name
  | .first => ⟨.tileSource, "Src1Fmt.Interleave"⟩
  | .second => ⟨.tileSource, "Src2Fmt.Interleave"⟩

/-- The names of the four strides of a surface: row, plane, depth and batch. -/
structure StrideNames where
  row : Name
  plane : Name
  depth : Name
  batch : Name
  deriving DecidableEq

/-- The strides of a source. -/
def sourceStrides : SourceLane → StrideNames
  | .first =>
      ⟨⟨.tileSource, "Src1RowStride"⟩, ⟨.tileSource, "Src1PlaneStride"⟩,
        ⟨.tileSource, "Src1DepthStride"⟩, ⟨.tileSource, "Src1BatchStride"⟩⟩
  | .second =>
      ⟨⟨.tileSource, "Src2RowStride"⟩, ⟨.tileSource, "Src2PlaneStride"⟩,
        ⟨.tileSource, "Src2DepthStride"⟩, ⟨.tileSource, "Src2BatchStride"⟩⟩

/-- Whether the destination is written. -/
def destinationEnabled : Name := ⟨.tileDestination, "DstDmaConfig.En"⟩

/-- The base address of the destination. -/
def destinationBase : Name := ⟨.tileDestination, "DstBaseAddr"⟩

/-- The interleave factor of the destination. -/
def destinationInterleave : Name := ⟨.tileDestination, "DstFmt.Interleave"⟩

/-- The strides of the destination. -/
def destinationStrides : StrideNames :=
  ⟨⟨.tileDestination, "DstRowStride"⟩, ⟨.tileDestination, "DstPlaneStride"⟩,
    ⟨.tileDestination, "DstDepthStride"⟩, ⟨.tileDestination, "DstBatchStride"⟩⟩

/-- The residency hint of a lane. -/
def residency : Residency.Lane → Name
  | .first => ⟨.cache, "Residency.Src1"⟩
  | .second => ⟨.cache, "Residency.Src2"⟩
  | .result => ⟨.cache, "Residency.Result"⟩

/-- The names of a cached surface: base, distance between planes and distance between rows. -/
structure CacheNames where
  base : Name
  plane : Name
  row : Name
  deriving DecidableEq

/-- The cached view of a source. -/
def cacheSource : SourceLane → CacheNames
  | .first =>
      ⟨⟨.cache, "SourceBase"⟩, ⟨.cache, "SourceChannelStride"⟩, ⟨.cache, "SourceRowStride"⟩⟩
  | .second =>
      ⟨⟨.cache, "Source2Base"⟩, ⟨.cache, "Source2ChannelStride"⟩, ⟨.cache, "Source2RowStride"⟩⟩

/-- The cached view of the result. -/
def cacheResult : CacheNames :=
  ⟨⟨.cache, "ResultBase"⟩, ⟨.cache, "ResultChannelStride"⟩, ⟨.cache, "ResultRowStride"⟩⟩

/-- The selector of the activation. -/
def activationKind : Name := ⟨.engine, "MACCfg.NonlinearMode"⟩

/-- The first parameter of the activation. -/
def activationFirst : Name := ⟨.engine, "ActParamA"⟩

/-- The second parameter of the activation. -/
def activationSecond : Name := ⟨.engine, "ActParamB"⟩

/-- The binary operation that is folded into the record, counted from one. -/
def foldedPointwise : Name := ⟨.engine, "MACCfg.OpMode"⟩

/-- Whether a scalar is added to the accumulator. -/
def biasMode : Name := ⟨.engine, "MACCfg.BiasMode"⟩

/-- The scalar that is added. -/
def bias : Name := ⟨.engine, "AccBias"⟩

/-- Whether the result is scaled. -/
def scaleMode : Name := ⟨.engine, "MACCfg.PostScaleMode"⟩

/-- The scale of the result. -/
def scale : Name := ⟨.engine, "PostScale"⟩

/-- The number of entries of the attached lookup table. -/
def lookupLength : Name := ⟨.engine, "LutEntries"⟩

end Registers
end TileProgram
