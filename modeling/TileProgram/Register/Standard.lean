import TileProgram.Register.Table

/-!
# The built-in register table

The registers of the first hardware generation, region by region in record
order.
-/

namespace TileProgram
namespace Register
namespace Standard

/-- An unsigned register of its own: region, label, byte, bit and width. -/
def unsigned (region : Region) (label : String) (byte bit width : Nat) : Field :=
  ⟨⟨region, label⟩, byte, bit, width, false, false⟩

/-- A two's complement register of its own. -/
def signed (region : Region) (label : String) (byte bit width : Nat) : Field :=
  ⟨⟨region, label⟩, byte, bit, width, true, false⟩

/-- A label with an index in brackets, followed by a text. -/
def indexed (label : String) (index : Nat) (rest : String) : String :=
  label ++ "[" ++ toString index ++ "]" ++ rest

/-- The number of kernel channels. -/
def channelCount : Nat := 16

/-- The task header and the link to the next record. -/
def header : List Field :=
  [ unsigned .header "TID" 0 0 16,
    unsigned .header "NID" 2 0 8,
    unsigned .header "LNID" 3 0 1,
    unsigned .header "EON" 3 1 1,
    unsigned .header "ExeCycles" 4 0 16,
    unsigned .header "NextSize" 6 0 9,
    unsigned .header "LogEvents" 8 0 24,
    unsigned .header "Exceptions" 12 0 24,
    unsigned .header "DebugLogEvents" 16 0 24,
    unsigned .header "DebugExceptions" 20 0 24,
    unsigned .header "DisallowAbort" 24 0 1,
    unsigned .header "TDSkip" 24 1 1,
    unsigned .header "KPC" 24 2 1,
    unsigned .header "SPL" 24 3 1,
    unsigned .header "TSR" 24 4 1,
    unsigned .header "SPC" 24 5 1,
    unsigned .header "DPC" 24 6 1,
    unsigned .header "TSE" 24 7 1,
    unsigned .header "NextPriority" 25 0 6,
    unsigned .header "TDE" 26 0 1,
    unsigned .header "SrcContextID" 28 0 8,
    unsigned .header "DstContextID" 29 0 8,
    unsigned .header "NextPointer" 32 0 32,
    unsigned .header "RBase0" 36 0 5,
    unsigned .header "RBE0" 36 5 1,
    unsigned .header "RBase1" 37 0 5,
    unsigned .header "RBE1" 37 5 1,
    unsigned .header "WBase" 38 0 5,
    unsigned .header "WBE" 38 5 1,
    unsigned .header "TBase" 39 0 5,
    unsigned .header "TBE" 39 5 1,
    unsigned .header "ENE" 40 0 3 ]

/-- The configuration of each kernel channel. -/
def channelConfiguration : List Field :=
  (List.range channelCount).flatMap fun channel =>
    [ unsigned .kernelSource (indexed "CoeffDMAConfig" channel ".En") (44 + 4 * channel) 0 1,
      unsigned .kernelSource (indexed "CoeffDMAConfig" channel ".CrH") (44 + 4 * channel) 4 2,
      unsigned .kernelSource (indexed "CoeffDMAConfig" channel ".CacheHint") (44 + 4 * channel) 6 4 ]

/-- The address of each kernel channel. -/
def channelAddress : List Field :=
  (List.range channelCount).map fun channel =>
    unsigned .kernelSource (indexed "CoeffBaseAddr" channel "") (108 + 4 * channel) 0 32

/-- The size of each kernel channel. -/
def channelSize : List Field :=
  (List.range channelCount).map fun channel =>
    unsigned .kernelSource (indexed "CoeffBfrSize" channel "") (172 + 4 * channel) 0 32

/-- The sixteen operand and coefficient channels, their addresses and sizes, then the rest of their region. -/
def kernelSource : List Field :=
  channelConfiguration ++ channelAddress ++ channelSize ++
  [ unsigned .kernelSource "PrefetchRate" 236 0 16,
    unsigned .kernelSource "EarlyTermEn" 238 0 1,
    unsigned .kernelSource "StopOnError" 238 1 1,
    unsigned .kernelSource "BiasBaseAddr" 240 0 32,
    unsigned .kernelSource "BiasBfrSize" 244 0 32 ]

/-- Shapes, element types, window geometry and the operation. -/
def common : List Field :=
  [ unsigned .common "InDim.Win" 296 0 15,
    unsigned .common "InDim.Hin" 298 0 15,
    unsigned .common "Cin" 300 0 17,
    unsigned .common "Cout" 304 0 17,
    unsigned .common "OutDim.Wout" 308 0 15,
    unsigned .common "OutDim.Hout" 310 0 15,
    unsigned .common "InDim.Din" 312 0 15,
    unsigned .common "OutDim.Dout" 314 0 15,
    unsigned .common "ChCfg.InFmt" 316 0 2,
    unsigned .common "ChCfg.Src2InFmt" 316 2 2,
    unsigned .common "ChCfg.OutFmt" 316 4 2,
    unsigned .common "ConvCfg.Kw" 320 0 5,
    unsigned .common "ConvCfg.Kh" 320 5 5,
    unsigned .common "ConvCfg.OCGSize" 321 2 3,
    unsigned .common "ConvCfg.Sx" 321 5 2,
    unsigned .common "ConvCfg.Sy" 321 7 2,
    signed .common "ConvCfg.Px" 322 1 6,
    signed .common "ConvCfg.Py" 322 7 6,
    unsigned .common "GroupConvCfg.NumGroups" 324 0 13,
    unsigned .common "GroupConvCfg.UnicastEn" 326 0 1,
    unsigned .common "GroupConvCfg.ElemMultMode" 326 1 1,
    unsigned .common "TileCfg.TileHeight" 328 0 15,
    unsigned .common "Batch" 332 0 12,
    unsigned .common "Cfg.SmallSourceMode" 336 0 1,
    unsigned .common "Cfg.ShPref" 336 2 3,
    unsigned .common "Cfg.ShMin" 337 0 3,
    unsigned .common "Cfg.ShMax" 337 3 3,
    unsigned .common "Cfg.ActiveNE" 338 0 3,
    unsigned .common "Cfg.ContextSwitchIn" 338 3 1,
    unsigned .common "Cfg.ContextSwitchOut" 338 5 1,
    unsigned .common "Cfg.AccDoubleBufEn" 338 6 1,
    unsigned .common "TaskInfo.TaskID" 340 0 16,
    unsigned .common "TaskInfo.TaskQoS" 342 0 4,
    unsigned .common "TaskInfo.TaskPriority" 342 4 4,
    unsigned .common "DPE.Category" 344 0 4,
    unsigned .common "OpCfg.OpType" 348 0 5,
    unsigned .common "OpCfg.SubOp" 348 5 4,
    unsigned .common "OpCfg.FusedStages" 349 1 3,
    unsigned .common "OpCfg.TransposeMode" 349 4 4,
    unsigned .common "OpCfg.Axis" 350 0 3,
    unsigned .common "OpCfg.BroadcastMask" 350 3 5,
    unsigned .common "OpCfg.ConcatOffset" 352 0 16,
    unsigned .common "OpCfg.NormEps" 354 0 16,
    unsigned .common "OpCfg.PoolKw" 356 0 5,
    unsigned .common "OpCfg.PoolKh" 356 5 5 ]

/-- The two source surfaces. -/
def tileSource : List Field :=
  [ unsigned .tileSource "Src1DmaConfig.En" 364 0 1,
    unsigned .tileSource "Src1DmaConfig.CrH" 364 4 2,
    unsigned .tileSource "Src1DmaConfig.DependencyMode" 365 0 2,
    unsigned .tileSource "Src2DmaConfig.En" 368 0 1,
    unsigned .tileSource "Src2DmaConfig.CrH" 368 4 2,
    unsigned .tileSource "Src2DmaConfig.DependencyMode" 369 0 2,
    unsigned .tileSource "Src1BaseAddr" 372 0 32,
    unsigned .tileSource "Src1RowStride" 376 0 32,
    unsigned .tileSource "Src1PlaneStride" 380 0 32,
    unsigned .tileSource "Src1DepthStride" 384 0 32,
    unsigned .tileSource "Src1BatchStride" 388 0 32,
    unsigned .tileSource "Src2BaseAddr" 392 0 32,
    unsigned .tileSource "Src2RowStride" 396 0 32,
    unsigned .tileSource "Src2PlaneStride" 400 0 32,
    unsigned .tileSource "Src2DepthStride" 404 0 32,
    unsigned .tileSource "Src2BatchStride" 408 0 32,
    unsigned .tileSource "Src1Fmt.FmtMode" 412 0 2,
    unsigned .tileSource "Src1Fmt.Truncate" 412 4 2,
    unsigned .tileSource "Src1Fmt.Shift" 413 0 1,
    unsigned .tileSource "Src1Fmt.MemFmt" 413 4 2,
    unsigned .tileSource "Src1Fmt.OffsetCh" 414 0 3,
    unsigned .tileSource "Src1Fmt.Interleave" 415 0 4,
    unsigned .tileSource "Src2Fmt.FmtMode" 416 0 2,
    unsigned .tileSource "Src2Fmt.Truncate" 416 4 2,
    unsigned .tileSource "Src2Fmt.Shift" 417 0 1,
    unsigned .tileSource "Src2Fmt.MemFmt" 417 4 2,
    unsigned .tileSource "Src2Fmt.OffsetCh" 418 0 3,
    unsigned .tileSource "Src2Fmt.Interleave" 419 0 4,
    unsigned .tileSource "Src1PixelOffset" 420 0 16,
    unsigned .tileSource "Src2PixelOffset" 422 0 16 ]

/-- The scratch cache: bases, strides and residency hints. -/
def cache : List Field :=
  [ unsigned .cache "L2Cfg.InputReLU" 480 0 1,
    unsigned .cache "L2Cfg.PaddingMode" 480 2 2,
    unsigned .cache "SourceCfg.SourceType" 484 0 2,
    unsigned .cache "SourceCfg.Dependent" 484 2 2,
    unsigned .cache "SourceCfg.AliasConvSrc" 484 4 1,
    unsigned .cache "SourceCfg.AliasConvRslt" 484 5 1,
    unsigned .cache "SourceCfg.DMAFmt" 484 6 2,
    unsigned .cache "SourceCfg.Interleave" 485 0 4,
    unsigned .cache "SourceCfg.CmpVec" 485 4 4,
    unsigned .cache "SourceCfg.OffsetCh" 486 0 3,
    unsigned .cache "SourceBase" 488 0 32,
    unsigned .cache "SourceChannelStride" 492 0 32,
    unsigned .cache "SourceRowStride" 496 0 32,
    unsigned .cache "Source2Base" 500 0 32,
    unsigned .cache "Source2ChannelStride" 504 0 32,
    unsigned .cache "Source2RowStride" 508 0 32,
    unsigned .cache "ResultCfg.ResultType" 512 0 2,
    unsigned .cache "ResultCfg.L2BfrMode" 512 3 1,
    unsigned .cache "ResultCfg.AliasConvSrc" 512 4 1,
    unsigned .cache "ResultCfg.AliasConvRslt" 512 5 1,
    unsigned .cache "ResultCfg.DMAFmt" 512 6 2,
    unsigned .cache "ResultCfg.Interleave" 513 0 4,
    unsigned .cache "ResultBase" 516 0 32,
    unsigned .cache "ResultChannelStride" 520 0 32,
    unsigned .cache "ResultRowStride" 524 0 32,
    unsigned .cache "Residency.Src1" 528 0 2,
    unsigned .cache "Residency.Src2" 528 2 2,
    unsigned .cache "Residency.Result" 528 4 2 ]

/-- The arithmetic engine: modes, scalars and the activation. -/
def engine : List Field :=
  [ unsigned .engine "KernelCfg.KernelFmt" 556 0 2,
    unsigned .engine "KernelCfg.PalettizedEn" 556 2 1,
    unsigned .engine "KernelCfg.PalettizedBits" 556 4 4,
    unsigned .engine "KernelCfg.SparseFmt" 557 0 1,
    unsigned .engine "KernelCfg.GroupKernelReuse" 557 2 1,
    unsigned .engine "MACCfg.OpMode" 560 0 3,
    unsigned .engine "MACCfg.KernelMode" 560 3 1,
    unsigned .engine "MACCfg.BiasMode" 560 4 1,
    unsigned .engine "MACCfg.MatrixBiasEn" 560 6 1,
    unsigned .engine "MACCfg.BinaryPoint" 561 0 5,
    unsigned .engine "MACCfg.PostScaleMode" 561 6 1,
    unsigned .engine "MACCfg.NonlinearMode" 562 0 6,
    unsigned .engine "MatrixVectorBias" 564 0 16,
    unsigned .engine "AccBias" 566 0 16,
    unsigned .engine "PostScale" 568 0 16,
    unsigned .engine "ActParamA" 570 0 16,
    unsigned .engine "ActParamB" 572 0 16,
    unsigned .engine "LutEntries" 574 0 10 ]

/-- The destination surface. -/
def tileDestination : List Field :=
  [ unsigned .tileDestination "DstDmaConfig.En" 600 0 1,
    unsigned .tileDestination "DstDmaConfig.CrH" 600 4 2,
    unsigned .tileDestination "DstDmaConfig.L2BfrMode" 600 6 1,
    unsigned .tileDestination "DstBaseAddr" 604 0 32,
    unsigned .tileDestination "DstRowStride" 608 0 32,
    unsigned .tileDestination "DstPlaneStride" 612 0 32,
    unsigned .tileDestination "DstDepthStride" 616 0 32,
    unsigned .tileDestination "DstBatchStride" 620 0 32,
    unsigned .tileDestination "DstFmt.FmtMode" 624 0 2,
    unsigned .tileDestination "DstFmt.Truncate" 624 4 2,
    unsigned .tileDestination "DstFmt.Shift" 625 0 1,
    unsigned .tileDestination "DstFmt.MemFmt" 625 4 2,
    unsigned .tileDestination "DstFmt.OffsetCh" 626 0 3,
    unsigned .tileDestination "DstFmt.ZeroPadLast" 626 4 1,
    unsigned .tileDestination "DstFmt.ZeroPadFirst" 626 5 1,
    unsigned .tileDestination "DstFmt.CmpVecFill" 626 6 1,
    unsigned .tileDestination "DstFmt.Interleave" 627 0 4,
    unsigned .tileDestination "DstFmt.CmpVec" 627 4 4 ]

end Standard

/-- The table of the first hardware generation. -/
def Table.standard : Table :=
  ⟨Standard.header ++ Standard.kernelSource ++ Standard.common ++ Standard.tileSource ++
    Standard.cache ++ Standard.engine ++ Standard.tileDestination⟩

end Register
end TileProgram
