import TileProgram.Register.Field

/-!
# Strided surfaces

A surface in device memory as a tile lane sees it: a base address, the distance
in bytes between neighbours along each outer axis, and an interleave factor.
-/

namespace TileProgram

/-- The distances between rows, planes, depth slices and groups. -/
structure Strides where
  row : UInt32
  plane : UInt32
  depth : UInt32
  batch : UInt32
  deriving DecidableEq, Inhabited

/-- A surface in device memory. -/
structure StridedSurface where
  base : UInt32
  strides : Strides
  interleave : UInt8
  deriving DecidableEq, Inhabited

/-- The two sources of a record. -/
inductive SourceLane where
  | first
  | second
  deriving DecidableEq

/-- The part of memory that a kernel channel reads. -/
structure ChannelData where
  offset : UInt32
  length : UInt32
  deriving DecidableEq, Inhabited

end TileProgram
