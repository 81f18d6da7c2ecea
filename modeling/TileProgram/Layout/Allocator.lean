import TileProgram.ProgramError

/-!
# Layouts of surfaces

A policy says how surfaces are aligned and how far apart their parts are; an
allocator places one surface after another.
-/

/-!
## Alignment
-/

namespace TileProgram
namespace Layout

/-- Raises a value to the next multiple of an alignment that is a power of two, by clearing the low bits. -/
def alignUp (value alignment : Nat) : Nat :=
  let raised := value + alignment - 1
  raised - (raised &&& (alignment - 1))

/-- Whether a number is a power of two. -/
def isPowerOfTwo (value : Nat) : Bool :=
  Nat.pow 2 value.log2 == value

end Layout
end TileProgram

/-!
## Layout policies

A policy says where surfaces begin in device memory, how surfaces and weights
are aligned, and whether operations may be folded.  It also determines the
strides and the padded size of every surface: rows are aligned, and each outer
stride is a multiple of the next inner one.
-/

namespace TileProgram
namespace Layout

/-- The choices of the assembler. -/
structure Policy where
  baseAddress : UInt32
  alignment : UInt32
  weightAlignment : UInt32
  fusion : Bool
  deriving DecidableEq

namespace Policy

/-- Addresses from zero, everything aligned to 64 bytes, folding allowed. -/
def standard : Policy := ⟨0, 0x40, 0x40, true⟩

/-- The least alignment of a surface. -/
def leastAlignment : Nat := 0x40

/-- What is wrong with a policy, if anything. -/
def defect? (policy : Policy) : Option OperandDefect :=
  let alignment := policy.alignment.toNat
  let weightAlignment := policy.weightAlignment.toNat
  let base := policy.baseAddress.toNat
  if !isPowerOfTwo alignment || alignment % leastAlignment != 0 then
    some (.badAlignment alignment)
  else if !isPowerOfTwo weightAlignment then some (.badWeightAlignment weightAlignment)
  else if base % alignment != 0 then some (.unalignedBase base alignment)
  else none

/-- Checks a policy. -/
def validate (policy : Policy) : Except ProgramError Unit :=
  match policy.defect? with
  | some defect => .error (.invalidOperand 0 defect)
  | none => .ok ()

/-- The distances between neighbours of a surface and its size, before they are cut to 32 bits. -/
structure Extent where
  row : Nat
  plane : Nat
  depth : Nat
  batch : Nat
  size : Nat
  deriving DecidableEq

/-- The extent of a tensor: rows are aligned and everything else follows from them. -/
def extent (policy : Policy) (tensor : Tensor) : Extent :=
  let shape := tensor.shape
  let row := alignUp (shape.column.toNat * tensor.elementType.size) policy.alignment.toNat
  let plane := row * shape.row.toNat
  let depth := plane * shape.plane.toNat
  let batch := depth * shape.depth.toNat
  ⟨row, plane, depth, batch, batch * shape.group.toNat⟩

/-- A number of 32 bits, the greatest one if it does not fit. -/
def clamp (value : Nat) : UInt32 :=
  if value < UInt32.size then UInt32.ofNat value else 0xFFFFFFFF

/-- The strides of an extent as registers hold them. -/
def Extent.strides (extent : Extent) : Strides :=
  ⟨clamp extent.row, clamp extent.plane, clamp extent.depth, clamp extent.batch⟩

end Policy
end Layout
end TileProgram

/-!
## Placing surfaces

Surfaces are placed one after another from the base address on.  The address
space has 32 bits; a surface may end exactly where it ends.
-/

namespace TileProgram
namespace Layout

/-- The first free address, which may be one past the address space, and the alignment of surfaces. -/
structure Allocator where
  next : Nat
  alignment : Nat
  deriving DecidableEq

namespace Allocator

/-- An allocator that has placed nothing. -/
def ofPolicy (policy : Policy) : Allocator :=
  ⟨policy.baseAddress.toNat, policy.alignment.toNat⟩

/-- The size of the address space. -/
def spaceSize : Nat := UInt32.size

/-- Places a surface, or nothing if the space is used up; a surface of no bytes takes one. -/
def place? (allocator : Allocator) (size : Nat) : Option (UInt32 × Allocator) :=
  let stop := alignUp (allocator.next + max size 1) allocator.alignment
  if allocator.next < spaceSize ∧ stop ≤ spaceSize then
    some (UInt32.ofNat allocator.next, { allocator with next := stop })
  else none

end Allocator
end Layout
end TileProgram
