import TileProgram.Register.Error

/-!
# Tensors

A tensor has an element type and a shape of five axes.  Shapes are written
outermost axis first: group, depth, plane, row, column.
-/

namespace TileProgram
namespace Tensor

/-- The element types of the engine. -/
inductive ElementType where
  | unsignedByte
  | signedByte
  | half
  deriving DecidableEq, Inhabited

namespace ElementType

/-- All element types, by increasing code. -/
def all : List ElementType :=
  [.unsignedByte, .signedByte, .half]

/-- The code of an element type in a format register. -/
def code : ElementType → Nat
  | .unsignedByte => 0
  | .signedByte => 1
  | .half => 2

/-- The name of an element type. -/
def name : ElementType → String
  | .unsignedByte => "uint8"
  | .signedByte => "int8"
  | .half => "float16"

/-- The bytes of one element. -/
def size : ElementType → Nat
  | .unsignedByte => 1
  | .signedByte => 1
  | .half => 2

/-- The element type of a name. -/
def ofName? (text : String) : Option ElementType :=
  all.find? fun type => type.name == text

/-- The element type of a code, or an error that names the register the code was found in. -/
def ofCode (field : String) (code : Nat) : Except Register.Error ElementType :=
  match all[code]? with
  | some type => .ok type
  | none => .error (.unsupportedType field code)

@[simp] theorem ofCode_code (field : String) (type : ElementType) :
    ofCode field type.code = .ok type := by
  cases type <;> rfl

end ElementType

/-- The extent of each axis. -/
structure Shape where
  group : UInt32
  depth : UInt32
  plane : UInt32
  row : UInt32
  column : UInt32
  deriving DecidableEq, Inhabited

namespace Shape

/-- The extents, outermost axis first. -/
def extents (shape : Shape) : List UInt32 :=
  [shape.group, shape.depth, shape.plane, shape.row, shape.column]

/-- The shape with given extents, if there are five of them. -/
def ofExtents? : List UInt32 → Option Shape
  | [group, depth, plane, row, column] => some ⟨group, depth, plane, row, column⟩
  | _ => none

/-- The number of elements. -/
def elementCount (shape : Shape) : Nat :=
  shape.group.toNat * shape.depth.toNat * shape.plane.toNat * shape.row.toNat *
    shape.column.toNat

/-- The text of a shape: its extents in parentheses. -/
def text (shape : Shape) : String :=
  "(" ++ String.intercalate "," (shape.extents.map fun extent => toString extent.toNat) ++ ")"

/-- A shape with a zero extent has no elements. -/
def isEmpty (shape : Shape) : Bool :=
  shape.extents.any (· == 0)

end Shape
end Tensor

/-- A shape with an element type. -/
structure Tensor where
  shape : Tensor.Shape
  elementType : Tensor.ElementType
  deriving DecidableEq, Inhabited

namespace Tensor

/-- The bytes of a tensor whose elements are packed without gaps. -/
def byteSize (tensor : Tensor) : Nat :=
  tensor.shape.elementCount * tensor.elementType.size

end Tensor
end TileProgram
