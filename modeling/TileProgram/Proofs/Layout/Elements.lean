import TileProgram.Proofs.Layout.Allocator

/-!
# Elements of a surface

The strides of a surface put each element of its tensor at a place of its own.
A surface is made of blocks side by side, and each of them is made of blocks in
the same way, from groups down to the elements of a row.  Rows are padded, and a
padded row is a block like any other.
-/

namespace TileProgram
namespace Layout

/-!
## Blocks side by side
-/

/-- Places that are given to some indices keep a distance, and all end in time. -/
structure Packs {Index : Type} (valid : Index → Prop) (offset : Index → Nat)
    (bytes size : Nat) : Prop where
  inside : ∀ index, valid index → offset index + bytes ≤ size
  apart : ∀ first second, valid first → valid second → first ≠ second →
    offset first + bytes ≤ offset second ∨ offset second + bytes ≤ offset first

namespace Packs

variable {Index Other : Type} {valid : Index → Prop} {offset : Index → Nat} {bytes size : Nat}

/-- Blocks of a length lie side by side. -/
theorem blocks (length count : Nat) :
    Packs (fun index => index < count) (fun index => index * length) length (count * length) where
  inside := by
    intro index valid
    rw [← Nat.succ_mul]
    exact Nat.mul_le_mul_right _ valid
  apart := by
    intro first second _ _ different
    rw [← Nat.succ_mul, ← Nat.succ_mul]
    rcases Nat.lt_or_gt_of_ne different with less | greater
    · exact .inl (Nat.mul_le_mul_right _ less)
    · exact .inr (Nat.mul_le_mul_right _ greater)

/-- Places that end in time also end before anything later. -/
theorem widen
    {larger : Nat}
    (packs : Packs valid offset bytes size)
    (le : size ≤ larger) :
    Packs valid offset bytes larger where
  inside := fun index isValid => Nat.le_trans (packs.inside index isValid) le
  apart := packs.apart

/-- Blocks side by side whose contents are packed. -/
theorem axis
    (packs : Packs valid offset bytes size)
    (count : Nat) :
    Packs (fun index : Nat × Index => index.1 < count ∧ valid index.2)
      (fun index => index.1 * size + offset index.2) bytes (size * count) where
  inside := by
    rintro ⟨block, index⟩ ⟨inCount, isValid⟩
    have ends := packs.inside index isValid
    have whole := (blocks size count).inside block inCount
    rw [Nat.mul_comm count] at whole
    dsimp only
    omega
  apart := by
    rintro ⟨block, index⟩ ⟨other, twin⟩ ⟨inCount, isValid⟩ ⟨otherIn, twinValid⟩ different
    have ends := packs.inside index isValid
    have twinEnds := packs.inside twin twinValid
    dsimp only
    by_cases same : block = other
    · subst same
      have distinct : index ≠ twin := fun equal => different (by rw [equal])
      rcases packs.apart index twin isValid twinValid distinct with before | behind
      · left
        omega
      · right
        omega
    · rcases (blocks size count).apart block other inCount otherIn same with before | behind
      · left
        omega
      · right
        omega

/-- Different indices may be renamed. -/
theorem comap
    (packs : Packs valid offset bytes size)
    (rename : Other → Index)
    (injective : ∀ first second, rename first = rename second → first = second) :
    Packs (fun index => valid (rename index)) (fun index => offset (rename index)) bytes size where
  inside := fun index => packs.inside (rename index)
  apart := by
    intro first second firstValid secondValid different
    exact packs.apart _ _ firstValid secondValid fun equal => different (injective _ _ equal)

end Packs

/-!
## Positions in a tensor
-/

/-- A position along each axis of a tensor. -/
structure Position where
  group : Nat
  depth : Nat
  plane : Nat
  row : Nat
  column : Nat
  deriving DecidableEq

namespace Position

/-- The numbers of a position, outermost axis first. -/
def axes (position : Position) : Nat × Nat × Nat × Nat × Nat :=
  (position.group, position.depth, position.plane, position.row, position.column)

theorem eq_of_axes {first second : Position} (equal : first.axes = second.axes) :
    first = second := by
  cases first
  cases second
  cases equal
  rfl

/-- The position of an element of a shape. -/
def IsIn (shape : Tensor.Shape) (position : Position) : Prop :=
  position.group < shape.group.toNat ∧ position.depth < shape.depth.toNat ∧
    position.plane < shape.plane.toNat ∧ position.row < shape.row.toNat ∧
    position.column < shape.column.toNat

/-- Where strides put an element of some bytes. -/
def offset (strides : Strides) (bytes : Nat) (position : Position) : Nat :=
  position.group * strides.batch.toNat + position.depth * strides.depth.toNat +
    position.plane * strides.plane.toNat + position.row * strides.row.toNat +
    position.column * bytes

end Position

namespace Policy

variable {policy : Policy} {tensor : Tensor}

/-- A row holds its elements. -/
theorem columns_le_row (accepted : policy.validate = .ok ()) (tensor : Tensor) :
    tensor.shape.column.toNat * tensor.elementType.size ≤ (policy.extent tensor).row :=
  le_alignUp (alignments_pos accepted).1

/-- What the strides of a surface are, and where they put the elements of a tensor. -/
structure Arranged (policy : Policy) (tensor : Tensor) : Prop where
  uncut : (policy.extent tensor).strides.row.toNat = (policy.extent tensor).row ∧
    (policy.extent tensor).strides.plane.toNat = (policy.extent tensor).plane ∧
    (policy.extent tensor).strides.depth.toNat = (policy.extent tensor).depth ∧
    (policy.extent tensor).strides.batch.toNat = (policy.extent tensor).batch
  aligned : policy.alignment.toNat ∣ (policy.extent tensor).strides.row.toNat ∧
    policy.alignment.toNat ∣ (policy.extent tensor).strides.plane.toNat ∧
    policy.alignment.toNat ∣ (policy.extent tensor).strides.depth.toNat ∧
    policy.alignment.toNat ∣ (policy.extent tensor).strides.batch.toNat
  acceptable : (policy.extent tensor).strides.Aligned
  elements : Packs (Position.IsIn tensor.shape)
    (Position.offset (policy.extent tensor).strides tensor.elementType.size)
    tensor.elementType.size (policy.extent tensor).size

/-- The elements of a surface that fits lie inside it and apart from each other. -/
theorem packs_elements
    (accepted : policy.validate = .ok ())
    (nonempty : tensor.shape.isEmpty = false)
    (fits : (policy.extent tensor).size < UInt32.size) :
    Packs (Position.IsIn tensor.shape)
      (Position.offset (policy.extent tensor).strides tensor.elementType.size)
      tensor.elementType.size (policy.extent tensor).size := by
  obtain ⟨row, plane, depth, batch⟩ := toNat_strides accepted nonempty fits
  -- From the columns of a row outwards, axis by axis.
  have rows := ((Packs.blocks tensor.elementType.size tensor.shape.column.toNat).widen
    (columns_le_row accepted tensor)).axis tensor.shape.row.toNat
  have surface := ((rows.axis tensor.shape.plane.toNat).axis tensor.shape.depth.toNat).axis
    tensor.shape.group.toNat
  have named := surface.comap Position.axes fun _ _ => Position.eq_of_axes
  have offsets : Position.offset (policy.extent tensor).strides tensor.elementType.size =
      fun position => position.group * (policy.extent tensor).batch +
        (position.depth * (policy.extent tensor).depth +
          (position.plane * (policy.extent tensor).plane +
            (position.row * (policy.extent tensor).row +
              position.column * tensor.elementType.size))) := by
    funext position
    rw [Position.offset, row, plane, depth, batch]
    omega
  rw [offsets]
  exact named

/-- In every surface that fits into 32 bits the strides are exact and aligned, and different
elements have places of their own inside the surface. -/
theorem elements_arranged
    (accepted : policy.validate = .ok ())
    (nonempty : tensor.shape.isEmpty = false)
    (fits : (policy.extent tensor).size < UInt32.size) :
    Arranged policy tensor := by
  have uncut := toNat_strides accepted nonempty fits
  obtain ⟨rowDvd, planeDvd, depthDvd, batchDvd, -⟩ := alignment_dvd_extent accepted tensor
  refine ⟨uncut, ?_, aligned_strides accepted nonempty fits,
    packs_elements accepted nonempty fits⟩
  rw [uncut.1, uncut.2.1, uncut.2.2.1, uncut.2.2.2]
  exact ⟨rowDvd, planeDvd, depthDvd, batchDvd⟩

/-- Two groups of three planes of five rows with seven half-width elements each. -/
def sparse : Tensor := ⟨⟨2, 1, 3, 5, 7⟩, .half⟩

/-- Its rows are padded, so its surface is larger than its elements. -/
theorem sparse_arranged :
    Policy.standard.validate = .ok () ∧ sparse.shape.isEmpty = false ∧
      (Policy.standard.extent sparse).size = 0x40 * 30 ∧ Arranged .standard sparse := by
  have accepted : Policy.standard.validate = .ok () :=
    Policy.validate_eq_ok_iff.mpr (by decide +kernel)
  exact ⟨accepted, by decide, by decide +kernel,
    elements_arranged accepted (by decide) (by decide +kernel)⟩

end Policy
end Layout
end TileProgram
