import TileProgram.Descriptor.Accessors
import TileProgram.Layout.Allocator
import TileProgram.Proofs.Outcome

/-!
# Placed surfaces

Surfaces that were placed lie behind each other, and their strides are aligned.
-/

/-!
## Alignment and allocation

Aligning never lowers a value, so an allocator hands out every surface behind
all that it handed out before.  The alignments of a policy that is accepted are
powers of two and therefore positive.
-/

namespace TileProgram
namespace Layout

/-- Alignment never lowers a value. -/
theorem le_alignUp {value alignment : Nat} (positive : 0 < alignment) :
    value ≤ alignUp value alignment := by
  have low : (value + alignment - 1) &&& (alignment - 1) ≤ alignment - 1 := Nat.and_le_right
  unfold alignUp
  dsimp only
  omega

/-- Alignment raises a value by less than the alignment. -/
theorem alignUp_le (value alignment : Nat) : alignUp value alignment ≤ value + alignment - 1 :=
  Nat.sub_le _ _

theorem pos_of_isPowerOfTwo {value : Nat} (power : isPowerOfTwo value = true) : 0 < value := by
  have equal : Nat.pow 2 value.log2 = value := by simpa [isPowerOfTwo] using power
  rw [← equal]
  exact Nat.two_pow_pos _

/-- Clearing the low bits leaves a multiple of the alignment. -/
theorem alignUp_eq
    {alignment : Nat}
    (power : isPowerOfTwo alignment = true)
    (value : Nat) :
    alignUp value alignment = alignment * ((value + alignment - 1) / alignment) := by
  have equal : 2 ^ alignment.log2 = alignment := by simpa [isPowerOfTwo] using power
  have low : ∀ raised : Nat, raised &&& (alignment - 1) = raised % alignment := by
    intro raised
    rw [← equal]
    exact Nat.and_two_pow_sub_one_eq_mod raised _
  unfold alignUp
  dsimp only
  rw [low]
  have split := Nat.div_add_mod (value + alignment - 1) alignment
  omega

theorem dvd_alignUp
    {alignment : Nat}
    (power : isPowerOfTwo alignment = true)
    (value : Nat) :
    alignment ∣ alignUp value alignment := by
  rw [alignUp_eq power]
  exact Nat.dvd_mul_right _ _

/-- Alignment keeps the order of values. -/
theorem alignUp_mono
    {alignment less more : Nat}
    (power : isPowerOfTwo alignment = true)
    (le : less ≤ more) :
    alignUp less alignment ≤ alignUp more alignment := by
  rw [alignUp_eq power, alignUp_eq power]
  apply Nat.mul_le_mul_left
  apply Nat.div_le_div_right
  omega

/-- A multiple of the alignment needs no raising. -/
theorem alignUp_of_dvd
    {alignment value : Nat}
    (power : isPowerOfTwo alignment = true)
    (multiple : alignment ∣ value) :
    alignUp value alignment = value := by
  have positive := pos_of_isPowerOfTwo power
  obtain ⟨count, rfl⟩ := multiple
  have short : (alignment - 1) / alignment = 0 := Nat.div_eq_of_lt (by omega)
  rw [alignUp_eq power, Nat.add_sub_assoc positive, Nat.mul_add_div positive, short, Nat.add_zero]

namespace Policy

/-- What an accepted policy satisfies. -/
theorem validate_eq_ok_iff {policy : Policy} :
    policy.validate = .ok () ↔
      isPowerOfTwo policy.alignment.toNat = true ∧
        leastAlignment ∣ policy.alignment.toNat ∧
        isPowerOfTwo policy.weightAlignment.toNat = true ∧
        policy.alignment.toNat ∣ policy.baseAddress.toNat := by
  have sound_iff : policy.validate = .ok () ↔ policy.defect? = none := by
    unfold validate
    cases policy.defect? <;> simp
  rw [sound_iff, defect?, Nat.dvd_iff_mod_eq_zero, Nat.dvd_iff_mod_eq_zero]
  cases isPowerOfTwo policy.alignment.toNat <;>
    cases isPowerOfTwo policy.weightAlignment.toNat <;>
    by_cases least : policy.alignment.toNat % leastAlignment = 0 <;>
    simp [least]

/-- The alignments of an accepted policy are powers of two, that of surfaces a
multiple of the least one. -/
theorem alignments_of_validate
    {policy : Policy}
    (accepted : policy.validate = .ok ()) :
    isPowerOfTwo policy.alignment.toNat = true ∧
      leastAlignment ∣ policy.alignment.toNat ∧
      isPowerOfTwo policy.weightAlignment.toNat = true := by
  obtain ⟨power, least, weights, -⟩ := validate_eq_ok_iff.mp accepted
  exact ⟨power, least, weights⟩

/-- The base address of an accepted policy is aligned. -/
theorem dvd_baseAddress
    {policy : Policy}
    (accepted : policy.validate = .ok ()) :
    policy.alignment.toNat ∣ policy.baseAddress.toNat :=
  (validate_eq_ok_iff.mp accepted).2.2.2

/-- The alignments of an accepted policy are positive. -/
theorem alignments_pos
    {policy : Policy}
    (accepted : policy.validate = .ok ()) :
    0 < policy.alignment.toNat ∧ 0 < policy.weightAlignment.toNat := by
  obtain ⟨surfaces, -, weights⟩ := alignments_of_validate accepted
  exact ⟨pos_of_isPowerOfTwo surfaces, pos_of_isPowerOfTwo weights⟩

end Policy

namespace Allocator

/-- A surface begins at the first free address and ends before the next one. -/
theorem place?_eq_some
    {allocator next : Allocator}
    {size : Nat}
    {base : UInt32}
    (positive : 0 < allocator.alignment)
    (placed : allocator.place? size = some (base, next)) :
    base.toNat = allocator.next ∧ allocator.next + size ≤ next.next ∧
      next.alignment = allocator.alignment := by
  unfold place? at placed
  dsimp only at placed
  split at placed
  · next room =>
      cases placed
      have raised := @le_alignUp (allocator.next + max size 1) allocator.alignment positive
      refine ⟨UInt32.toNat_ofNat_of_lt' room.1, ?_, rfl⟩
      dsimp only
      omega
  · cases placed

/-- An allocator that has handed out less has room for what another one has room for. -/
theorem place?_of_le
    {allocator other next : Allocator}
    {size : Nat}
    {base : UInt32}
    (power : isPowerOfTwo allocator.alignment = true)
    (same : other.alignment = allocator.alignment)
    (less : other.next ≤ allocator.next)
    (placed : allocator.place? size = some (base, next)) :
    ∃ otherBase otherNext, other.place? size = some (otherBase, otherNext) ∧
      otherNext.next ≤ next.next ∧ otherNext.alignment = next.alignment := by
  unfold place? at placed ⊢
  dsimp only at placed ⊢
  split at placed
  · next room =>
      cases placed
      have raised : alignUp (other.next + max size 1) allocator.alignment ≤
          alignUp (allocator.next + max size 1) allocator.alignment :=
        alignUp_mono power (by omega)
      rw [same, if_pos ⟨by omega, by omega⟩]
      exact ⟨_, _, rfl, raised, rfl⟩
  · cases placed

end Allocator
end Layout
end TileProgram

/-!
## Strides of placed surfaces

The strides of a tensor with elements are at most its padded size.  So a
surface whose size fits into 32 bits has strides that were not cut, and all of
them are multiples of the least alignment.
-/

namespace TileProgram

/-- A shape with elements has no zero extent. -/
theorem Tensor.Shape.extents_pos
    {shape : Tensor.Shape}
    (nonempty : shape.isEmpty = false) :
    0 < shape.group.toNat ∧ 0 < shape.depth.toNat ∧ 0 < shape.plane.toNat ∧
      0 < shape.row.toNat ∧ 0 < shape.column.toNat := by
  have pos : ∀ {extent : UInt32}, extent ≠ 0 → 0 < extent.toNat := by
    intro extent nonzero
    apply Nat.pos_of_ne_zero
    intro zero
    exact nonzero (UInt32.toNat_inj.mp zero)
  simp only [isEmpty, extents, List.any_cons, List.any_nil, Bool.or_false, Bool.or_eq_false_iff,
    beq_eq_false_iff_ne] at nonempty
  obtain ⟨group, depth, plane, row, column⟩ := nonempty
  exact ⟨pos group, pos depth, pos plane, pos row, pos column⟩

/-- Strides that a record may hold. -/
structure Strides.Aligned (strides : Strides) : Prop where
  row : Descriptor.strideAlignment ∣ strides.row.toNat
  plane : Descriptor.strideAlignment ∣ strides.plane.toNat
  depth : Descriptor.strideAlignment ∣ strides.depth.toNat
  batch : Descriptor.strideAlignment ∣ strides.batch.toNat

namespace Layout
namespace Policy

/-- A number that fits is not cut. -/
theorem toNat_clamp {value : Nat} (fits : value < UInt32.size) : (clamp value).toNat = value := by
  rw [clamp, if_pos fits, UInt32.toNat_ofNat_of_lt' fits]

/-- Extents depend on a policy only through the alignment of surfaces. -/
theorem extent_congr
    {policy other : Policy}
    (same : other.alignment = policy.alignment) :
    other.extent = policy.extent := by
  funext tensor
  unfold extent
  rw [same]

/-- Every stride divides the next one and the size. -/
theorem extent_dvd (policy : Policy) (tensor : Tensor) :
    (policy.extent tensor).row ∣ (policy.extent tensor).plane ∧
      (policy.extent tensor).plane ∣ (policy.extent tensor).depth ∧
      (policy.extent tensor).depth ∣ (policy.extent tensor).batch ∧
      (policy.extent tensor).batch ∣ (policy.extent tensor).size :=
  ⟨Nat.dvd_mul_right _ _, Nat.dvd_mul_right _ _, Nat.dvd_mul_right _ _, Nat.dvd_mul_right _ _⟩

/-- Strides and padded sizes are multiples of the alignment. -/
theorem alignment_dvd_extent
    {policy : Policy}
    (accepted : policy.validate = .ok ())
    (tensor : Tensor) :
    policy.alignment.toNat ∣ (policy.extent tensor).row ∧
      policy.alignment.toNat ∣ (policy.extent tensor).plane ∧
      policy.alignment.toNat ∣ (policy.extent tensor).depth ∧
      policy.alignment.toNat ∣ (policy.extent tensor).batch ∧
      policy.alignment.toNat ∣ (policy.extent tensor).size := by
  obtain ⟨rowDvd, planeDvd, depthDvd, batchDvd⟩ := extent_dvd policy tensor
  have row : policy.alignment.toNat ∣ (policy.extent tensor).row :=
    dvd_alignUp (alignments_of_validate accepted).1 _
  have plane := Nat.dvd_trans row rowDvd
  have depth := Nat.dvd_trans plane planeDvd
  have batch := Nat.dvd_trans depth depthDvd
  exact ⟨row, plane, depth, batch, Nat.dvd_trans batch batchDvd⟩

theorem dvd_size
    {policy : Policy}
    (accepted : policy.validate = .ok ())
    (tensor : Tensor) :
    policy.alignment.toNat ∣ (policy.extent tensor).size :=
  (alignment_dvd_extent accepted tensor).2.2.2.2

/-- A tensor with elements has a padded size. -/
theorem size_pos
    {policy : Policy}
    {tensor : Tensor}
    (accepted : policy.validate = .ok ())
    (nonempty : tensor.shape.isEmpty = false) :
    0 < (policy.extent tensor).size := by
  obtain ⟨group, depth, plane, row, column⟩ := Tensor.Shape.extents_pos nonempty
  have element : 0 < tensor.elementType.size := by cases tensor.elementType <;> decide
  have first : 0 < (policy.extent tensor).row :=
    Nat.lt_of_lt_of_le (Nat.mul_pos column element)
      (le_alignUp (alignments_pos accepted).1)
  exact Nat.mul_pos (Nat.mul_pos (Nat.mul_pos (Nat.mul_pos first row) plane) depth) group

/-- The strides of a surface that fits are not cut. -/
theorem toNat_strides
    {policy : Policy}
    {tensor : Tensor}
    (accepted : policy.validate = .ok ())
    (nonempty : tensor.shape.isEmpty = false)
    (fits : (policy.extent tensor).size < UInt32.size) :
    (policy.extent tensor).strides.row.toNat = (policy.extent tensor).row ∧
      (policy.extent tensor).strides.plane.toNat = (policy.extent tensor).plane ∧
      (policy.extent tensor).strides.depth.toNat = (policy.extent tensor).depth ∧
      (policy.extent tensor).strides.batch.toNat = (policy.extent tensor).batch := by
  obtain ⟨rowDvd, planeDvd, depthDvd, batchDvd⟩ := extent_dvd policy tensor
  have depthSize := Nat.dvd_trans depthDvd batchDvd
  have planeSize := Nat.dvd_trans planeDvd depthSize
  have rowSize := Nat.dvd_trans rowDvd planeSize
  have uncut : ∀ {stride}, stride ∣ (policy.extent tensor).size →
      (clamp stride).toNat = stride := by
    intro stride divides
    have le := Nat.le_of_dvd (size_pos accepted nonempty) divides
    exact toNat_clamp (Nat.lt_of_le_of_lt le fits)
  exact ⟨uncut rowSize, uncut planeSize, uncut depthSize, uncut batchDvd⟩

/-- The strides of a surface that fits are aligned. -/
theorem aligned_strides
    {policy : Policy}
    {tensor : Tensor}
    (accepted : policy.validate = .ok ())
    (nonempty : tensor.shape.isEmpty = false)
    (fits : (policy.extent tensor).size < UInt32.size) :
    (policy.extent tensor).strides.Aligned := by
  have least : Descriptor.strideAlignment ∣ policy.alignment.toNat :=
    (alignments_of_validate accepted).2.1
  obtain ⟨row, plane, depth, batch, -⟩ := alignment_dvd_extent accepted tensor
  obtain ⟨rowEq, planeEq, depthEq, batchEq⟩ := toNat_strides accepted nonempty fits
  constructor
  · exact rowEq ▸ Nat.dvd_trans least row
  · exact planeEq ▸ Nat.dvd_trans least plane
  · exact depthEq ▸ Nat.dvd_trans least depth
  · exact batchEq ▸ Nat.dvd_trans least batch

end Policy
end Layout
end TileProgram
