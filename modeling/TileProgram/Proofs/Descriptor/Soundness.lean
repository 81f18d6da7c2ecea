import TileProgram.Descriptor.Accessors
import TileProgram.Proofs.Descriptor.Assignments

/-!
# Sound records

A value is sound for a register when a valid record may hold it there: a
stride is aligned, a format is the code of an element type, a selector is that
of an activation.  A run of sound assignments keeps every register sound, and
a record that is sound can only lack its lookup table.
-/

namespace TileProgram

open Register

namespace Register
namespace Name

/-- Whether a register of this name holds a stride. -/
def isStride (name : Name) : Bool :=
  Field.occursIn "Stride".toList name.label.toList

/-- Whether a register of this name may hold any value. -/
def isFree (name : Name) : Bool :=
  !name.isStride && !Registers.formats.contains name && name != Registers.activationKind

/-- A valid record may hold a value in a register of this name. -/
structure Allows (name : Name) (value : Nat) : Prop where
  stride : name.isStride = true → Descriptor.strideAlignment ∣ value
  format : name ∈ Registers.formats → value < Tensor.ElementType.all.length
  activation : name = Registers.activationKind → value < Activation.Kind.all.length

/-- Every register may hold zero. -/
theorem allows_zero (name : Name) : name.Allows 0 where
  stride _ := Nat.dvd_zero _
  format _ := by decide
  activation _ := by decide

/-- A register of a free name may hold anything. -/
theorem allows_of_isFree {name : Name} (free : name.isFree = true) (value : Nat) :
    name.Allows value := by
  simp only [isFree, Bool.and_eq_true, Bool.not_eq_true', List.contains_eq_mem,
    decide_eq_false_iff_not, bne_iff_ne, ne_eq] at free
  obtain ⟨⟨stride, format⟩, activation⟩ := free
  constructor
  · intro isStride
    rw [stride] at isStride
    cases isStride
  · intro member
    exact absurd member format
  · intro equal
    exact absurd equal activation

/-- A register that holds nothing but a stride may hold a multiple of the alignment. -/
theorem allows_stride
    {name : Name}
    {value : Nat}
    (alone : name ∉ Registers.formats ∧ name ≠ Registers.activationKind)
    (aligned : Descriptor.strideAlignment ∣ value) :
    name.Allows value where
  stride _ := aligned
  format member := absurd member alone.1
  activation equal := absurd equal alone.2

end Name

/-- A word occurs in a text when it is a part of it. -/
theorem Field.occursIn_iff {word text : List Char} :
    occursIn word text = true ↔ word <:+: text := by
  induction text with
  | nil => rw [occursIn, List.isEmpty_iff, List.infix_nil]
  | cons letter rest inductionHypothesis =>
      rw [occursIn, Bool.or_eq_true, List.isPrefixOf_iff_prefix, inductionHypothesis,
        List.infix_cons_iff]

end Register

/-- The amount of an assignment is one that a valid record may hold. -/
def Assignment.Sound (assignment : Assignment) : Prop :=
  match assignment.amount with
  | .unsigned value => assignment.name.Allows value
  | .signed _ => assignment.name.isFree = true

namespace Descriptor

/-- A record each of whose registers holds what a valid record may hold there. -/
def Sound (descriptor : Descriptor) : Prop :=
  ∀ field ∈ descriptor.table.fields, field.name.Allows (field.unsigned descriptor.bits)

/-- The zero record is sound. -/
theorem sound_empty : Descriptor.empty.Sound := by
  intro field present
  rw [show Descriptor.empty.bits = 0 from rfl, Field.unsigned_zero]
  exact Name.allows_zero _

variable {descriptor changed : Descriptor} {assignments : List Assignment}

/-- A sound assignment keeps a record sound. -/
theorem Sound.assign
    {assignment : Assignment}
    (sound : descriptor.Sound)
    (separate : descriptor.table.Separate)
    (allowed : assignment.Sound)
    (assigned : descriptor.assign assignment = .ok changed) :
    changed.Sound := by
  obtain ⟨written, found, rfl, fits⟩ := assign_eq_ok assigned
  obtain ⟨writtenPresent, nameEq⟩ := Table.mem_of_lookup found
  intro field present
  by_cases same : field = written
  · subst same
    show field.name.Allows (field.unsigned (field.replace _ _))
    rw [Field.unsigned, Field.slice_replace (separate.inside _ writtenPresent), nameEq]
    unfold Assignment.Sound at allowed
    cases amount : assignment.amount with
    | unsigned value =>
        rw [amount] at allowed
        have kept : value % 2 ^ field.width = value := Nat.mod_eq_of_lt (fits value amount)
        rw [Amount.bits, BitVec.toNat_ofNat, kept]
        exact allowed
    | signed value =>
        rw [amount] at allowed
        exact Name.allows_of_isFree allowed _
  · show field.name.Allows (field.unsigned (written.replace _ _))
    rw [Field.unsigned, Field.slice_replace_of_disjoint
      (separate.disjoint _ present _ writtenPresent same)]
    exact sound field present

/-- A run of sound assignments keeps a record sound. -/
theorem Sound.assigned
    (sound : descriptor.Sound)
    (separate : descriptor.table.Separate)
    (allowed : ∀ assignment ∈ assignments, assignment.Sound)
    (assigned : descriptor.assigned assignments = .ok changed) :
    changed.Sound := by
  induction assignments generalizing descriptor with
  | nil =>
      cases assigned
      exact sound
  | cons assignment rest inductionHypothesis =>
      rw [assigned_cons, Outcome.bind_eq_ok] at assigned
      obtain ⟨middle, step, assigned⟩ := assigned
      obtain ⟨here, others⟩ := List.forall_mem_cons.mp allowed
      have tableEq : middle.table = descriptor.table := by
        obtain ⟨field, -, rfl, -⟩ := assign_eq_ok step
        rfl
      exact inductionHypothesis (sound.assign separate here step) (tableEq ▸ separate) others
        assigned

/-- The strides of a sound record are aligned. -/
theorem Sound.strideError?_eq (sound : descriptor.Sound) : descriptor.strideError? = none := by
  unfold strideError?
  rw [List.findSome?_eq_none_iff]
  intro field member
  obtain ⟨present, isStride⟩ := List.mem_filter.mp member
  exact if_pos (Nat.mod_eq_zero_of_dvd ((sound field present).stride isStride))

/-- The formats of a sound record are codes of element types. -/
theorem Sound.formatError?_eq (sound : descriptor.Sound) : descriptor.formatError? = none := by
  unfold formatError?
  rw [List.findSome?_eq_none_iff]
  intro name member
  rw [Option.bind_eq_none_iff]
  intro field found
  have present : field ∈ descriptor.table.fields := List.mem_of_find?_eq_some found
  have nameEq : field.name = name := by simpa using List.find?_some found
  have small := (sound field present).format (nameEq ▸ member)
  rw [Tensor.ElementType.ofCode, List.getElem?_eq_getElem small]

/-- A sound record is valid unless its activation needs a lookup table that it lacks. -/
theorem Sound.validate_eq
    {kind : Activation.Kind}
    (sound : descriptor.Sound)
    (selected : descriptor.get Registers.activationKind = .ok kind.code) :
    descriptor.validate =
      if kind.needsTable && descriptor.lookup.isNone then .error .missingTable else .ok () := by
  have activation : descriptor.activationError? =
      if kind.needsTable && descriptor.lookup.isNone then some .missingTable else none := by
    obtain ⟨field, found, value⟩ := Outcome.map_eq_ok.mp selected
    have found : descriptor.table.find? Registers.activationKind = some field := by
      unfold Table.lookup at found
      split at found
      · next other => rw [other, Except.ok.inj found]
      · cases found
    rw [activationError?, found, Option.bind_some, value, Activation.Kind.ofCode,
      Activation.Kind.ofCode?_code]
  rw [validate, sound.strideError?_eq, sound.formatError?_eq, activation]
  cases kind.needsTable && descriptor.lookup.isNone <;> rfl

end Descriptor
end TileProgram
