import TileProgram.Descriptor.Accessors
import TileProgram.Proofs.Descriptor.Assignments
import TileProgram.Proofs.Endings
import TileProgram.Proofs.Text.Numerals

/-!
# Accesses to registers

A register is read and written through the bytes that it touches, which have to
lie in the record.  The registers of a separate table do, so no access to them
is out of range.  The built-in table has the registers of surfaces and hints, so
these can be read from every record that it describes.
-/

namespace TileProgram

open Register

/-- The bytes that a register of a separate table touches lie in the record. -/
theorem Register.Table.Separate.span_le
    {table : Table}
    {field : Field}
    (separate : table.Separate)
    (present : field ∈ table.fields) :
    field.byteOffset + field.spanBytes ≤ recordSize := by
  have inside := separate.inside field present
  unfold Field.bitEnd Field.bitStart at inside
  unfold Field.spanBytes
  omega

namespace Descriptor

/-- Requires the bytes that a register touches to lie in the record. -/
def requireBytes (field : Field) : Guarded Error Unit :=
  Guarded.require (field.byteOffset + field.spanBytes ≤ recordSize)

/-- The value of a register, read from the bytes that it touches. -/
def guardedGet (descriptor : Descriptor) (name : Name) : Guarded Error Nat := do
  let field ← Guarded.of (descriptor.table.lookup name)
  requireBytes field
  return field.unsigned descriptor.bits

/-- One assignment, made in the bytes that the register touches. -/
def guardedAssign (descriptor : Descriptor) (assignment : Assignment) :
    Guarded Error Descriptor := do
  let field ← Guarded.of (descriptor.table.lookup assignment.name)
  requireBytes field
  Guarded.of (descriptor.put field assignment.amount)

/-- Assignments made one after another until one fails. -/
def guardedAssigned (descriptor : Descriptor) : List Assignment → Guarded Error Descriptor
  | [] => return descriptor
  | assignment :: rest => do
      let changed ← descriptor.guardedAssign assignment
      changed.guardedAssigned rest

/-- Requires the bytes of all registers to lie in the record. -/
def requireRegisters (descriptor : Descriptor) : Guarded Error Unit := do
  let _ ← descriptor.table.fields.mapM requireBytes
  return ()

/-- The position of the next record. -/
def guardedNext (descriptor : Descriptor) : Guarded Error Nat := do
  let position ← descriptor.guardedGet Registers.nextPointer
  if position < UInt32.size then return position
  else throw (.fieldOverflow Registers.nextPointer position 32)

/-- Attaches a lookup table and records its length. -/
def guardedAttach (descriptor : Descriptor) (lookup : LookupTable) :
    Guarded Error Descriptor := do
  let changed ← descriptor.guardedAssign (.unsigned Registers.lookupLength lookup.length)
  return { changed with lookup := some lookup }

variable {descriptor : Descriptor}

theorem guardedGet_eq (separate : descriptor.table.Separate) (name : Name) :
    descriptor.guardedGet name = .of (descriptor.get name) := by
  rw [guardedGet, get]
  cases found : descriptor.table.lookup name with
  | error error => rfl
  | ok field =>
      rw [Guarded.of_ok_bind, requireBytes, Guarded.require_bind (separate.span_le (Table.mem_of_lookup found).1)]
      rfl

theorem guardedAssign_eq (separate : descriptor.table.Separate) (assignment : Assignment) :
    descriptor.guardedAssign assignment = .of (descriptor.assign assignment) := by
  rw [guardedAssign, assign]
  cases found : descriptor.table.lookup assignment.name with
  | error error => rfl
  | ok field =>
      rw [Guarded.of_ok_bind, requireBytes, Guarded.require_bind (separate.span_le (Table.mem_of_lookup found).1)]
      rfl

/-- No assignment of a run is out of range, since every one of them keeps the table. -/
theorem guardedAssigned_eq
    (separate : descriptor.table.Separate)
    (assignments : List Assignment) :
    descriptor.guardedAssigned assignments = .of (descriptor.assigned assignments) := by
  induction assignments generalizing descriptor with
  | nil => rfl
  | cons assignment rest inductionHypothesis =>
      rw [guardedAssigned, assigned_cons]
      refine Guarded.bind_eq_of (guardedAssign_eq separate assignment) ?_
      intro changed step
      obtain ⟨field, -, rfl, -⟩ := assign_eq_ok step
      exact inductionHypothesis separate

theorem requireRegisters_eq (separate : descriptor.table.Separate) :
    descriptor.requireRegisters = .of (.ok ()) := by
  have each : ∀ field ∈ descriptor.table.fields, requireBytes field = .of (.ok ()) := by
    intro field present
    rw [requireBytes, Guarded.require, if_pos (separate.span_le present)]
  have all : descriptor.table.fields.mapM requireBytes =
      .of (.ok (descriptor.table.fields.map fun _ => ())) :=
    Guarded.mapM_eq_ok each
  rw [requireRegisters, all]
  rfl

theorem guardedNext_eq (separate : descriptor.table.Separate) :
    descriptor.guardedNext = .of descriptor.next := by
  rw [guardedNext, next]
  refine Guarded.bind_eq_of (guardedGet_eq separate _) ?_
  intro position _
  split
  · rfl
  · rfl

theorem guardedAttach_eq (separate : descriptor.table.Separate) (lookup : LookupTable) :
    descriptor.guardedAttach lookup = .of (descriptor.attach lookup) := by
  rw [guardedAttach, attach, guardedAssign_eq separate]
  cases descriptor.assign (.unsigned Registers.lookupLength lookup.length) with
  | error error => rfl
  | ok changed => rfl

/-! ## Parts of records of the built-in table -/

/-- The registers of a program that do not belong to kernel channels. -/
def namedRegisters : List Name :=
  [ Registers.taskId, Registers.nextPointer, Registers.nextSize, Registers.lastOfNetwork,
    Registers.endOfNetwork ] ++ Registers.formats ++
  [ Registers.inputColumn, Registers.inputRow, Registers.inputPlane, Registers.inputDepth,
    Registers.group, Registers.outputColumn, Registers.outputRow, Registers.outputPlane,
    Registers.outputDepth, Registers.kernelWidth, Registers.kernelHeight, Registers.stepAcross,
    Registers.stepDown, Registers.paddingAcross, Registers.paddingDown, Registers.groupCount,
    Registers.poolWidth, Registers.poolHeight, Registers.multiplyMode, Registers.axis,
    Registers.transposeMode, Registers.broadcastMask, Registers.epsilon, Registers.operationType,
    Registers.operationVariant, Registers.foldedCount, Registers.foldedPointwise,
    Registers.scaleMode, Registers.scale, Registers.biasMode, Registers.bias,
    Registers.activationKind, Registers.activationFirst, Registers.activationSecond,
    Registers.lookupLength ] ++
  ([SourceLane.first, SourceLane.second].flatMap fun lane =>
    [ Registers.sourceEnabled lane, Registers.sourceBase lane,
      (Registers.sourceStrides lane).row, (Registers.sourceStrides lane).plane,
      (Registers.sourceStrides lane).depth, (Registers.sourceStrides lane).batch,
      Registers.sourceInterleave lane, (Registers.cacheSource lane).base,
      (Registers.cacheSource lane).plane, (Registers.cacheSource lane).row ]) ++
  [ Registers.destinationEnabled, Registers.destinationBase, Registers.destinationStrides.row,
    Registers.destinationStrides.plane, Registers.destinationStrides.depth,
    Registers.destinationStrides.batch, Registers.destinationInterleave,
    Registers.cacheResult.base, Registers.cacheResult.plane, Registers.cacheResult.row,
    Registers.residency .first, Registers.residency .second, Registers.residency .result ]

/-- The built-in table has all of them. -/
theorem known_of_named : ∀ name ∈ namedRegisters, (Table.standard.find? name).isSome = true := by
  decide +kernel

/-- A register of the built-in table can be read. -/
theorem exists_get
    (builtIn : descriptor.table = .standard)
    {name : Name}
    (named : name ∈ namedRegisters) :
    ∃ value, descriptor.get name = .ok value := by
  obtain ⟨field, found⟩ := Option.isSome_iff_exists.mp (known_of_named name named)
  refine ⟨field.unsigned descriptor.bits, ?_⟩
  rw [get, builtIn, Table.lookup, found]
  rfl

/-- A surface whose registers are in the built-in table can be read. -/
theorem exists_surface
    (builtIn : descriptor.table = .standard)
    {enabled base interleave : Name}
    {names : Registers.StrideNames}
    (named : ∀ name ∈ [enabled, base, names.row, names.plane, names.depth, names.batch, interleave],
      name ∈ namedRegisters) :
    ∃ surface, descriptor.surface enabled base interleave names = .ok surface := by
  have readable : ∀ name ∈ [enabled, base, names.row, names.plane, names.depth, names.batch,
      interleave], ∃ value, descriptor.get name = .ok value :=
    fun name listed => exists_get builtIn (named name listed)
  simp only [List.forall_mem_cons] at readable
  obtain ⟨⟨enabledValue, enabledEq⟩, ⟨_, baseEq⟩, ⟨_, rowEq⟩, ⟨_, planeEq⟩, ⟨_, depthEq⟩,
    ⟨_, batchEq⟩, ⟨_, interleaveEq⟩, -⟩ := readable
  unfold Descriptor.surface Descriptor.strides extent
  rw [enabledEq, baseEq, rowEq, planeEq, depthEq, batchEq, interleaveEq, Outcome.ok_bind]
  by_cases disabled : enabledValue = 0
  · exact ⟨none, if_pos disabled⟩
  · exact ⟨some _, if_neg disabled⟩

theorem exists_source (builtIn : descriptor.table = .standard) (lane : SourceLane) :
    ∃ surface, descriptor.source lane = .ok surface := by
  refine exists_surface builtIn ?_
  cases lane <;> simp [namedRegisters]

theorem exists_destination (builtIn : descriptor.table = .standard) :
    ∃ surface, descriptor.destination = .ok surface :=
  exists_surface builtIn (by simp [namedRegisters])

theorem exists_residency (builtIn : descriptor.table = .standard) (lane : Residency.Lane) :
    ∃ hint, descriptor.residency lane = .ok hint := by
  obtain ⟨code, found⟩ : ∃ code, descriptor.get (Registers.residency lane) = .ok code := by
    refine exists_get builtIn ?_
    cases lane <;> simp [namedRegisters]
  rw [residency, found]
  exact ⟨_, rfl⟩

end Descriptor
end TileProgram

/-!
## Parts and their registers

A part of an instruction is read from its registers.  Each kernel channel has
registers of its own, since the numbers of channels stand in their names.
-/

namespace TileProgram

open Register

namespace Registers

@[simp] theorem channelEnabled_inj {first second : Nat} :
    channelEnabled first = channelEnabled second ↔ first = second := by
  simp [channelEnabled, Standard.indexed_inj]

@[simp] theorem channelOffset_inj {first second : Nat} :
    channelOffset first = channelOffset second ↔ first = second := by
  simp [channelOffset, Standard.indexed_inj]

@[simp] theorem channelLength_inj {first second : Nat} :
    channelLength first = channelLength second ↔ first = second := by
  simp [channelLength, Standard.indexed_inj]

/-- Labels that begin with different words differ. -/
theorem indexed_ne
    {first second firstRest secondRest : String}
    {firstIndex secondIndex : Nat}
    (different : ∃ place, first.toList[place]? ≠ second.toList[place]? ∧
      place < first.toList.length ∧ place < second.toList.length) :
    Standard.indexed first firstIndex firstRest ≠
      Standard.indexed second secondIndex secondRest := by
  unfold Standard.indexed
  simp only [String.append_assoc]
  exact Text.append_ne_append different _ _

@[simp] theorem channelEnabled_ne_offset (first second : Nat) :
    channelEnabled first ≠ channelOffset second := by
  intro equal
  exact indexed_ne ⟨5, by decide⟩ (Name.mk.inj equal).2

@[simp] theorem channelEnabled_ne_length (first second : Nat) :
    channelEnabled first ≠ channelLength second := by
  intro equal
  exact indexed_ne ⟨5, by decide⟩ (Name.mk.inj equal).2

@[simp] theorem channelOffset_ne_length (first second : Nat) :
    channelOffset first ≠ channelLength second := by
  intro equal
  exact indexed_ne ⟨6, by decide⟩ (Name.mk.inj equal).2

end Registers

namespace Descriptor

variable {descriptor : Descriptor} {shape : Tensor.Shape}

/-- The position of the next record is read as it was written. -/
theorem next_of_register
    {position : Nat}
    (fits : position < UInt32.size)
    (held : descriptor.get Registers.nextPointer = .ok position) :
    descriptor.next = .ok position := by
  rw [next, held]
  exact if_pos fits

/-- A channel that is enabled is read from its registers. -/
theorem channel_of_registers
    {number : Nat}
    {data : ChannelData}
    (known : number < Standard.channelCount)
    (enabled : descriptor.get (Registers.channelEnabled number) = .ok 1)
    (offset : descriptor.get (Registers.channelOffset number) = .ok data.offset.toNat)
    (length : descriptor.get (Registers.channelLength number) = .ok data.length.toNat) :
    descriptor.channel number = .ok (some data) := by
  rw [channel, checkChannel, if_pos known, enabled, offset, length]
  simp only [bind, Except.bind, pure, Except.pure, UInt32.ofNat_toNat]
  rfl

/-- A surface that is enabled is read from its registers. -/
theorem surface_of_registers
    {enabled base interleave : Name}
    {names : Registers.StrideNames}
    {surface : StridedSurface}
    (enabledEq : descriptor.get enabled = .ok 1)
    (baseEq : descriptor.get base = .ok surface.base.toNat)
    (rowEq : descriptor.get names.row = .ok surface.strides.row.toNat)
    (planeEq : descriptor.get names.plane = .ok surface.strides.plane.toNat)
    (depthEq : descriptor.get names.depth = .ok surface.strides.depth.toNat)
    (batchEq : descriptor.get names.batch = .ok surface.strides.batch.toNat)
    (interleaveEq : descriptor.get interleave = .ok surface.interleave.toNat) :
    descriptor.surface enabled base interleave names = .ok (some surface) := by
  unfold Descriptor.surface strides extent
  simp only [enabledEq, baseEq, rowEq, planeEq, depthEq, batchEq, interleaveEq, Except.map, bind,
    Except.bind, pure, Except.pure, UInt32.ofNat_toNat, UInt8.ofNat_toNat]
  rfl

/-- A surface that is not enabled is not there. -/
theorem surface_of_disabled
    {enabled : Name}
    (disabled : descriptor.get enabled = .ok 0)
    (base interleave : Name)
    (names : Registers.StrideNames) :
    descriptor.surface enabled base interleave names = .ok none := by
  unfold Descriptor.surface
  rw [disabled]
  rfl

/-- A register of the zero record holds zero. -/
theorem get_empty
    {name : Name}
    {field : Field}
    (found : Table.standard.lookup name = .ok field) :
    Descriptor.empty.get name = .ok 0 := by
  unfold get
  rw [show Descriptor.empty.table = Table.standard from rfl, found]
  exact congrArg Except.ok (Field.unsigned_zero field)

/-- An extent is read as it was written. -/
theorem extent_of_get
    {name : Name}
    {extent : UInt32}
    (held : descriptor.get name = .ok extent.toNat) :
    descriptor.extent name = .ok extent := by
  rw [Descriptor.extent, held]
  exact congrArg Except.ok (UInt32.ofNat_toNat ..)

theorem inputShape_of_registers
    (column : descriptor.get Registers.inputColumn = .ok shape.column.toNat)
    (row : descriptor.get Registers.inputRow = .ok shape.row.toNat)
    (plane : descriptor.get Registers.inputPlane = .ok shape.plane.toNat)
    (depth : descriptor.get Registers.inputDepth = .ok shape.depth.toNat)
    (group : descriptor.get Registers.group = .ok shape.group.toNat) :
    descriptor.inputShape = .ok shape := by
  rw [inputShape, extent_of_get column, extent_of_get row, extent_of_get plane,
    extent_of_get depth, extent_of_get group]
  rfl

/-- The shape of the output is read from its registers and from the groups of the input. -/
theorem outputShape_of_group
    (column : descriptor.get Registers.outputColumn = .ok shape.column.toNat)
    (row : descriptor.get Registers.outputRow = .ok shape.row.toNat)
    (plane : descriptor.get Registers.outputPlane = .ok shape.plane.toNat)
    (depth : descriptor.get Registers.outputDepth = .ok shape.depth.toNat)
    {group : UInt32}
    (groupEq : descriptor.extent Registers.group = .ok group) :
    descriptor.outputShape = .ok { shape with group := group } := by
  rw [outputShape, extent_of_get column, extent_of_get row, extent_of_get plane,
    extent_of_get depth, groupEq]
  rfl

theorem outputShape_of_registers
    (column : descriptor.get Registers.outputColumn = .ok shape.column.toNat)
    (row : descriptor.get Registers.outputRow = .ok shape.row.toNat)
    (plane : descriptor.get Registers.outputPlane = .ok shape.plane.toNat)
    (depth : descriptor.get Registers.outputDepth = .ok shape.depth.toNat)
    (group : descriptor.get Registers.group = .ok shape.group.toNat) :
    descriptor.outputShape = .ok shape :=
  outputShape_of_group column row plane depth (extent_of_get group)

/-- An element type is read from its code. -/
theorem elementType_of_get
    {name : Name}
    {type : Tensor.ElementType}
    (held : descriptor.get name = .ok type.code) :
    descriptor.elementType name = .ok type := by
  rw [elementType, held]
  exact Tensor.ElementType.ofCode_code name.text type

/-- A hint is read from its code. -/
theorem residency_of_get
    {lane : Residency.Lane}
    {hint : Residency.Hint}
    (held : descriptor.get (Registers.residency lane) = .ok hint.code) :
    descriptor.residency lane = .ok hint := by
  rw [residency, held]
  simp only [Except.map, Residency.Hint.ofCode?_code, Option.getD_some]

/-- A scalar is read from half precision as it was rounded. -/
theorem scalar_of_get
    {name : Name}
    {scalar : Binary.Single}
    (held : descriptor.get name = .ok scalar.toHalf.bits.toNat) :
    descriptor.scalar name = .ok scalar.toHalf.toSingle := by
  rw [Descriptor.scalar, held]
  simp only [Except.map, UInt16.ofNat_toNat]

/-- An activation is read with its parameters rounded to half precision. -/
theorem activation_of_registers
    {activation : Activation}
    (kind : descriptor.get Registers.activationKind = .ok activation.kind.code)
    (first : descriptor.get Registers.activationFirst = .ok activation.first.toHalf.bits.toNat)
    (second : descriptor.get Registers.activationSecond = .ok activation.second.toHalf.bits.toNat) :
    descriptor.activation = .ok
      ⟨activation.kind, activation.first.toHalf.toSingle, activation.second.toHalf.toSingle⟩ := by
  rw [Descriptor.activation, kind, scalar_of_get first, scalar_of_get second, Outcome.ok_bind,
    Activation.Kind.ofCode, Activation.Kind.ofCode?_code]
  rfl

end Descriptor
end TileProgram
