import Mathlib.Algebra.Group.Int.Defs
import Mathlib.Algebra.Group.Nat.Defs
import TileProgram.Proofs.Descriptor.Settings
import TileProgram.Proofs.Stage.Refusals
import TileProgram.Proofs.Stage.Soundness

/-!
# The parameters of a stage of one node

The record of a stage of one node holds the codes and parameters of its
operation and its activation, wherever its operands and its result lie.  So
records with the same bytes come from the same operation and activation, up to
the rounding of scalars.  A number that has no room in its register is never cut
off: the stage is refused.
-/

namespace TileProgram

open Register

/-- One operation with the same parameters, of which scalars are the same in half precision. -/
inductive Network.Operation.Alike : Operation → Operation → Prop
  | same (operation : Operation) : Alike operation operation
  | scaleBias
      {scale bias otherScale otherBias : Binary.Single}
      (scales : scale.toHalf = otherScale.toHalf)
      (biases : bias.toHalf = otherBias.toHalf) :
      Alike (.scaleBias scale bias) (.scaleBias otherScale otherBias)
  | normalization
      {kind : NormKind}
      {epsilon otherEpsilon : Binary.Single}
      (epsilons : epsilon.toHalf = otherEpsilon.toHalf) :
      Alike (.normalization kind epsilon) (.normalization kind otherEpsilon)

/-- One activation, whose parameters are the same in half precision if it has any. -/
structure Activation.Alike (first second : Activation) : Prop where
  kinds : first.kind = second.kind
  parameters : first.kind ≠ .identity →
    first.first.toHalf = second.first.toHalf ∧ first.second.toHalf = second.second.toHalf

/-- Scalars in half precision are the same when their bits are the same number. -/
theorem Binary.Half.eq_of_toNat_eq
    {first second : Half}
    (same : first.bits.toNat = second.bits.toNat) :
    first = second := by
  cases first
  cases second
  exact congrArg Half.mk (UInt16.toNat_inj.mp same)

/-- Different selectors have different codes. -/
theorem Activation.Kind.eq_of_code_eq
    {first second : Kind}
    (same : first.code = second.code) :
    first = second :=
  Option.some.inj ((ofCode?_code first).symm.trans (same ▸ ofCode?_code second))

/-- Different modes of pooling have different codes. -/
theorem Network.PoolMode.eq_of_code_eq
    {mode other : PoolMode}
    (same : mode.code = other.code) :
    mode = other := by
  cases mode <;> cases other <;> first | rfl | cases same

/-- So have different pointwise operators. -/
theorem Network.Pointwise.eq_of_code_eq
    {operator other : Pointwise}
    (same : operator.code = other.code) :
    operator = other := by
  cases operator <;> cases other <;> first | rfl | cases same

/-- So have different kinds of normalization. -/
theorem Network.NormKind.eq_of_code_eq
    {kind other : NormKind}
    (same : kind.code = other.code) :
    kind = other := by
  cases kind <;> cases other <;> first | rfl | cases same

namespace Assignment

variable {descriptor : Descriptor} {name : Name}

/-- A register holds one unsigned value only. -/
theorem eq_of_heldBy_unsigned
    {value other : Nat}
    (first : (unsigned name value).HeldBy descriptor)
    (second : (unsigned name other).HeldBy descriptor) :
    value = other :=
  Except.ok.inj (Eq.trans (Eq.symm first) second)

/-- A register holds one signed value only. -/
theorem eq_of_heldBy_signed
    {value other : Int}
    (first : (signed name value).HeldBy descriptor)
    (second : (signed name other).HeldBy descriptor) :
    value = other :=
  Except.ok.inj (Eq.trans (Eq.symm first) second)

/-- What a record holds depends on its table and its bits. -/
theorem HeldBy.congr
    {other : Descriptor}
    {assignment : Assignment}
    (held : assignment.HeldBy descriptor)
    (tables : other.table = descriptor.table)
    (bits : other.bits = descriptor.bits) :
    assignment.HeldBy other := by
  unfold HeldBy Descriptor.get Descriptor.getSigned at held ⊢
  rwa [tables, bits]

end Assignment

namespace Stage

open Network Assignment

variable {node other : Node} {binding otherBinding : Binding} {index otherIndex : Nat}
  {record otherRecord : Descriptor}

/-- The assignments of a stage of one node that do not come from its binding. -/
def ownAssignments (node : Node) : List Assignment :=
  primaryAssignments node.operation ++ activationAssignments node ++
    Descriptor.operationAssignments node.operation.classCode node.operation.variantCode 0

theorem assignments_singleton (node : Node) (binding : Binding) :
    assignments node [] binding = binding.assignments ++ ownAssignments node := by
  simp [assignments, ownAssignments]

/-- The parameters of an operation have registers of their own. -/
theorem nodup_primary (operation : Operation) :
    ((primaryAssignments operation).map Assignment.name).Nodup := by
  unfold primaryAssignments
  cases operation with
  | pointwise operator => cases operator <;> simp
  | _ =>
      simp [Descriptor.windowAssignments, scaleBiasAssignments, Descriptor.scaleAssignments,
        Descriptor.biasAssignments, Registers.kernelWidth, Registers.kernelHeight,
        Registers.stepAcross, Registers.stepDown, Registers.paddingAcross,
        Registers.paddingDown, Registers.groupCount, Registers.poolWidth, Registers.poolHeight,
        Registers.scaleMode, Registers.scale, Registers.biasMode, Registers.bias]

/-- So have the parts of an activation. -/
theorem nodup_activation (node : Node) :
    ((activationAssignments node).map Assignment.name).Nodup := by
  unfold activationAssignments
  split
  · exact List.nodup_nil
  · cases tableOf? node <;>
      simp [Descriptor.activationAssignments, Registers.activationKind, Registers.activationFirst,
        Registers.activationSecond, Registers.lookupLength]

/-- The registers of the codes of an operation. -/
def operationNames : List Name :=
  [Registers.operationType, Registers.operationVariant, Registers.foldedCount]

theorem operationNames_apart :
    operationNames.Nodup ∧
      ∀ name ∈ operationNames, name ∉ parameterNames ∧ name ∉ activationNames := by
  decide +kernel

/-- A node assigns nothing to a register twice. -/
theorem nodup_own (node : Node) : ((ownAssignments node).map Assignment.name).Nodup := by
  have parameters : ∀ name ∈ (primaryAssignments node.operation).map Assignment.name,
      name ∈ parameterNames := by
    simpa using name_mem_parameterNames node.operation
  have activation : ∀ name ∈ (activationAssignments node).map Assignment.name,
      name ∈ activationNames := by
    simpa using name_mem_activationNames node
  have codes : (Descriptor.operationAssignments node.operation.classCode
      node.operation.variantCode 0).map Assignment.name = operationNames := rfl
  rw [ownAssignments, List.map_append, List.map_append, codes, List.nodup_append,
    List.nodup_append]
  refine ⟨⟨nodup_primary _, nodup_activation _, ?_⟩, operationNames_apart.1, ?_⟩
  · intro name parameter other listed same
    exact not_mem_activationNames name (parameters name parameter) (same ▸ activation other listed)
  · intro name member other code same
    obtain ⟨noParameter, noActivation⟩ := operationNames_apart.2 other code
    rcases List.mem_append.mp member with parameter | listed
    · exact noParameter (same ▸ parameters name parameter)
    · exact noActivation (same ▸ activation name listed)

/-- The record of a stage of one node holds what the node assigns. -/
theorem heldBy_of_encode (success : encode index [node] binding = .ok record) :
    ∀ assignment ∈ ownAssignments node, assignment.HeldBy record := by
  obtain ⟨primary, folded, descriptor, equal, -, assigned, rfl⟩ := encode_eq_ok success
  cases equal
  rw [assignments_singleton, Descriptor.assigned_append, Outcome.bind_eq_ok] at assigned
  obtain ⟨middle, bound, assigned⟩ := assigned
  have tableEq : middle.table = .standard := (Descriptor.assigned_frame bound).1
  intro assignment present
  have held : assignment.HeldBy descriptor :=
    Descriptor.heldBy_of_assigned (tableEq ▸ Table.standard_separate)
      (tableEq ▸ Table.standard_positive) (nodup_own node) assigned assignment present
  exact held.congr rfl rfl

/-- Assignments to one register assign the same amount. -/
structure Compatible (first second : List Assignment) : Prop where
  unsigned : ∀ name {value other}, Assignment.unsigned name value ∈ first →
    Assignment.unsigned name other ∈ second → value = other
  signed : ∀ name {value other}, Assignment.signed name value ∈ first →
    Assignment.signed name other ∈ second → value = other

/-- Fewer assignments are compatible all the more. -/
theorem Compatible.mono
    {first second fewer others : List Assignment}
    (compatible : Compatible first second)
    (part : fewer ⊆ first)
    (otherPart : others ⊆ second) :
    Compatible fewer others :=
  ⟨fun name _ _ here there => compatible.unsigned name (part here) (otherPart there),
    fun name _ _ here there => compatible.signed name (part here) (otherPart there)⟩

/-- Assignments that one record holds are compatible. -/
theorem compatible_of_heldBy
    {first second : List Assignment}
    (firstHeld : ∀ assignment ∈ first, assignment.HeldBy record)
    (secondHeld : ∀ assignment ∈ second, assignment.HeldBy record) :
    Compatible first second :=
  ⟨fun _ _ _ here there => eq_of_heldBy_unsigned (firstHeld _ here) (secondHeld _ there),
    fun _ _ _ here there => eq_of_heldBy_signed (firstHeld _ here) (secondHeld _ there)⟩

namespace Compatible

variable {name : Name} {first second : List Assignment}

/-- Compatible assignments that begin at one register begin with the same value. -/
theorem unsigned_cons
    {value other : Nat}
    (compatible :
      Compatible (.unsigned name value :: first) (.unsigned name other :: second)) :
    value = other ∧ Compatible first second :=
  ⟨compatible.unsigned name List.mem_cons_self List.mem_cons_self,
    compatible.mono (List.subset_cons_self _ _) (List.subset_cons_self _ _)⟩

/-- So they do when the value is signed. -/
theorem signed_cons
    {value other : Int}
    (compatible : Compatible (.signed name value :: first) (.signed name other :: second)) :
    value = other ∧ Compatible first second :=
  ⟨compatible.signed name List.mem_cons_self List.mem_cons_self,
    compatible.mono (List.subset_cons_self _ _) (List.subset_cons_self _ _)⟩

/-- Compatible assignments that begin with a pair of words begin with the same pair. -/
theorem words_cons
    {across down : Name}
    {pair other : UInt32 × UInt32}
    (compatible : Compatible
      (.unsigned across pair.1.toNat :: .unsigned down pair.2.toNat :: first)
      (.unsigned across other.1.toNat :: .unsigned down other.2.toNat :: second)) :
    pair = other ∧ Compatible first second := by
  obtain ⟨sameAcross, compatible⟩ := compatible.unsigned_cons
  obtain ⟨sameDown, compatible⟩ := compatible.unsigned_cons
  exact ⟨Prod.ext (UInt32.toNat_inj.mp sameAcross) (UInt32.toNat_inj.mp sameDown), compatible⟩

/-- So they do when the words are signed. -/
theorem signedWords_cons
    {across down : Name}
    {pair other : Int32 × Int32}
    (compatible : Compatible
      (.signed across pair.1.toInt :: .signed down pair.2.toInt :: first)
      (.signed across other.1.toInt :: .signed down other.2.toInt :: second)) :
    pair = other ∧ Compatible first second := by
  obtain ⟨sameAcross, compatible⟩ := compatible.signed_cons
  obtain ⟨sameDown, compatible⟩ := compatible.signed_cons
  exact ⟨Prod.ext (Int32.toInt_inj.mp sameAcross) (Int32.toInt_inj.mp sameDown), compatible⟩

/-- Compatible assignments of single bytes assign the same byte. -/
theorem byte_eq
    {value other : UInt8}
    (compatible :
      Compatible [.unsigned name value.toNat] [.unsigned name other.toNat]) :
    value = other :=
  UInt8.toNat_inj.mp compatible.unsigned_cons.1

end Compatible

/-- Operations of one kind that assign compatible parameters are alike. -/
theorem operation_alike
    {operation otherOperation : Operation}
    (class_ : operation.classCode = otherOperation.classCode)
    (variant : operation.variantCode = otherOperation.variantCode)
    (compatible :
      Compatible (primaryAssignments operation) (primaryAssignments otherOperation)) :
    operation.Alike otherOperation := by
  cases operation with
  | convolution kernel stride padding groups =>
      cases otherOperation with
      | convolution otherKernel otherStride otherPadding otherGroups =>
          obtain ⟨kernels, compatible⟩ := Compatible.words_cons compatible
          obtain ⟨strides, compatible⟩ := Compatible.words_cons compatible
          obtain ⟨paddings, compatible⟩ := Compatible.signedWords_cons compatible
          obtain ⟨groupCount, -⟩ := Compatible.unsigned_cons compatible
          rw [kernels, strides, paddings, UInt32.toNat_inj.mp groupCount]
          exact .same _
      | _ => cases class_
  | pooling mode kernel stride =>
      cases otherOperation with
      | pooling otherMode otherKernel otherStride =>
          obtain ⟨kernels, compatible⟩ := Compatible.words_cons compatible
          obtain ⟨strides, -⟩ := Compatible.words_cons compatible
          rw [PoolMode.eq_of_code_eq variant, kernels, strides]
          exact .same _
      | _ => cases class_
  | pointwise operator =>
      cases otherOperation with
      | pointwise otherOperator =>
          rw [Pointwise.eq_of_code_eq variant]
          exact .same _
      | _ => cases class_
  | concat axis =>
      cases otherOperation with
      | concat otherAxis =>
          rw [Compatible.byte_eq compatible]
          exact .same _
      | _ => cases class_
  | transpose mode =>
      cases otherOperation with
      | transpose otherMode =>
          rw [Compatible.byte_eq compatible]
          exact .same _
      | _ => cases class_
  | scaleBias scale bias =>
      cases otherOperation with
      | scaleBias otherScale otherBias =>
          -- Each scalar is preceded by a register that says that it is there.
          obtain ⟨-, compatible⟩ := Compatible.unsigned_cons compatible
          obtain ⟨scales, compatible⟩ := Compatible.unsigned_cons compatible
          obtain ⟨-, compatible⟩ := Compatible.unsigned_cons compatible
          obtain ⟨biases, -⟩ := Compatible.unsigned_cons compatible
          exact .scaleBias (Binary.Half.eq_of_toNat_eq scales) (Binary.Half.eq_of_toNat_eq biases)
      | _ => cases class_
  | broadcast mask =>
      cases otherOperation with
      | broadcast otherMask =>
          rw [Compatible.byte_eq compatible]
          exact .same _
      | _ => cases class_
  | softmax axis =>
      cases otherOperation with
      | softmax otherAxis =>
          rw [Compatible.byte_eq compatible]
          exact .same _
      | _ => cases class_
  | normalization kind epsilon =>
      cases otherOperation with
      | normalization otherKind otherEpsilon =>
          rw [NormKind.eq_of_code_eq variant]
          exact .normalization (Binary.Half.eq_of_toNat_eq (Compatible.unsigned_cons compatible).1)
      | _ => cases class_
  | reshape | matrixProduct | activation =>
      cases otherOperation with
      | reshape | matrixProduct | activation => first | exact .same _ | cases class_
      | _ => cases class_

/-- A stage of one node selects the activation of the node. -/
theorem selected_singleton (node : Node) : selected [node] = node.activation.kind := by
  rw [selected, lastActive?_cons]
  cases plain : node.activation.isNone with
  | true =>
      have identity : node.activation.kind = .identity := by
        simpa [Activation.isNone] using plain
      rw [identity]
      rfl
  | false => rfl

/-- An activation that is one assigns its parameters. -/
theorem mem_activationAssignments (active : node.activation.kind ≠ .identity) :
    Assignment.unsigned Registers.activationFirst node.activation.first.toHalf.bits.toNat ∈
        activationAssignments node ∧
      Assignment.unsigned Registers.activationSecond
        node.activation.second.toHalf.bits.toNat ∈ activationAssignments node := by
  have present : node.activation.isNone = false := by
    simpa [Activation.isNone] using active
  rw [activationAssignments, present]
  simp [Descriptor.activationAssignments]

/-- Stages of one node with the same record bytes have the same operation and activation. -/
theorem alike_of_encode
    (first : encode index [node] binding = .ok record)
    (second : encode otherIndex [other] otherBinding = .ok otherRecord)
    (same : record.toBytes = otherRecord.toBytes) :
    node.operation.Alike other.operation ∧ node.activation.Alike other.activation := by
  have bits : record.bits = otherRecord.bits := by
    rw [← bitsOfBytes_bytesOfBits record.bits, ← bitsOfBytes_bytesOfBits otherRecord.bits]
    exact congrArg _ same
  have tables : record.table = otherRecord.table :=
    (lookup_of_encode first).1.trans (lookup_of_encode second).1.symm
  have compatible : Compatible (ownAssignments node) (ownAssignments other) :=
    compatible_of_heldBy (heldBy_of_encode first) fun assignment present =>
      (heldBy_of_encode second assignment present).congr tables bits
  have kinds : node.activation.kind = other.activation.kind := by
    have here := activationKind_of_encode first
    have there := activationKind_of_encode second
    rw [selected_singleton] at here there
    have moved : record.get Registers.activationKind =
        otherRecord.get Registers.activationKind := by
      rw [Descriptor.get, Descriptor.get, tables, bits]
    rw [here, there] at moved
    exact Activation.Kind.eq_of_code_eq (Except.ok.inj moved)
  refine ⟨operation_alike ?_ ?_ ?_, kinds, ?_⟩
  · apply compatible.unsigned Registers.operationType <;>
      simp [ownAssignments, Descriptor.operationAssignments]
  · apply compatible.unsigned Registers.operationVariant <;>
      simp [ownAssignments, Descriptor.operationAssignments]
  · refine compatible.mono ?_ ?_ <;> simp [ownAssignments]
  · intro active
    obtain ⟨firstHere, secondHere⟩ := mem_activationAssignments active
    obtain ⟨firstThere, secondThere⟩ := mem_activationAssignments (kinds ▸ active)
    exact ⟨Binary.Half.eq_of_toNat_eq (compatible.unsigned Registers.activationFirst
        (by simp [ownAssignments, firstHere]) (by simp [ownAssignments, firstThere])),
      Binary.Half.eq_of_toNat_eq (compatible.unsigned Registers.activationSecond
        (by simp [ownAssignments, secondHere]) (by simp [ownAssignments, secondThere]))⟩

/-!
## Parameters without room

A parameter that is a number has room in its register when it has no more bits
than the register.  A stage with one that has no room is refused.
-/

/-- The unsigned parameters of an operation, with their registers and how many bits these have. -/
def unsignedParameters : Operation → List (Name × Nat × Nat)
  | .convolution kernel stride _ groups =>
      [ (Registers.kernelWidth, kernel.1.toNat, 5), (Registers.kernelHeight, kernel.2.toNat, 5),
        (Registers.stepAcross, stride.1.toNat, 2), (Registers.stepDown, stride.2.toNat, 2),
        (Registers.groupCount, groups.toNat, 13) ]
  | .pooling _ kernel stride =>
      [ (Registers.poolWidth, kernel.1.toNat, 5), (Registers.poolHeight, kernel.2.toNat, 5),
        (Registers.stepAcross, stride.1.toNat, 2), (Registers.stepDown, stride.2.toNat, 2) ]
  | .concat axis => [(Registers.axis, axis.toNat, 3)]
  | .softmax axis => [(Registers.axis, axis.toNat, 3)]
  | .transpose mode => [(Registers.transposeMode, mode.toNat, 4)]
  | .broadcast mask => [(Registers.broadcastMask, mask.toNat, 5)]
  | _ => []

/-- The signed parameters of an operation, with their registers and how many bits these have. -/
def signedParameters : Operation → List (Name × Int × Nat)
  | .convolution _ _ padding _ =>
      [ (Registers.paddingAcross, padding.1.toInt, 6),
        (Registers.paddingDown, padding.2.toInt, 6) ]
  | _ => []

/-- A parameter of an operation has no room in a register of some width. -/
inductive Misfit (operation : Operation) : Name → Int → Nat → Prop
  | unsigned
      {name : Name}
      {value width : Nat}
      (listed : (name, value, width) ∈ unsignedParameters operation)
      (large : 2 ^ width ≤ value) :
      Misfit operation name value width
  | signed
      {name : Name}
      {value : Int}
      {width : Nat}
      (listed : (name, value, width) ∈ signedParameters operation)
      (outside : value < -2 ^ (width - 1) ∨ 2 ^ (width - 1) ≤ value) :
      Misfit operation name value width

/-- The registers of the parameters of operations, with their widths. -/
def parameterWidths : List (Name × Nat) :=
  [ (Registers.kernelWidth, 5), (Registers.kernelHeight, 5), (Registers.stepAcross, 2),
    (Registers.stepDown, 2), (Registers.groupCount, 13), (Registers.poolWidth, 5),
    (Registers.poolHeight, 5), (Registers.axis, 3), (Registers.transposeMode, 4),
    (Registers.broadcastMask, 5), (Registers.paddingAcross, 6), (Registers.paddingDown, 6),
    (Registers.multiplyMode, 1), (Registers.epsilon, 16) ]

theorem width_parameter :
    ∀ pair ∈ parameterWidths, (Table.standard.find? pair.1).map Field.width = some pair.2 := by
  decide +kernel

theorem narrow_parameter : ∀ pair ∈ parameterWidths, pair.2 ≤ Field.greatestWidth := by
  decide

theorem width_unsignedParameters (operation : Operation) :
    ∀ parameter ∈ unsignedParameters operation,
      (parameter.1, parameter.2.2) ∈ parameterWidths := by
  cases operation <;> simp [unsignedParameters, parameterWidths]

theorem width_signedParameters (operation : Operation) :
    ∀ parameter ∈ signedParameters operation,
      (parameter.1, parameter.2.2) ∈ parameterWidths := by
  cases operation <;> simp [signedParameters, parameterWidths]

/-- The assignments of parameters that are no numbers. -/
def scalarAssignments : Operation → List Assignment
  | .pointwise .multiply => [.unsigned Registers.multiplyMode 1]
  | .scaleBias scale bias => scaleBiasAssignments scale bias
  | .normalization _ epsilon => [.unsigned Registers.epsilon epsilon.toHalf.bits.toNat]
  | _ => []

/-- Every parameter of an operation is assigned to its register, and nothing else is. -/
theorem mem_primaryAssignments_iff {operation : Operation} {assignment : Assignment} :
    assignment ∈ primaryAssignments operation ↔
      (∃ name value width, (name, value, width) ∈ unsignedParameters operation ∧
        assignment = .unsigned name value) ∨
      (∃ name value width, (name, value, width) ∈ signedParameters operation ∧
        assignment = .signed name value) ∨
      assignment ∈ scalarAssignments operation := by
  unfold primaryAssignments unsignedParameters signedParameters scalarAssignments
  cases operation with
  | pointwise operator => cases operator <;> simp
  | convolution kernel stride padding groups =>
      simp [Descriptor.windowAssignments, or_and_right, exists_or]
      -- The groups are assigned behind the paddings.
      tauto
  | _ => simp [or_and_right, exists_or]

/-- Scalars have room. -/
theorem takes_scalars (operation : Operation) :
    Table.standard.Takes (scalarAssignments operation) := by
  cases operation with
  | pointwise operator =>
      cases operator with
      | multiply =>
          have width := width_parameter (Registers.multiplyMode, 1) (by simp [parameterWidths])
          exact Table.takes_cons.mpr ⟨Table.hasRoom_unsigned width (by decide), Table.takes_nil⟩
      | _ => exact Table.takes_nil
  | scaleBias scale bias => exact takes_folded (.scaleBias scale bias)
  | normalization kind epsilon =>
      have width := width_parameter (Registers.epsilon, 16) (by simp [parameterWidths])
      exact Table.takes_cons.mpr
        ⟨Table.hasRoom_unsigned width epsilon.toHalf.bits.toNat_lt, Table.takes_nil⟩
  | _ => exact Table.takes_nil

end Stage

namespace Assignment

variable {table : Table} {name : Name} {width : Nat} {error : Error}

/-- An unsigned value has no room in a register of too few bits. -/
theorem overflows_unsigned_iff
    {value : Nat}
    (found : (table.find? name).map Field.width = some width) :
    (unsigned name value).Overflows table error ↔
      2 ^ width ≤ value ∧ error = .fieldOverflow name value width := by
  obtain ⟨field, present, rfl⟩ := Option.map_eq_some_iff.mp found
  simp [Overflows, present, Field.accepts, Amount.value]

/-- A signed value has no room in a register of too few bits. -/
theorem overflows_signed_iff
    {value : Int}
    (found : (table.find? name).map Field.width = some width)
    (narrow : width ≤ Field.greatestWidth) :
    (signed name value).Overflows table error ↔
      (value < -2 ^ (width - 1) ∨ 2 ^ (width - 1) ≤ value) ∧
        error = .fieldOverflow name value width := by
  obtain ⟨field, present, rfl⟩ := Option.map_eq_some_iff.mp found
  have valueWidth : field.valueWidth = field.width := Nat.min_eq_left narrow
  have amount : (signed name value).amount = .signed value := rfl
  have outside : field.accepts (.signed value) = false ↔
      value < -2 ^ (field.width - 1) ∨ 2 ^ (field.width - 1) ≤ value := by
    simp only [Field.accepts, Field.signedLeast, Field.signedGreatest, valueWidth, Nat.pow_eq,
      Bool.and_eq_false_iff, decide_eq_false_iff_not]
    push_cast
    omega
  simp only [Overflows, signed_name, present, Option.some.injEq, exists_eq_left', amount, outside,
    Amount.value]

/-- An amount that has room does not overflow. -/
theorem Overflows.hasRoom_eq_false
    {assignment : Assignment}
    (overflows : assignment.Overflows table error) :
    assignment.hasRoom table = false := by
  obtain ⟨field, found, refused, -⟩ := overflows
  rw [hasRoom, found]
  exact refused

end Assignment

namespace Stage

open Network Assignment

variable {node : Node} {binding : Binding} {index : Nat}

/-- A parameter has no room exactly when its assignment fails, with the error that tells of it. -/
theorem misfit_iff {operation : Operation} {error : Error} :
    (∃ assignment ∈ primaryAssignments operation, assignment.Overflows .standard error) ↔
      ∃ name value width, Misfit operation name value width ∧
        error = .fieldOverflow name value width := by
  constructor
  · rintro ⟨assignment, present, overflows⟩
    rcases mem_primaryAssignments_iff.mp present with
      ⟨name, value, width, listed, rfl⟩ | ⟨name, value, width, listed, rfl⟩ | scalar
    · have found := width_parameter _ (width_unsignedParameters operation _ listed)
      obtain ⟨large, rfl⟩ := (overflows_unsigned_iff found).mp overflows
      exact ⟨name, value, width, .unsigned listed large, rfl⟩
    · have listedWidth := width_signedParameters operation _ listed
      obtain ⟨outside, rfl⟩ := (overflows_signed_iff (width_parameter _ listedWidth)
        (narrow_parameter _ listedWidth)).mp overflows
      exact ⟨name, value, width, .signed listed outside, rfl⟩
    · have room := takes_scalars operation assignment scalar
      rw [overflows.hasRoom_eq_false] at room
      cases room
  · rintro ⟨name, value, width, misfit, rfl⟩
    cases misfit with
    | unsigned listed large =>
        have found := width_parameter _ (width_unsignedParameters operation _ listed)
        exact ⟨_, mem_primaryAssignments_iff.mpr (Or.inl ⟨_, _, _, listed, rfl⟩),
          (overflows_unsigned_iff found).mpr ⟨large, rfl⟩⟩
    | signed listed outside =>
        have listedWidth := width_signedParameters operation _ listed
        exact ⟨_, mem_primaryAssignments_iff.mpr (Or.inr (Or.inl ⟨_, _, _, listed, rfl⟩)),
          (overflows_signed_iff (width_parameter _ listedWidth)
            (narrow_parameter _ listedWidth)).mpr ⟨outside, rfl⟩⟩

/-- An operation with a parameter that has no room does not look at shapes. -/
theorem Misfit.shapeDefect?_eq_none
    {name : Name}
    {value : Int}
    {width : Nat}
    (misfit : Misfit node.operation name value width)
    (inputs : List Placed) :
    shapeDefect? node inputs = none := by
  unfold shapeDefect?
  cases operationEq : node.operation with
  | pointwise | scaleBias | activation | reshape =>
      rw [operationEq] at misfit
      cases misfit with
      | unsigned listed _ => cases listed
      | signed listed _ => cases listed
  | _ => rfl

/-- An operation with a parameter that has no room makes its assignments fail for such a one. -/
theorem Misfit.assigned_eq_error
    {name : Name}
    {value : Int}
    {width : Nat}
    {descriptor : Descriptor}
    (misfit : Misfit node.operation name value width)
    (builtIn : descriptor.table = .standard) :
    ∃ name value width, Misfit node.operation name value width ∧
      descriptor.assigned (ownAssignments node) = .error (.fieldOverflow name value width) := by
  obtain ⟨assignment, present, overflows⟩ := misfit_iff.mpr ⟨_, _, _, misfit, rfl⟩
  cases run : descriptor.assigned (primaryAssignments node.operation) with
  | ok changed =>
      have room := (Descriptor.exists_assigned_iff descriptor _).mp ⟨changed, run⟩ assignment present
      rw [builtIn, overflows.hasRoom_eq_false] at room
      cases room
  | error error =>
      have cause := Descriptor.assigned_eq_error (builtIn ▸ knows_primary node.operation) run
      rw [builtIn] at cause
      obtain ⟨name, value, width, misfit, rfl⟩ := misfit_iff.mp cause
      refine ⟨name, value, width, misfit, ?_⟩
      rw [ownAssignments, List.append_assoc, Descriptor.assigned_append, run]
      rfl

/-- A stage of one node with a parameter that has no room is refused for a value without room,
which is a parameter if the binding has room, unless it needs too many channels. -/
theorem encode_of_misfit
    {name : Name}
    {value : Int}
    {width : Nat}
    (misfit : Misfit node.operation name value width)
    (few : binding.channels.length ≤ Standard.channelCount) :
    ∃ name value width,
      encode index [node] binding =
          .error (.invalidRecord index (.fieldOverflow name value width)) ∧
        (Table.standard.Takes binding.assignments → Misfit node.operation name value width) := by
  have encoded : ∀ error, Descriptor.empty.assigned (assignments node [] binding) = .error error →
      encode index [node] binding = .error (.invalidRecord index error) := by
    intro error failed
    unfold encode
    dsimp only
    rw [if_neg (Nat.not_lt_of_le few), misfit.shapeDefect?_eq_none]
    dsimp only
    rw [failed]
  rw [assignments_singleton, Descriptor.assigned_append] at encoded
  cases bound : Descriptor.empty.assigned binding.assignments with
  | error error =>
      have known : Table.standard.Knows binding.assignments :=
        (Table.knows_append.mp (assignments_singleton node binding ▸ knows_assignments few)).1
      obtain ⟨assignment, -, field, -, -, rfl⟩ := Descriptor.assigned_eq_error known bound
      refine ⟨_, _, _, encoded _ (by rw [bound]; rfl), ?_⟩
      intro room
      obtain ⟨changed, run⟩ := (Descriptor.exists_assigned_iff .empty _).mpr room
      rw [bound] at run
      cases run
  | ok middle =>
      obtain ⟨name, value, width, misfit, failed⟩ :=
        misfit.assigned_eq_error (Descriptor.assigned_frame bound).1
      exact ⟨name, value, width, encoded _ (by rw [bound]; exact failed), fun _ => misfit⟩

/-- A stage that needs more channels than there are is refused for that. -/
theorem encode_of_crowded (many : Standard.channelCount < binding.channels.length) :
    encode index [node] binding =
      .error (.channelOverflow index binding.channels.length Standard.channelCount) := by
  unfold encode
  exact if_pos many

/-- The record bytes of stages of one node tell apart all their operations and activations, up to
the rounding of scalars.  A parameter that has no room in its register is not cut off: the stage is
refused for its channels if it needs more than there are, and else for a value without room, which
is such a parameter if the binding has room. -/
theorem parameters_kept :
    (∀ index otherIndex node other binding otherBinding record otherRecord,
      encode index [node] binding = .ok record →
      encode otherIndex [other] otherBinding = .ok otherRecord →
      record.toBytes = otherRecord.toBytes →
      node.operation.Alike other.operation ∧ node.activation.Alike other.activation) ∧
    ∀ index (node : Node) binding name value width, Misfit node.operation name value width →
      (Standard.channelCount < binding.channels.length →
        encode index [node] binding =
          .error (.channelOverflow index binding.channels.length Standard.channelCount)) ∧
      (binding.channels.length ≤ Standard.channelCount →
        ∃ name value width,
          encode index [node] binding =
              .error (.invalidRecord index (.fieldOverflow name value width)) ∧
            (Table.standard.Takes binding.assignments →
              Misfit node.operation name value width)) :=
  ⟨fun _ _ _ _ _ _ _ _ first second same => alike_of_encode first second same,
    fun _ _ _ _ _ _ misfit => ⟨encode_of_crowded, encode_of_misfit misfit⟩⟩

/-- An operation on one strip. -/
def onStrip (operation : Operation) : Node :=
  ⟨operation, [.input 0], ⟨⟨1, 1, 1, 1, 64⟩, .half⟩, ⟨.identity, ⟨0⟩, ⟨0⟩⟩, none, none⟩

/-- One strip is read and another one is written. -/
def stripBinding : Binding where
  inputs := [⟨⟨⟨1, 1, 1, 1, 64⟩, .half⟩, ⟨0, ⟨64, 64, 64, 64⟩, 1⟩, 128⟩]
  output := ⟨⟨⟨1, 1, 1, 1, 64⟩, .half⟩, ⟨4096, ⟨64, 64, 64, 64⟩, 1⟩, 128⟩
  weights := none
  hints := default

/-- Two scales that are one in half precision have the same record, and a mask of six bits is
refused. -/
theorem scales_kept :
    (∃ record, encode 0 [onStrip (.scaleBias ⟨0x3f800000⟩ ⟨0⟩)] stripBinding = .ok record ∧
      encode 0 [onStrip (.scaleBias ⟨0x3f800001⟩ ⟨0⟩)] stripBinding = .ok record ∧
      Operation.Alike (.scaleBias ⟨0x3f800000⟩ ⟨0⟩) (.scaleBias ⟨0x3f800001⟩ ⟨0⟩)) ∧
    ∃ name value width, encode 0 [onStrip (.broadcast 32)] stripBinding =
      .error (.invalidRecord 0 (.fieldOverflow name value width)) := by
  obtain ⟨record, first⟩ : ∃ record,
      encode 0 [onStrip (.scaleBias ⟨0x3f800000⟩ ⟨0⟩)] stripBinding = .ok record := ⟨_, rfl⟩
  have second : encode 0 [onStrip (.scaleBias ⟨0x3f800001⟩ ⟨0⟩)] stripBinding = .ok record := by
    refine Eq.trans ?_ first
    decide +kernel
  have alike := parameters_kept.1 _ _ _ _ _ _ _ _ first second rfl
  have misfit : Misfit (.broadcast 32) Registers.broadcastMask 32 5 :=
    .unsigned List.mem_cons_self (by decide)
  obtain ⟨name, value, width, refused, -⟩ :=
    (parameters_kept.2 0 (onStrip (.broadcast 32)) stripBinding _ _ _ misfit).2 (by decide)
  exact ⟨⟨record, first, second, alike.1⟩, name, value, width, refused⟩

/-- A concatenation of seventeen strips along an axis that does not exist. -/
def crowded : Node :=
  ⟨.concat 8, (List.range 17).map .input, ⟨⟨1, 1, 1, 1, 1088⟩, .half⟩,
    ⟨.identity, ⟨0⟩, ⟨0⟩⟩, none, none⟩

/-- Seventeen strips one behind the other. -/
def crowdedBinding : Binding :=
  { inputs := (List.range 17).map fun number =>
      ⟨⟨⟨1, 1, 1, 1, 64⟩, .half⟩, ⟨UInt32.ofNat (128 * number), ⟨64, 64, 64, 64⟩, 1⟩, 128⟩
    output := ⟨⟨⟨1, 1, 1, 1, 1088⟩, .half⟩, ⟨4096, ⟨64, 64, 64, 64⟩, 1⟩, 2176⟩
    weights := none
    hints := default }

/-- The axis has no room, but the channels are reported. -/
theorem crowded_channels :
    Misfit crowded.operation Registers.axis 8 3 ∧
      encode 0 [crowded] crowdedBinding = .error (.channelOverflow 0 17 16) ∧
      ¬ ∃ name value width, encode 0 [crowded] crowdedBinding =
        .error (.invalidRecord 0 (.fieldOverflow name value width)) := by
  have refused : encode 0 [crowded] crowdedBinding = .error (.channelOverflow 0 17 16) := rfl
  refine ⟨.unsigned List.mem_cons_self (by decide), refused, ?_⟩
  rintro ⟨name, value, width, overflow⟩
  rw [refused] at overflow
  cases overflow

end Stage
end TileProgram
