import TileProgram.Proofs.Descriptor.Assignments
import TileProgram.Proofs.Stage.Folding
import TileProgram.Proofs.Stage.Registers

/-!
# The order of folded nodes

The record of a stage says how many nodes are folded, whether one of them is a
scaling and which binary operation is among them.  This determines the kinds of
the folded nodes, but not their order: folded nodes without activations can be
exchanged and leave the record as it is.
-/

namespace TileProgram

open Register Assignment

namespace Stage

open Network

/-- The binary operation of a folded operation, if it is one. -/
def pointwise? : Operation → Option Pointwise
  | .pointwise operator => some operator
  | _ => none

/-- The scale and bias of a folded operation, if it has them. -/
def scaling? : Operation → Option (Binary.Single × Binary.Single)
  | .scaleBias scale bias => some (scale, bias)
  | _ => none

/-- The class and the variant of an operation. -/
def kind (operation : Operation) : Nat × Nat :=
  (operation.classCode, operation.variantCode)

/-- Folded operations as a record has room for them: of the classes that have
a single slot, one operation at most. -/
structure Slotted (operations : List Operation) : Prop where
  secondary : ∀ operation ∈ operations, operation.isSecondary = true
  slots : operations.Pairwise fun first second =>
    first.classCode = second.classCode → second.isSingleSlot = false

section Kinds

variable {operations others : List Operation}

/-- A list of which no two items may stand together has at most one. -/
theorem length_le_one_of_pairwise
    {α : Type}
    {items : List α}
    (alone : items.Pairwise fun _ _ => False) :
    items.length ≤ 1 := by
  match items, alone with
  | [], _ => exact Nat.zero_le _
  | [_], _ => exact Nat.le_refl _
  | _ :: second :: _, alone =>
      exact absurd ((List.pairwise_cons.mp alone).1 second List.mem_cons_self) id

/-- Such a list is determined by its last item. -/
theorem eq_of_getLast?_eq
    {α : Type}
    {items others : List α}
    (short : items.length ≤ 1)
    (otherShort : others.length ≤ 1)
    (last : items.getLast? = others.getLast?) :
    items = others := by
  match items, others, short, otherShort, last with
  | [], [], _, _, _ => rfl
  | [_], [_], _, _, last => exact congrArg (fun item => [item]) (Option.some.inj last)

/-- There is at most one of the operations of a class with a single slot. -/
theorem Slotted.length_filterMap_le
    {α : Type}
    {choose : Operation → Option α}
    (slotted : Slotted operations)
    (sameClass : ∀ first second one other, choose first = some one → choose second = some other →
      first.classCode = second.classCode ∧ second.isSingleSlot = true) :
    (operations.filterMap choose).length ≤ 1 := by
  apply length_le_one_of_pairwise
  rw [List.pairwise_filterMap]
  refine slotted.slots.imp ?_
  intro first second apart one oneEq other otherEq
  obtain ⟨same, single⟩ := sameClass first second one other oneEq otherEq
  rw [apart same] at single
  cases single

theorem sameClass_pointwise (first second : Operation) (one other : Pointwise)
    (oneEq : pointwise? first = some one) (otherEq : pointwise? second = some other) :
    first.classCode = second.classCode ∧ second.isSingleSlot = true := by
  cases first <;> cases oneEq
  cases second <;> cases otherEq
  exact ⟨rfl, rfl⟩

theorem sameClass_scaling (first second : Operation) (one other : Binary.Single × Binary.Single)
    (oneEq : scaling? first = some one) (otherEq : scaling? second = some other) :
    first.classCode = second.classCode ∧ second.isSingleSlot = true := by
  cases first <;> cases oneEq
  cases second <;> cases otherEq
  exact ⟨rfl, rfl⟩

/-- The kinds of secondary operations: those of the binary ones, those of the
scalings, and as many activations as remain. -/
theorem kinds_perm (secondary : ∀ operation ∈ operations, operation.isSecondary = true) :
    ∃ remaining, (operations.map kind).Perm
      ((operations.filterMap pointwise?).map (fun operator => (3, operator.code)) ++
        ((operations.filterMap scaling?).map (fun _ => (8, 0)) ++
          List.replicate remaining (12, 0))) := by
  induction operations with
  | nil => exact ⟨0, .nil⟩
  | cons operation rest inductionHypothesis =>
      obtain ⟨here, others⟩ := List.forall_mem_cons.mp secondary
      obtain ⟨remaining, perm⟩ := inductionHypothesis others
      cases operation with
      | pointwise operator => exact ⟨remaining, perm.cons _⟩
      | scaleBias scale bias => exact ⟨remaining, (perm.cons _).trans List.perm_middle.symm⟩
      | activation =>
          refine ⟨remaining + 1, (perm.cons _).trans ?_⟩
          rw [List.replicate_succ, ← List.append_assoc, ← List.append_assoc]
          exact List.perm_middle.symm
      | _ => cases here

/-- How many operations there are, which of them is binary and whether one is a
scaling determines their kinds. -/
theorem kinds_perm_of_same
    (slotted : Slotted operations)
    (otherSlotted : Slotted others)
    (length : operations.length = others.length)
    (pointwise : (operations.filterMap pointwise?).getLast? =
      (others.filterMap pointwise?).getLast?)
    (scaling : ((operations.filterMap scaling?).getLast?.map fun _ => 1).getD 0 =
      ((others.filterMap scaling?).getLast?.map fun _ => 1).getD 0) :
    (operations.map kind).Perm (others.map kind) := by
  obtain ⟨remaining, perm⟩ := kinds_perm slotted.secondary
  obtain ⟨otherRemaining, otherPerm⟩ := kinds_perm otherSlotted.secondary
  have pointwiseEq : operations.filterMap pointwise? = others.filterMap pointwise? :=
    eq_of_getLast?_eq (slotted.length_filterMap_le sameClass_pointwise)
      (otherSlotted.length_filterMap_le sameClass_pointwise) pointwise
  have scalingEq : (operations.filterMap scaling?).map (fun _ => (8, 0)) =
      (others.filterMap scaling?).map fun _ => (8, 0) := by
    apply eq_of_getLast?_eq
    · rw [List.length_map]
      exact slotted.length_filterMap_le sameClass_scaling
    · rw [List.length_map]
      exact otherSlotted.length_filterMap_le sameClass_scaling
    · rw [List.getLast?_map, List.getLast?_map]
      cases first : (operations.filterMap scaling?).getLast? <;>
        cases second : (others.filterMap scaling?).getLast? <;> simp_all
  rw [pointwiseEq, scalingEq] at perm
  have lengths := perm.length_eq.symm.trans
    ((List.length_map kind).trans (length.trans (List.length_map kind).symm))
  rw [otherPerm.length_eq] at lengths
  simp only [List.length_append, List.length_replicate] at lengths
  have same : remaining = otherRemaining := by omega
  exact perm.trans (same ▸ otherPerm.symm)

end Kinds

section Records

variable {primary : Node} {folded others : List Node} {binding otherBinding : Binding}
  {index : Nat} {record : Descriptor} {name : Name}

/-- The registers of folded operations. -/
def foldedNames : List Name :=
  [ Registers.scaleMode, Registers.scale, Registers.biasMode, Registers.bias,
    Registers.foldedPointwise ]

/-- The operations into which others are folded leave the registers of folded ones alone. -/
theorem last?_primary_of_isPrimary
    {operation : Operation}
    (member : name ∈ foldedNames)
    (isPrimary : operation.isPrimary = true) :
    last? name (primaryAssignments operation) = none := by
  have elsewhere : ∀ assignment ∈ primaryAssignments operation,
      assignment.name ∉ foldedNames := by
    cases operation with
    | convolution =>
        have apart : ∀ register ∈ [Registers.kernelWidth, Registers.kernelHeight,
            Registers.stepAcross, Registers.stepDown, Registers.paddingAcross,
            Registers.paddingDown, Registers.groupCount], register ∉ foldedNames := by decide
        exact fun _ present => apart _ (List.mem_map_of_mem present)
    | pooling =>
        have apart : ∀ register ∈ [Registers.poolWidth, Registers.poolHeight,
            Registers.stepAcross, Registers.stepDown], register ∉ foldedNames := by decide
        exact fun _ present => apart _ (List.mem_map_of_mem present)
    | _ => cases isPrimary
  exact last?_eq_none fun assignment present same => elsewhere assignment present (same ▸ member)

/-- The last folded operation that assigns to a register of folded operations decides. -/
theorem last?_share
    (member : name ∈ foldedNames)
    (isPrimary : primary.operation.isPrimary = true) :
    last? name (share name.region primary folded binding) =
      ((folded.map Node.operation).filterMap fun operation =>
        last? name (foldedAssignments operation)).getLast? := by
  have region : ∀ name ∈ foldedNames, name.region = .engine := by decide
  have absent : ∀ name ∈ foldedNames, name ∉ activationNames := by decide
  have activation := fun node => last?_activation (absent name member) node
  rw [region name member]
  show last? name (primaryAssignments primary.operation ++ activationAssignments primary ++ _) = _
  rw [last?_append, last?_append, last?_primary_of_isPrimary member isPrimary, activation,
    Option.or_none, Option.or_none, last?_flatMap, List.filterMap_map]
  congr 2
  funext node
  rw [last?_append, activation, Option.none_or]
  rfl

/-- A register of folded operations holds the value of the last one that has a value for it. -/
theorem get_folded_of_encode
    {α : Type}
    {choose : Operation → Option α}
    {value : α → Nat}
    {field : Field}
    (success : encode index (primary :: folded) binding = .ok record)
    (isPrimary : primary.operation.isPrimary = true)
    (member : name ∈ foldedNames)
    (found : Table.standard.lookup name = .ok field)
    (each : ∀ operation, last? name (foldedAssignments operation) =
      (choose operation).map fun chosen => .unsigned (value chosen)) :
    record.get name =
      .ok ((((folded.map Node.operation).filterMap choose).getLast?.map value).getD 0) := by
  have last := @last?_share primary folded binding name member isPrimary
  simp only [each, ← List.map_filterMap, List.getLast?_map] at last
  cases chosen : ((folded.map Node.operation).filterMap choose).getLast? with
  | none =>
      rw [chosen] at last
      exact get_of_share_none success found last
  | some operation =>
      rw [chosen] at last
      exact get_of_share success last

/-- The record of a stage says which binary operation is folded. -/
theorem foldedPointwise_of_encode
    (success : encode index (primary :: folded) binding = .ok record)
    (isPrimary : primary.operation.isPrimary = true) :
    record.get Registers.foldedPointwise =
      .ok ((((folded.map Node.operation).filterMap pointwise?).getLast?.map fun operator =>
        operator.code + 1).getD 0) := by
  refine get_folded_of_encode success isPrimary (by decide)
    (show Table.standard.lookup Registers.foldedPointwise = .ok _ from rfl) ?_
  intro operation
  cases operation <;> rfl

/-- The record of a stage says whether a scaling is folded. -/
theorem scaleMode_of_encode
    (success : encode index (primary :: folded) binding = .ok record)
    (isPrimary : primary.operation.isPrimary = true) :
    record.get Registers.scaleMode =
      .ok ((((folded.map Node.operation).filterMap scaling?).getLast?.map fun _ => 1).getD 0) := by
  refine get_folded_of_encode success isPrimary (by decide)
    (show Table.standard.lookup Registers.scaleMode = .ok _ from rfl) ?_
  intro operation
  cases operation <;> rfl

/-- The record of a stage says how many nodes are folded. -/
theorem foldedCount_of_encode
    (success : encode index (primary :: folded) binding = .ok record) :
    record.get Registers.foldedCount = .ok (min folded.length greatestFoldedCount) := by
  refine get_of_share success ?_
  show last? _ (assignments primary folded binding) = _
  rw [assignments, last?_append]
  rfl

/-- An operation that assigns to a register when it is folded has the only slot of its class. -/
theorem sameClass_last? (name : Name) (first second : Operation) (one other : Amount)
    (oneEq : last? name (foldedAssignments first) = some one)
    (otherEq : last? name (foldedAssignments second) = some other) :
    first.classCode = second.classCode ∧ second.isSingleSlot = true := by
  have apart : ∀ name ∈ [Registers.scaleMode, Registers.scale, Registers.biasMode,
      Registers.bias], name ≠ Registers.foldedPointwise := by decide
  have named : ∀ {operation : Operation} {amount : Amount},
      last? name (foldedAssignments operation) = some amount →
      name = Registers.foldedPointwise ∧ operation.classCode = 3 ∧
          operation.isSingleSlot = true ∨
        name ≠ Registers.foldedPointwise ∧ operation.classCode = 8 ∧
          operation.isSingleSlot = true := by
    intro operation amount last
    obtain ⟨assignment, member, rfl, -⟩ := mem_of_last? last
    cases operation with
    | pointwise operator =>
        rw [foldedAssignments, List.mem_singleton] at member
        exact Or.inl ⟨member ▸ rfl, rfl, rfl⟩
    | scaleBias scale bias =>
        refine Or.inr ⟨?_, rfl, rfl⟩
        simp only [foldedAssignments, scaleBiasAssignments, Descriptor.scaleAssignments,
          Descriptor.biasAssignments, List.cons_append, List.nil_append, List.mem_cons,
          List.not_mem_nil, or_false] at member
        rcases member with rfl | rfl | rfl | rfl <;> exact apart _ (by simp)
    | _ => cases member
  rcases named oneEq with ⟨isPointwise, oneClass, -⟩ | ⟨notPointwise, oneClass, -⟩ <;>
    rcases named otherEq with ⟨otherPointwise, otherClass, single⟩ | ⟨other, otherClass, single⟩
  · exact ⟨oneClass.trans otherClass.symm, single⟩
  · exact absurd isPointwise other
  · exact absurd otherPointwise notPointwise
  · exact ⟨oneClass.trans otherClass.symm, single⟩

/-- A node without an activation assigns nothing for one and has no lookup table. -/
theorem plain_of_isNone
    {node : Node}
    (plain : node.activation.isNone = true) :
    activationAssignments node = [] ∧ tableOf? node = none := by
  have identity : node.activation.kind = .identity := by simpa [Activation.isNone] using plain
  refine ⟨?_, ?_⟩
  · rw [activationAssignments, if_pos plain]
  · rw [tableOf?, identity]
    rfl

/-- What folded operations assign does not depend on their order. -/
theorem assigned_perm
    {operations otherOperations : List Operation}
    {descriptor : Descriptor}
    (standard : descriptor.table = .standard)
    (slotted : Slotted operations)
    (perm : operations.Perm otherOperations) :
    descriptor.assigned (otherOperations.flatMap foldedAssignments) =
      descriptor.assigned (operations.flatMap foldedAssignments) := by
  have takes : ∀ operations : List Operation,
      descriptor.table.Takes (operations.flatMap foldedAssignments) := by
    intro operations
    rw [standard, Table.takes_flatMap]
    exact fun operation _ => takes_folded operation
  obtain ⟨changed, assigned⟩ := (Descriptor.exists_assigned_iff descriptor _).mpr (takes operations)
  obtain ⟨other, otherAssigned⟩ :=
    (Descriptor.exists_assigned_iff descriptor _).mpr (takes otherOperations)
  rw [assigned, otherAssigned]
  refine congrArg Except.ok (Descriptor.eq_of_last?_eq (standard ▸ Table.standard_separate)
    otherAssigned assigned ?_)
  intro name
  rw [last?_flatMap, last?_flatMap]
  have short := slotted.length_filterMap_le (sameClass_last? name)
  have amounts := perm.filterMap fun operation => last? name (foldedAssignments operation)
  match operations.filterMap (fun operation => last? name (foldedAssignments operation)),
    short, amounts with
  | [], _, amounts => rw [List.nil_perm.mp amounts]
  | [_], _, amounts => rw [List.singleton_perm.mp amounts]

/-- Folded nodes without activations assign what their operations assign, and
have no lookup tables. -/
theorem plain_nodes
    {nodes : List Node}
    (plain : ∀ node ∈ nodes, node.activation.isNone = true) :
    (nodes.flatMap fun node => foldedAssignments node.operation ++ activationAssignments node) =
        (nodes.map Node.operation).flatMap foldedAssignments ∧
      lookup? (primary :: nodes) = lookup? [primary] := by
  refine ⟨?_, ?_⟩
  · rw [List.flatMap_map]
    apply List.flatMap_congr
    intro node member
    rw [(plain_of_isNone (plain node member)).1, List.append_nil]
  · have none : nodes.filterMap tableOf? = [] :=
      List.filterMap_eq_nil_iff.mpr fun node member => (plain_of_isNone (plain node member)).2
    rw [lookup?, lookup?, List.filterMap_cons, List.filterMap_cons, none, List.filterMap_nil]

/-- The record of a stage does not depend on the order of the folded nodes, as
long as none of them has an activation. -/
theorem encode_perm
    (plain : ∀ node ∈ folded, node.activation.isNone = true)
    (slotted : Slotted (folded.map Node.operation))
    (perm : folded.Perm others) :
    encode index (primary :: others) binding = encode index (primary :: folded) binding := by
  have otherPlain : ∀ node ∈ others, node.activation.isNone = true :=
    fun node member => plain node (perm.mem_iff.mpr member)
  obtain ⟨assigned, table⟩ := @plain_nodes primary folded plain
  obtain ⟨otherAssigned, otherTable⟩ := @plain_nodes primary others otherPlain
  have same : Descriptor.empty.assigned (assignments primary others binding) =
      Descriptor.empty.assigned (assignments primary folded binding) := by
    unfold assignments
    rw [assigned, otherAssigned, perm.length_eq, Descriptor.assigned_append,
      Descriptor.assigned_append _ _ (Descriptor.operationAssignments _ _ _),
      Descriptor.assigned_append _ _ (List.flatMap _ _),
      Descriptor.assigned_append _ _ (List.flatMap _ _)]
    cases first : Descriptor.empty.assigned (binding.assignments ++
      primaryAssignments primary.operation ++ activationAssignments primary) with
    | error error => rfl
    | ok descriptor =>
        have standard : descriptor.table = .standard := (Descriptor.assigned_frame first).1
        simp only [Except.bind, assigned_perm standard slotted (perm.map Node.operation)]
  unfold encode
  dsimp only
  rw [table, otherTable, same]

/-- The same holds when the folded nodes read their operands elsewhere. -/
theorem encode_perm_bare
    (plain : ∀ node ∈ folded, node.activation.isNone = true)
    (slotted : Slotted (folded.map Node.operation))
    (perm : (folded.map Node.bare).Perm (others.map Node.bare)) :
    encode index (primary :: others) binding = encode index (primary :: folded) binding := by
  have barePlain : ∀ node ∈ folded.map Node.bare, node.activation.isNone = true := by
    intro node member
    obtain ⟨original, originalMember, rfl⟩ := List.mem_map.mp member
    exact plain original originalMember
  have operations : (folded.map Node.bare).map Node.operation = folded.map Node.operation :=
    List.map_map
  rw [← encode_bare, ← encode_bare index (primary :: folded), List.map_cons, List.map_cons]
  exact encode_perm barePlain (operations ▸ slotted) perm

end Records

section Stages

variable {network : Network} {stage : Stage}

/-- The operations of the folded nodes of a stage. -/
def foldedOperations (network : Network) (stage : Stage) : List Operation :=
  (stage.folded.filterMap fun index => network.nodes[index]?).map Node.operation

/-- The record of a stage has room for its folded nodes. -/
theorem Grown.slotted (grown : Grown network stage) : Slotted (foldedOperations network stage) := by
  induction grown with
  | single inside => exact ⟨by simp [foldedOperations], by simp [foldedOperations]⟩
  | @fold stage index node grown present behind folded inductionHypothesis =>
      have foldable := (folds_eq_ok_true folded).1
      have longer : foldedOperations network (stage.fold index) =
          foldedOperations network stage ++ [node.operation] := by
        rw [foldedOperations, Stage.fold, List.filterMap_append, List.map_append,
          List.filterMap_cons, present]
        rfl
      rw [longer]
      refine ⟨?_, List.pairwise_append.mpr ⟨inductionHypothesis.slots, by simp, ?_⟩⟩
      · refine List.forall_mem_append.mpr ⟨inductionHypothesis.secondary, ?_⟩
        simpa using foldable.secondary
      · intro first member second isLast same
        rw [List.mem_singleton.mp isLast] at same ⊢
        obtain ⟨other, otherMember, rfl⟩ := List.mem_map.mp member
        obtain ⟨place, placeMember, otherPresent⟩ := List.mem_filterMap.mp otherMember
        have free := foldable.free
        rw [slotInUse, Bool.and_eq_false_iff] at free
        rcases free with free | free
        · exact free
        · rw [List.any_eq_false] at free
          exact absurd (by simp [otherPresent, same]) (free place placeMember)

end Stages
end Stage
end TileProgram
