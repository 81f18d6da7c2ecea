import TileProgram.Proofs.Endings
import TileProgram.Proofs.Stage.Encodable
import TileProgram.Proofs.Stage.Registers

/-!
# Why stages are refused

A run of assignments to registers that the table has can only fail because an
amount has no room.  The built-in table has all registers of a stage, so a stage
is refused for its channels, its shapes or a value without room, and for no
other reason.
-/

namespace TileProgram

open Register

/-- The error of a value that has no room in its register. -/
def Register.Error.isOverflow : Error → Bool
  | .fieldOverflow .. => true
  | _ => false

/-- The number that an amount stands for. -/
def Amount.value : Amount → Int
  | .unsigned value => value
  | .signed value => value

/-- The amount of an assignment has no room in its register, and the error that tells of it. -/
def Assignment.Overflows (table : Table) (assignment : Assignment) (error : Error) : Prop :=
  ∃ field, table.find? assignment.name = some field ∧
    field.accepts assignment.amount = false ∧
    error = .fieldOverflow assignment.name assignment.amount.value field.width

namespace Register
namespace Table

/-- A table knows the registers of assignments when it has each of them. -/
def Knows (table : Table) (assignments : List Assignment) : Prop :=
  ∀ assignment ∈ assignments, (table.find? assignment.name).isSome = true

variable {table : Table} {first second : List Assignment}

@[simp] theorem knows_nil : table.Knows [] := by simp [Knows]

@[simp] theorem knows_cons {assignment : Assignment} :
    table.Knows (assignment :: first) ↔
      (table.find? assignment.name).isSome = true ∧ table.Knows first := by
  simp [Knows]

@[simp] theorem knows_append :
    table.Knows (first ++ second) ↔ table.Knows first ∧ table.Knows second := by
  simp [Knows, or_imp, forall_and]

@[simp] theorem knows_flatMap {α : Type} {items : List α} {change : α → List Assignment} :
    table.Knows (items.flatMap change) ↔ ∀ item ∈ items, table.Knows (change item) := by
  simp only [Knows, List.mem_flatMap]
  constructor
  · intro all item present assignment member
    exact all assignment ⟨item, present, member⟩
  · rintro all assignment ⟨item, present, member⟩
    exact all item present assignment member

/-- A table that has room for assignments has their registers. -/
theorem Takes.knows (takes : table.Takes first) : table.Knows first := by
  intro assignment present
  have room := takes assignment present
  rw [Assignment.hasRoom, Option.any_eq_true] at room
  obtain ⟨field, found, -⟩ := room
  rw [found]
  rfl

end Table
end Register

namespace Descriptor

variable {descriptor : Descriptor}

/-- An amount is refused because it has no room. -/
theorem put_eq_error
    {field : Field}
    {amount : Amount}
    {error : Error}
    (refused : descriptor.put field amount = .error error) :
    field.accepts amount = false ∧
      error = .fieldOverflow field.name amount.value field.width := by
  cases amount with
  | unsigned value =>
      rw [put, Field.pack] at refused
      split at refused
      · cases refused
      · next large =>
          cases refused
          exact ⟨decide_eq_false large, rfl⟩
  | signed value =>
      rw [put, Field.packSigned] at refused
      split at refused
      · cases refused
      · next outside =>
          cases refused
          rw [Field.accepts, ← Bool.not_eq_true, Bool.and_eq_true, decide_eq_true_iff,
            decide_eq_true_iff]
          exact ⟨outside, rfl⟩

/-- A run of assignments to registers of the table fails because an amount has no room. -/
theorem assigned_eq_error
    {assignments : List Assignment}
    {error : Error}
    (known : descriptor.table.Knows assignments)
    (failed : descriptor.assigned assignments = .error error) :
    ∃ assignment ∈ assignments, assignment.Overflows descriptor.table error := by
  induction assignments generalizing descriptor with
  | nil => cases failed
  | cons assignment rest inductionHypothesis =>
      obtain ⟨here, others⟩ := Table.knows_cons.mp known
      obtain ⟨field, found⟩ := Option.isSome_iff_exists.mp here
      have looked : descriptor.table.lookup assignment.name = .ok field := by
        rw [Table.lookup, found]
      rw [assigned_cons] at failed
      cases step : descriptor.assign assignment with
      | error refusal =>
          rw [step] at failed
          cases failed
          rw [assign, looked] at step
          obtain ⟨large, rfl⟩ := put_eq_error step
          rw [(Table.mem_of_lookup looked).2]
          exact ⟨assignment, List.mem_cons_self, field, found, large, rfl⟩
      | ok changed =>
          rw [step] at failed
          have tableEq : changed.table = descriptor.table := by
            obtain ⟨written, -, rfl, -⟩ := assign_eq_ok step
            rfl
          obtain ⟨other, present, overflows⟩ :=
            inductionHypothesis (tableEq ▸ others) failed
          exact ⟨other, List.mem_cons_of_mem _ present, tableEq ▸ overflows⟩

end Descriptor

namespace Stage

open Network

/-- The built-in table has the registers of a program. -/
theorem knows_named
    {assignments : List Assignment}
    (listed : ∀ assignment ∈ assignments, assignment.name ∈ Descriptor.namedRegisters) :
    Table.standard.Knows assignments :=
  fun assignment present => Descriptor.known_of_named _ (listed assignment present)

theorem knows_primary (operation : Operation) :
    Table.standard.Knows (primaryAssignments operation) := by
  have named : ∀ name ∈ parameterNames, name ∈ Descriptor.namedRegisters := by
    simp [parameterNames, Descriptor.namedRegisters]
  exact knows_named fun assignment present =>
    named _ (name_mem_parameterNames operation assignment present)

theorem knows_activation (node : Node) :
    Table.standard.Knows (activationAssignments node) := by
  have named : ∀ name ∈ activationNames, name ∈ Descriptor.namedRegisters := by
    simp [activationNames, Descriptor.namedRegisters]
  exact knows_named fun assignment present =>
    named _ (name_mem_activationNames node assignment present)

theorem knows_source (binding : Binding) (lane : SourceLane) (index : Nat) :
    Table.standard.Knows (binding.sourceAssignments lane index) := by
  unfold Binding.sourceAssignments
  split
  · exact Table.knows_nil
  · apply knows_named
    cases lane <;>
      simp [Descriptor.sourceAssignments, Descriptor.strideAssignments,
        Descriptor.cacheAssignments, Descriptor.namedRegisters]

theorem knows_destination (surface : StridedSurface) :
    Table.standard.Knows (Descriptor.destinationAssignments surface) ∧
      Table.standard.Knows (Descriptor.cacheAssignments Registers.cacheResult surface) :=
  ⟨knows_named (by simp [Descriptor.destinationAssignments, Descriptor.strideAssignments,
      Descriptor.namedRegisters]),
    knows_named (by simp [Descriptor.cacheAssignments, Descriptor.namedRegisters])⟩

variable {primary : Node} {folded : List Node} {binding : Binding}

/-- The built-in table has all registers of a stage that has no more channels than a record. -/
theorem knows_assignments (few : binding.channels.length ≤ Standard.channelCount) :
    Table.standard.Knows (assignments primary folded binding) := by
  have channels := (takes_channels (show 0 + binding.channels.length ≤ _ by omega)).knows
  have first := knows_source binding .first 0
  have second := knows_source binding .second 1
  have types := (takes_types binding).knows
  obtain ⟨destination, cached⟩ := knows_destination binding.output.surface
  have hints := (takes_hints binding).knows
  have inputShape : Table.standard.Knows binding.inputShapeAssignments := by
    apply knows_named
    unfold Binding.inputShapeAssignments
    split
    · simp
    · simp [Descriptor.inputAssignments, Descriptor.namedRegisters]
  have outputShape :
      Table.standard.Knows (Descriptor.outputAssignments binding.output.tensor.shape) :=
    knows_named (by simp [Descriptor.outputAssignments, Descriptor.namedRegisters])
  have codes : Table.standard.Knows (Descriptor.operationAssignments primary.operation.classCode
      primary.operation.variantCode (min folded.length greatestFoldedCount)) :=
    knows_named (by simp [Descriptor.operationAssignments, Descriptor.namedRegisters])
  have nodes : Table.standard.Knows (folded.flatMap fun node =>
      foldedAssignments node.operation ++ activationAssignments node) := by
    rw [Table.knows_flatMap]
    intro node _
    exact Table.knows_append.mpr ⟨(takes_folded node.operation).knows, knows_activation node⟩
  simp only [assignments, Binding.assignments, Binding.outputAssignments, Table.knows_append]
  exact ⟨⟨⟨⟨⟨⟨⟨⟨⟨⟨channels, first⟩, inputShape⟩, second⟩, types⟩, ⟨outputShape, destination⟩,
    cached⟩, hints⟩, knows_primary _⟩, knows_activation primary⟩, nodes⟩, codes⟩

/-- The errors with which a stage that has nodes may be refused. -/
inductive Refusal (index : Nat) : ProgramError → Prop
  | channels (needed limit : Nat) : Refusal index (.channelOverflow index needed limit)
  | shapes (defect : ShapeDefect) : Refusal index (.shapeMismatch index defect)
  | overflow (name : Name) (value : Int) (width : Nat) :
      Refusal index (.invalidRecord index (.fieldOverflow name value width))

/-- A stage that has nodes is refused for its channels, its shapes or a value without room. -/
theorem encode_failsWith {index : Nat} :
    Outcome.FailsWith (Refusal index) (encode index (primary :: folded) binding) := by
  unfold encode
  dsimp only
  split
  · exact Outcome.failsWith_error.mpr (.channels _ _)
  next few =>
    split
    · exact Outcome.failsWith_error.mpr (.shapes _)
    · split
      next error assigned =>
        have known : Table.standard.Knows (assignments primary folded binding) :=
          knows_assignments (Nat.le_of_not_lt few)
        obtain ⟨assignment, -, field, -, -, rfl⟩ := Descriptor.assigned_eq_error known assigned
        exact Outcome.failsWith_error.mpr (.overflow _ _ _)
      · exact Outcome.failsWith_ok _

end Stage
end TileProgram
