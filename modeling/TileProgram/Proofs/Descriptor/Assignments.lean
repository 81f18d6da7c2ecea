import TileProgram.Descriptor.Basic
import TileProgram.Proofs.Outcome
import TileProgram.Proofs.Register.Bits

/-!
# Runs of assignments

After a run of assignments every register holds what was assigned to it last,
or what it held before if nothing was.  This needs a table of separate
registers; the names of the assignments then say everything about the record.
-/

namespace TileProgram

open Register

/-- The bits of an amount in a register of a given width. -/
def Amount.bits (width : Nat) : Amount → BitVec width
  | .unsigned value => BitVec.ofNat width value
  | .signed value => BitVec.ofInt width value

namespace Assignment

@[simp] theorem unsigned_name (name : Name) (value : Nat) : (unsigned name value).name = name := rfl

@[simp] theorem unsigned_amount (name : Name) (value : Nat) :
    (unsigned name value).amount = .unsigned value := rfl

@[simp] theorem signed_name (name : Name) (value : Int) : (signed name value).name = name := rfl

/-- The amount that is assigned last to a register. -/
def last? (name : Name) : List Assignment → Option Amount
  | [] => none
  | assignment :: rest =>
      (last? name rest).or (if assignment.name = name then some assignment.amount else none)

@[simp] theorem last?_nil (name : Name) : last? name [] = none := rfl

@[simp] theorem last?_cons (name : Name) (assignment : Assignment) (rest : List Assignment) :
    last? name (assignment :: rest) =
      (last? name rest).or (if assignment.name = name then some assignment.amount else none) := rfl

@[simp] theorem last?_append (name : Name) (first second : List Assignment) :
    last? name (first ++ second) = (last? name second).or (last? name first) := by
  induction first with
  | nil => simp
  | cons assignment rest inductionHypothesis =>
      rw [List.cons_append, last?_cons, inductionHypothesis, last?_cons, Option.or_assoc]

/-- Of several parts, the last one that assigns anything to a register decides. -/
theorem last?_flatMap
    {α : Type}
    (name : Name)
    (items : List α)
    (change : α → List Assignment) :
    last? name (items.flatMap change) =
      (items.filterMap fun item => last? name (change item)).getLast? := by
  induction items with
  | nil => rfl
  | cons item rest inductionHypothesis =>
      rw [List.flatMap_cons, last?_append, inductionHypothesis, List.filterMap_cons]
      cases last? name (change item) with
      | none => rw [Option.or_none]
      | some amount =>
          rw [List.getLast?_cons]
          cases (rest.filterMap fun item => last? name (change item)).getLast? <;> rfl

/-- Nothing is assigned to a register that no assignment names. -/
theorem last?_eq_none
    {name : Name}
    {assignments : List Assignment}
    (absent : ∀ assignment ∈ assignments, assignment.name ≠ name) :
    last? name assignments = none := by
  induction assignments with
  | nil => rfl
  | cons assignment rest inductionHypothesis =>
      rw [last?_cons, if_neg (absent assignment List.mem_cons_self),
        inductionHypothesis fun other present => absent other (List.mem_cons_of_mem _ present)]
      rfl

/-- What is assigned last to a register is assigned to it. -/
theorem mem_of_last?
    {name : Name}
    {amount : Amount}
    {assignments : List Assignment}
    (last : last? name assignments = some amount) :
    ∃ assignment ∈ assignments, assignment.name = name ∧ assignment.amount = amount := by
  induction assignments with
  | nil => cases last
  | cons assignment rest inductionHypothesis =>
      rw [last?_cons, Option.or_eq_some_iff] at last
      rcases last with later | ⟨-, here⟩
      · obtain ⟨other, present, facts⟩ := inductionHypothesis later
        exact ⟨other, List.mem_cons_of_mem _ present, facts⟩
      · split at here
        · next same => exact ⟨assignment, List.mem_cons_self, same, Option.some.inj here⟩
        · cases here

/-- Nothing is assigned to a register outside the regions of the assignments. -/
theorem last?_eq_none_of_region
    {name : Name}
    {assignments : List Assignment}
    (elsewhere : ∀ assignment ∈ assignments, assignment.name.region ≠ name.region) :
    last? name assignments = none :=
  last?_eq_none fun assignment present equal => elsewhere assignment present (by rw [equal])

end Assignment

namespace Descriptor

open Assignment

/-- Writing into a register replaces its bits and nothing else. -/
theorem put_eq_ok
    {descriptor changed : Descriptor}
    {field : Field}
    {amount : Amount}
    (written : descriptor.put field amount = .ok changed) :
    changed = { descriptor with bits := field.replace descriptor.bits (amount.bits field.width) } ∧
      ∀ value, amount = .unsigned value → value < Nat.pow 2 field.width := by
  cases amount with
  | unsigned value =>
      rw [put, Field.pack] at written
      split at written
      · next fits =>
          cases written
          refine ⟨rfl, ?_⟩
          intro other equal
          cases equal
          exact fits
      · cases written
  | signed value =>
      rw [put, Field.packSigned] at written
      split at written
      · cases written
        exact ⟨rfl, fun other equal => by cases equal⟩
      · cases written

/-- One assignment that succeeds replaces the bits of its register and nothing else. -/
theorem assign_eq_ok
    {descriptor changed : Descriptor}
    {assignment : Assignment}
    (assigned : descriptor.assign assignment = .ok changed) :
    ∃ field, descriptor.table.lookup assignment.name = .ok field ∧
      changed = { descriptor with
        bits := field.replace descriptor.bits (assignment.amount.bits field.width) } ∧
      ∀ value, assignment.amount = .unsigned value → value < Nat.pow 2 field.width := by
  obtain ⟨field, found, written⟩ := Outcome.bind_eq_ok.mp assigned
  exact ⟨field, found, put_eq_ok written⟩

/-- A run is its first assignment followed by the rest. -/
theorem assigned_cons
    (descriptor : Descriptor)
    (assignment : Assignment)
    (rest : List Assignment) :
    descriptor.assigned (assignment :: rest) =
      (descriptor.assign assignment).bind fun changed => changed.assigned rest := by
  rw [assigned, assignAll]
  cases descriptor.assign assignment with
  | error error => rfl
  | ok changed => rfl

/-- A run is its first part followed by the second one. -/
theorem assigned_append
    (descriptor : Descriptor)
    (first second : List Assignment) :
    descriptor.assigned (first ++ second) =
      (descriptor.assigned first).bind fun changed => changed.assigned second := by
  induction first generalizing descriptor with
  | nil => rfl
  | cons assignment rest inductionHypothesis =>
      rw [List.cons_append, assigned_cons, assigned_cons]
      cases descriptor.assign assignment with
      | error error => rfl
      | ok changed => exact inductionHypothesis changed

/-- A run keeps the table and the lookup table, however far it gets. -/
theorem assignAll_frame (descriptor : Descriptor) (assignments : List Assignment) :
    (descriptor.assignAll assignments).1.table = descriptor.table ∧
      (descriptor.assignAll assignments).1.lookup = descriptor.lookup := by
  induction assignments generalizing descriptor with
  | nil => exact ⟨rfl, rfl⟩
  | cons assignment rest inductionHypothesis =>
      rw [assignAll]
      cases step : descriptor.assign assignment with
      | error error => exact ⟨rfl, rfl⟩
      | ok changed =>
          obtain ⟨field, -, rfl, -⟩ := assign_eq_ok step
          have kept := inductionHypothesis
            { descriptor with bits := field.replace descriptor.bits (assignment.amount.bits field.width) }
          exact kept

/-- A run that succeeds makes all its assignments. -/
theorem assigned_eq_ok
    {descriptor changed : Descriptor}
    {assignments : List Assignment} :
    descriptor.assigned assignments = .ok changed ↔
      descriptor.assignAll assignments = (changed, none) := by
  unfold assigned
  split
  · next run =>
      rw [run]
      simp
  · next run =>
      rw [run]
      simp

/-- A run that succeeds keeps the table and the lookup table. -/
theorem assigned_frame
    {descriptor changed : Descriptor}
    {assignments : List Assignment}
    (assigned : descriptor.assigned assignments = .ok changed) :
    changed.table = descriptor.table ∧ changed.lookup = descriptor.lookup := by
  have kept := assignAll_frame descriptor assignments
  rwa [assigned_eq_ok.mp assigned] at kept

/-- After a run a register holds the bits assigned to it last, or those it held before. -/
theorem slice_assigned
    {descriptor changed : Descriptor}
    {assignments : List Assignment}
    {name : Name}
    {field : Field}
    (separate : descriptor.table.Separate)
    (found : descriptor.table.lookup name = .ok field)
    (assigned : descriptor.assigned assignments = .ok changed) :
    field.slice changed.bits =
      match last? name assignments with
      | none => field.slice descriptor.bits
      | some amount => amount.bits field.width := by
  induction assignments generalizing descriptor with
  | nil =>
      cases assigned
      rfl
  | cons assignment rest inductionHypothesis =>
      rw [assigned_cons, Outcome.bind_eq_ok] at assigned
      obtain ⟨middle, step, assigned⟩ := assigned
      obtain ⟨written, writtenFound, middleEq, -⟩ := assign_eq_ok step
      have tableEq : middle.table = descriptor.table := by rw [middleEq]
      have bitsEq : middle.bits =
          written.replace descriptor.bits (assignment.amount.bits written.width) := by
        rw [middleEq]
      rw [inductionHypothesis (tableEq ▸ separate) (tableEq ▸ found) assigned, last?_cons,
        bitsEq]
      cases last? name rest with
      | some amount => rfl
      | none =>
          -- The rest leaves the register alone, so this assignment decides.
          simp only [Option.none_or]
          by_cases same : assignment.name = name
          · rw [if_pos same]
            rw [same, found] at writtenFound
            cases writtenFound
            exact Field.slice_replace (separate.inside _ (Table.mem_of_lookup found).1) _ _
          · rw [if_neg same]
            exact Field.slice_replace_of_disjoint
              (separate.disjoint_of_lookup found writtenFound (Ne.symm same)) _ _

/-- Two records of one table differ at most in the bits of some registers. -/
structure ChangesOnly (names : List Name) (before after : Descriptor) : Prop where
  table : after.table = before.table
  bits : ∀ index, (∀ name ∈ names, ∀ field, before.table.lookup name = .ok field →
    ¬field.Covers index) → after.bits.getLsbD index = before.bits.getLsbD index

/-- A run changes the bits of its registers at most, however far it gets. -/
theorem changesOnly_assignAll (descriptor : Descriptor) (assignments : List Assignment) :
    ChangesOnly (assignments.map Assignment.name) descriptor
      (descriptor.assignAll assignments).1 := by
  refine ⟨(assignAll_frame descriptor assignments).1, ?_⟩
  induction assignments generalizing descriptor with
  | nil => exact fun _ _ => rfl
  | cons assignment rest inductionHypothesis =>
      intro index outside
      rw [assignAll]
      cases step : descriptor.assign assignment with
      | error error => rfl
      | ok changed =>
          obtain ⟨field, found, rfl, -⟩ := assign_eq_ok step
          rw [List.map_cons, List.forall_mem_cons] at outside
          have later := inductionHypothesis
            { descriptor with bits := field.replace descriptor.bits (assignment.amount.bits field.width) }
            index outside.2
          rw [later, Field.getLsbD_replace]
          exact if_neg (outside.1 field found)

/-- A register whose bits are not among those that change holds the same. -/
theorem ChangesOnly.slice_eq
    {names : List Name}
    {before after : Descriptor}
    {name : Name}
    {field : Field}
    (only : ChangesOnly names before after)
    (separate : before.table.Separate)
    (found : before.table.lookup name = .ok field)
    (absent : name ∉ names) :
    field.slice after.bits = field.slice before.bits := by
  apply Field.slice_congr
  intro index covers
  apply only.bits index
  intro other listed otherField otherFound
  have different : name ≠ other := fun same => absent (same ▸ listed)
  exact (separate.disjoint_of_lookup found otherFound different).not_covers covers

/-- A run keeps the bits that belong to no register. -/
theorem getLsbD_assigned
    {descriptor changed : Descriptor}
    {assignments : List Assignment}
    {index : Nat}
    (assigned : descriptor.assigned assignments = .ok changed)
    (outside : ∀ (name : Name) (field : Field), descriptor.table.lookup name = .ok field →
      ¬(field.bitStart ≤ index ∧ index < field.bitEnd)) :
    changed.bits.getLsbD index = descriptor.bits.getLsbD index := by
  have only := changesOnly_assignAll descriptor assignments
  rw [assigned_eq_ok.mp assigned] at only
  exact only.bits index fun name _ field found => outside name field found

/-- What is assigned last to each register determines the record. -/
theorem eq_of_last?_eq
    {descriptor changed other : Descriptor}
    {assignments others : List Assignment}
    (separate : descriptor.table.Separate)
    (assigned : descriptor.assigned assignments = .ok changed)
    (otherAssigned : descriptor.assigned others = .ok other)
    (same : ∀ name, last? name assignments = last? name others) :
    changed = other := by
  obtain ⟨table, lookup⟩ := assigned_frame assigned
  obtain ⟨otherTable, otherLookup⟩ := assigned_frame otherAssigned
  have bits : changed.bits = other.bits := by
    apply BitVec.eq_of_getLsbD_eq
    intro index bound
    by_cases covered : ∃ name field, descriptor.table.lookup name = .ok field ∧
        field.bitStart ≤ index ∧ index < field.bitEnd
    · obtain ⟨name, field, found, above, below⟩ := covered
      have slices : field.slice changed.bits = field.slice other.bits := by
        rw [slice_assigned separate found assigned, slice_assigned separate found otherAssigned,
          same]
      have covers : field.Covers index := ⟨above, below⟩
      rw [← covers.getLsbD_slice, ← covers.getLsbD_slice, slices]
    · have outside : ∀ (name : Name) (field : Field), descriptor.table.lookup name = .ok field →
          ¬(field.bitStart ≤ index ∧ index < field.bitEnd) :=
        fun name field found inside => covered ⟨name, field, found, inside⟩
      rw [getLsbD_assigned assigned outside, getLsbD_assigned otherAssigned outside]
  cases changed
  cases other
  dsimp only at table lookup otherTable otherLookup bits
  rw [table, lookup, otherTable, otherLookup, bits]

/-- Every register that a successful run assigns to is in the table, and
unsigned values fit. -/
theorem lookup_of_assigned
    {descriptor changed : Descriptor}
    {assignments : List Assignment}
    (assigned : descriptor.assigned assignments = .ok changed) :
    ∀ assignment ∈ assignments, ∃ field,
      descriptor.table.lookup assignment.name = .ok field ∧
        ∀ value, assignment.amount = .unsigned value → value < Nat.pow 2 field.width := by
  induction assignments generalizing descriptor with
  | nil => simp
  | cons assignment rest inductionHypothesis =>
      rw [assigned_cons, Outcome.bind_eq_ok] at assigned
      obtain ⟨middle, step, assigned⟩ := assigned
      obtain ⟨field, found, rfl, fits⟩ := assign_eq_ok step
      intro other present
      rcases List.mem_cons.mp present with rfl | present
      · exact ⟨field, found, fits⟩
      · exact inductionHypothesis assigned other present

/-- A register that a run assigns nothing to reads as before. -/
theorem get_assigned_of_none
    {descriptor changed : Descriptor}
    {assignments : List Assignment}
    {name : Name}
    (separate : descriptor.table.Separate)
    (assigned : descriptor.assigned assignments = .ok changed)
    (untouched : last? name assignments = none) :
    changed.get name = descriptor.get name := by
  unfold get
  rw [(assigned_frame assigned).1]
  cases found : descriptor.table.lookup name with
  | error error => rfl
  | ok field =>
      have kept := slice_assigned separate found assigned
      rw [untouched] at kept
      simp only [Except.map, Field.unsigned, kept]

/-- A register reads the value that a run assigns to it last. -/
theorem get_assigned_of_some
    {descriptor changed : Descriptor}
    {assignments : List Assignment}
    {name : Name}
    {value : Nat}
    (separate : descriptor.table.Separate)
    (assigned : descriptor.assigned assignments = .ok changed)
    (last : last? name assignments = some (.unsigned value)) :
    changed.get name = .ok value := by
  obtain ⟨assignment, present, rfl, amountEq⟩ := mem_of_last? last
  obtain ⟨field, found, fits⟩ := lookup_of_assigned assigned assignment present
  have held := slice_assigned separate found assigned
  rw [last] at held
  rw [get, (assigned_frame assigned).1, found]
  simp only [Except.map, Field.unsigned, held, Amount.bits, BitVec.toNat_ofNat]
  exact congrArg Except.ok (Nat.mod_eq_of_lt (fits value amountEq))

end Descriptor
end TileProgram

/-!
## Assignments that a table has room for

A run of assignments succeeds exactly when the table has a register for each of
them in which its amount has room.  This does not depend on the record.
-/

namespace TileProgram

open Register

/-- Whether an amount has room in a field. -/
def Register.Field.accepts (field : Field) : Amount → Bool
  | .unsigned value => value < Nat.pow 2 field.width
  | .signed value => field.signedLeast ≤ value && value ≤ field.signedGreatest

/-- Whether a table has a register in which the amount of an assignment has room. -/
def Assignment.hasRoom (table : Table) (assignment : Assignment) : Bool :=
  (table.find? assignment.name).any fun field => field.accepts assignment.amount

namespace Register
namespace Table

/-- A table takes assignments when it has room for each of them. -/
def Takes (table : Table) (assignments : List Assignment) : Prop :=
  ∀ assignment ∈ assignments, assignment.hasRoom table = true

instance (table : Table) (assignments : List Assignment) :
    Decidable (table.Takes assignments) :=
  inferInstanceAs (Decidable (∀ assignment ∈ assignments, assignment.hasRoom table = true))

variable {table : Table} {first second : List Assignment}

@[simp] theorem takes_nil : table.Takes [] := by simp [Takes]

@[simp] theorem takes_cons {assignment : Assignment} :
    table.Takes (assignment :: first) ↔
      assignment.hasRoom table = true ∧ table.Takes first := by
  simp [Takes]

@[simp] theorem takes_append :
    table.Takes (first ++ second) ↔ table.Takes first ∧ table.Takes second := by
  simp [Takes, or_imp, forall_and]

@[simp] theorem takes_flatMap {α : Type} {items : List α} {change : α → List Assignment} :
    table.Takes (items.flatMap change) ↔ ∀ item ∈ items, table.Takes (change item) := by
  simp only [Takes, List.mem_flatMap]
  constructor
  · intro all item present assignment member
    exact all assignment ⟨item, present, member⟩
  · rintro all assignment ⟨item, present, member⟩
    exact all item present assignment member

/-- An unsigned value has room in a register that is wide enough. -/
theorem hasRoom_unsigned
    {name : Name}
    {width value : Nat}
    (found : (table.find? name).map Field.width = some width)
    (fits : value < Nat.pow 2 width) :
    (Assignment.unsigned name value).hasRoom table = true := by
  obtain ⟨field, present, rfl⟩ := Option.map_eq_some_iff.mp found
  rw [Assignment.hasRoom, Assignment.unsigned_name, present]
  exact decide_eq_true fits

end Table
end Register

namespace Descriptor

/-- An amount that has room is written, and only such an amount is. -/
theorem exists_put_iff (descriptor : Descriptor) (field : Field) (amount : Amount) :
    (∃ changed, descriptor.put field amount = .ok changed) ↔ field.accepts amount = true := by
  cases amount with
  | unsigned value =>
      rw [put, Field.pack, Field.accepts, decide_eq_true_iff]
      split
      · next fits => exact ⟨fun _ => fits, fun _ => ⟨_, rfl⟩⟩
      · next large =>
          refine ⟨?_, fun fits => absurd fits large⟩
          rintro ⟨changed, written⟩
          cases written
  | signed value =>
      rw [put, Field.packSigned, Field.accepts, Bool.and_eq_true, decide_eq_true_iff,
        decide_eq_true_iff]
      split
      · next fits => exact ⟨fun _ => fits, fun _ => ⟨_, rfl⟩⟩
      · next outside =>
          refine ⟨?_, fun fits => absurd fits outside⟩
          rintro ⟨changed, written⟩
          cases written

/-- One assignment succeeds exactly when the table has room for it. -/
theorem exists_assign_iff (descriptor : Descriptor) (assignment : Assignment) :
    (∃ changed, descriptor.assign assignment = .ok changed) ↔
      assignment.hasRoom descriptor.table = true := by
  unfold assign Assignment.hasRoom Table.lookup
  cases descriptor.table.find? assignment.name with
  | none =>
      refine ⟨?_, fun room => absurd room (by simp)⟩
      rintro ⟨changed, written⟩
      cases written
  | some field => exact exists_put_iff descriptor field assignment.amount

/-- A run of assignments succeeds exactly when the table has room for each of them. -/
theorem exists_assigned_iff (descriptor : Descriptor) (assignments : List Assignment) :
    (∃ changed, descriptor.assigned assignments = .ok changed) ↔
      descriptor.table.Takes assignments := by
  induction assignments generalizing descriptor with
  | nil => simp [assigned]
  | cons assignment rest inductionHypothesis =>
      simp only [assigned_cons, Outcome.bind_eq_ok, Table.takes_cons]
      constructor
      · rintro ⟨final, changed, step, later⟩
        have here := (exists_assign_iff descriptor assignment).mp ⟨changed, step⟩
        have others := (inductionHypothesis changed).mp ⟨final, later⟩
        obtain ⟨field, -, rfl, -⟩ := assign_eq_ok step
        exact ⟨here, others⟩
      · rintro ⟨here, others⟩
        obtain ⟨changed, step⟩ := (exists_assign_iff descriptor assignment).mpr here
        have table : changed.table = descriptor.table := by
          obtain ⟨field, -, rfl, -⟩ := assign_eq_ok step
          rfl
        rw [← table] at others
        obtain ⟨final, later⟩ := (inductionHypothesis changed).mpr others
        exact ⟨final, changed, step, later⟩

end Descriptor
end TileProgram
