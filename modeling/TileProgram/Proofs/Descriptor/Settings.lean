import Mathlib.Data.List.Nodup
import TileProgram.Descriptor.Accessors
import TileProgram.Proofs.Descriptor.Access

/-!
# Independence of the parts of an instruction

A setting writes the registers of its part, no register belongs to two parts,
and the registers of the built-in table share no bits.  So what a setting has
written stays whatever is done to other parts, even if that fails halfway, and
each part is read as it was set last.  The groups of the output are the intended
exception: they have no register of their own and are those of the input.
-/

/-!
## Amounts that registers hold

After a run of assignments to different registers that succeeds, each register
holds the amount that was assigned to it.  It goes on to hold it as long as
changes keep to other registers.
-/

namespace TileProgram

open Register

namespace Assignment

/-- The register of an assignment reads its amount. -/
def HeldBy (descriptor : Descriptor) (assignment : Assignment) : Prop :=
  match assignment.amount with
  | .unsigned value => descriptor.get assignment.name = .ok value
  | .signed value => descriptor.getSigned assignment.name = .ok value

/-- The only assignment to a register is the last one. -/
theorem last?_of_nodup
    {assignment : Assignment}
    {assignments : List Assignment}
    (distinct : (assignments.map name).Nodup)
    (present : assignment ∈ assignments) :
    last? assignment.name assignments = some assignment.amount := by
  induction assignments with
  | nil => cases present
  | cons first rest inductionHypothesis =>
      rw [List.map_cons, List.nodup_cons] at distinct
      rw [last?_cons]
      rcases List.mem_cons.mp present with rfl | later
      · have alone : last? assignment.name rest = none := by
          apply last?_eq_none
          intro other listed same
          exact distinct.1 (same ▸ List.mem_map_of_mem listed)
        rw [alone, if_pos rfl, Option.none_or]
      · rw [inductionHypothesis distinct.2 later, Option.some_or]

end Assignment

namespace Register

/-- A register with bits reads a signed amount that it accepts from the bits of that amount. -/
theorem Field.twosComplement_of_accepts
    {size : Nat}
    {field : Field}
    {bits : BitVec size}
    {value : Int}
    (positive : 0 < field.width)
    (accepts : field.accepts (.signed value) = true)
    (held : field.slice bits = BitVec.ofInt field.width value) :
    field.twosComplement bits = value := by
  have wider : ((2 ^ (field.valueWidth - 1) : Nat) : Int) ≤ (2 ^ (field.width - 1) : Nat) :=
    Int.ofNat_le.mpr
      (Nat.pow_le_pow_right (by decide) (Nat.sub_le_sub_right (Nat.min_le_left ..) 1))
  rw [Field.accepts, Bool.and_eq_true, decide_eq_true_iff, decide_eq_true_iff, signedLeast,
    signedGreatest, Nat.pow_eq] at accepts
  push_cast at accepts wider
  rw [twosComplement, held]
  exact BitVec.toInt_ofInt_eq_self positive (by omega) (by omega)

end Register

namespace Descriptor

open Assignment

variable {before after : Descriptor} {names : List Name} {name : Name}

/-- A register with bits reads the signed value that a run assigns to it last. -/
theorem getSigned_assigned_of_some
    {assignments : List Assignment}
    {value : Int}
    (separate : before.table.Separate)
    (positive : ∀ field ∈ before.table.fields, 0 < field.width)
    (assigned : before.assigned assignments = .ok after)
    (last : last? name assignments = some (.signed value)) :
    after.getSigned name = .ok value := by
  obtain ⟨assignment, present, rfl, amount⟩ := mem_of_last? last
  have room := (exists_assigned_iff before assignments).mp ⟨after, assigned⟩ assignment present
  obtain ⟨field, found, accepts⟩ := (Option.any_eq_true _ _).mp room
  have looked : before.table.lookup assignment.name = .ok field := by rw [Table.lookup, found]
  have held := slice_assigned separate looked assigned
  rw [last] at held
  rw [amount] at accepts
  rw [getSigned, (assigned_frame assigned).1, looked]
  exact congrArg Except.ok
    (Field.twosComplement_of_accepts (positive field (Table.mem_of_lookup looked).1) accepts held)

/-- After a run of assignments to different registers each of them holds. -/
theorem heldBy_of_assigned
    {assignments : List Assignment}
    (separate : before.table.Separate)
    (positive : ∀ field ∈ before.table.fields, 0 < field.width)
    (distinct : (assignments.map Assignment.name).Nodup)
    (assigned : before.assigned assignments = .ok after) :
    ∀ assignment ∈ assignments, assignment.HeldBy after := by
  intro assignment present
  have last := last?_of_nodup distinct present
  unfold HeldBy
  cases amount : assignment.amount with
  | unsigned value => exact get_assigned_of_some separate assigned (amount ▸ last)
  | signed value => exact getSigned_assigned_of_some separate positive assigned (amount ▸ last)

/-- A register outside the changes reads as before. -/
theorem ChangesOnly.get_eq
    (only : ChangesOnly names before after)
    (separate : before.table.Separate)
    (absent : name ∉ names) :
    after.get name = before.get name := by
  unfold get
  rw [only.table]
  cases found : before.table.lookup name with
  | error error => rfl
  | ok field =>
      simp only [Except.map, Field.unsigned, only.slice_eq separate found absent]

/-- It reads as before in two's complement too. -/
theorem ChangesOnly.getSigned_eq
    (only : ChangesOnly names before after)
    (separate : before.table.Separate)
    (absent : name ∉ names) :
    after.getSigned name = before.getSigned name := by
  unfold getSigned
  rw [only.table]
  cases found : before.table.lookup name with
  | error error => rfl
  | ok field =>
      simp only [Except.map, Field.twosComplement, only.slice_eq separate found absent]

/-- What a register outside the changes holds, it goes on to hold. -/
theorem ChangesOnly.heldBy
    {assignment : Assignment}
    (only : ChangesOnly names before after)
    (separate : before.table.Separate)
    (absent : assignment.name ∉ names)
    (held : assignment.HeldBy before) :
    assignment.HeldBy after := by
  unfold HeldBy at held ⊢
  rwa [only.get_eq separate absent, only.getSigned_eq separate absent]

end Descriptor
end TileProgram

/-!
## The registers of the parts

The parts have different registers.  For the kernel channels this holds by their
numbers, whatever these are, and for the other parts it is seen by comparing all
names.
-/

namespace TileProgram

open Register

namespace Part

/-- The registers of a part. -/
def registers : Part → List Name
  | .taskId => [Registers.taskId]
  | .link =>
      [ Registers.nextPointer, Registers.nextSize, Registers.lastOfNetwork,
        Registers.endOfNetwork ]
  | .channel number =>
      [ Registers.channelEnabled number, Registers.channelOffset number,
        Registers.channelLength number ]
  | .inputShape =>
      [ Registers.inputColumn, Registers.inputRow, Registers.inputPlane, Registers.inputDepth,
        Registers.group ]
  | .outputShape =>
      [ Registers.outputColumn, Registers.outputRow, Registers.outputPlane,
        Registers.outputDepth ]
  | .types => Registers.formats
  | .window =>
      [ Registers.kernelWidth, Registers.kernelHeight, Registers.stepAcross, Registers.stepDown,
        Registers.paddingAcross, Registers.paddingDown ]
  | .operation => [Registers.operationType, Registers.operationVariant, Registers.foldedCount]
  | .source lane =>
      [ Registers.sourceEnabled lane, Registers.sourceBase lane,
        (Registers.sourceStrides lane).row, (Registers.sourceStrides lane).plane,
        (Registers.sourceStrides lane).depth, (Registers.sourceStrides lane).batch,
        Registers.sourceInterleave lane ]
  | .destination =>
      [ Registers.destinationEnabled, Registers.destinationBase,
        Registers.destinationStrides.row, Registers.destinationStrides.plane,
        Registers.destinationStrides.depth, Registers.destinationStrides.batch,
        Registers.destinationInterleave ]
  | .residency lane => [Registers.residency lane]
  | .cacheSource lane =>
      [ (Registers.cacheSource lane).base, (Registers.cacheSource lane).plane,
        (Registers.cacheSource lane).row ]
  | .cacheResult =>
      [Registers.cacheResult.base, Registers.cacheResult.plane, Registers.cacheResult.row]
  | .activation =>
      [Registers.activationKind, Registers.activationFirst, Registers.activationSecond]
  | .bias => [Registers.biasMode, Registers.bias]
  | .scale => [Registers.scaleMode, Registers.scale]
  | .lookup => [Registers.lookupLength]

@[simp] theorem registers_channel (number : Nat) :
    (channel number).registers =
      [ Registers.channelEnabled number, Registers.channelOffset number,
        Registers.channelLength number ] :=
  rfl

/-- The parts other than kernel channels. -/
def single : List Part :=
  [ .taskId, .link, .inputShape, .outputShape, .types, .window, .operation, .source .first,
    .source .second, .destination, .residency .first, .residency .second, .residency .result,
    .cacheSource .first, .cacheSource .second, .cacheResult, .activation, .bias, .scale,
    .lookup ]

theorem mem_single_or (part : Part) : part ∈ single ∨ ∃ number, part = .channel number := by
  cases part with
  | channel number => exact Or.inr ⟨number, rfl⟩
  | source lane => cases lane <;> simp [single]
  | residency lane => cases lane <;> simp [single]
  | cacheSource lane => cases lane <;> simp [single]
  | _ => simp [single]

/-- The names of the registers are all different, and only kernel channels have registers in their
region. -/
private theorem registers_single :
    (single.flatMap registers).Nodup ∧
      ∀ part ∈ single, ∀ name ∈ part.registers, name.region ≠ .kernelSource := by
  decide +kernel

theorem region_channel (number : Nat) :
    ∀ name ∈ (channel number).registers, name.region = .kernelSource := by
  simp [Registers.channelEnabled, Registers.channelOffset, Registers.channelLength]

/-- No register occurs twice in a part. -/
theorem nodup_registers (part : Part) : part.registers.Nodup := by
  rcases part.mem_single_or with listed | ⟨number, rfl⟩
  · exact (List.nodup_flatMap.mp registers_single.1).1 part listed
  · simp

/-- No register belongs to two parts. -/
theorem disjoint_registers {first second : Part} (different : first ≠ second) :
    first.registers.Disjoint second.registers := by
  rcases first.mem_single_or with firstListed | ⟨firstNumber, rfl⟩
  · rcases second.mem_single_or with secondListed | ⟨secondNumber, rfl⟩
    · have symmetric : Std.Symm (Function.onFun List.Disjoint registers) :=
        ⟨fun _ _ => List.disjoint_symm⟩
      exact (List.nodup_flatMap.mp registers_single.1).2.forall firstListed secondListed different
    · intro name inFirst inSecond
      exact registers_single.2 first firstListed name inFirst
        (region_channel secondNumber name inSecond)
  · rcases second.mem_single_or with secondListed | ⟨secondNumber, rfl⟩
    · intro name inFirst inSecond
      exact registers_single.2 second secondListed name inSecond
        (region_channel firstNumber name inFirst)
    · have numbers : firstNumber ≠ secondNumber := fun same => different (same ▸ rfl)
      simp [numbers.symm, (Registers.channelEnabled_ne_offset _ _).symm,
        (Registers.channelEnabled_ne_length _ _).symm, (Registers.channelOffset_ne_length _ _).symm]

end Part

end TileProgram

/-!
## What a setting leaves

A setting changes the registers of its part at most, however far it gets.  One
that succeeds leaves all its assignments in their registers, and there they stay
through settings of other parts.
-/

namespace TileProgram

open Register

namespace Setting

/-- The assignments of a setting are to the registers of its part. -/
theorem map_name_assignments (setting : Setting) :
    setting.assignments.map Assignment.name = setting.part.registers := by
  cases setting <;> rfl

/-- A record holds what a setting assigns, and the lookup table that it attaches. -/
structure KeptBy (descriptor : Descriptor) (setting : Setting) : Prop where
  held : ∀ assignment ∈ setting.assignments, assignment.HeldBy descriptor
  attached : ∀ table, setting = .lookup table → descriptor.lookup = some table
  known : ∀ number data, setting = .channel number data → number < Standard.channelCount

end Setting

namespace Descriptor

variable {descriptor : Descriptor} {setting : Setting}

/-- A lookup table is attached by assigning its length. -/
theorem attach_eq (table : LookupTable) :
    descriptor.attach table =
      (descriptor.assigned (Setting.lookup table).assignments).map fun changed =>
        { changed with lookup := some table } := by
  show _ = (descriptor.assigned [_]).map _
  rw [assigned_cons, attach]
  cases descriptor.assign (.unsigned Registers.lookupLength table.length) with
  | error error => rfl
  | ok changed => rfl

/-- A setting fails before it writes anything, or makes its assignments, or attaches a lookup
table whose length it could assign. -/
theorem set_cases (descriptor : Descriptor) (setting : Setting) :
    (∃ error, descriptor.set setting = (descriptor, some error)) ∨
    (setting.part ≠ .lookup ∧
      (∀ number data, setting = .channel number data → number < Standard.channelCount) ∧
      descriptor.set setting = descriptor.assignAll setting.assignments) ∨
    ∃ table changed, setting = .lookup table ∧
      descriptor.assigned setting.assignments = .ok changed ∧
      descriptor.set setting = ({ changed with lookup := some table }, none) := by
  cases setting with
  | channel number data =>
      by_cases inside : number < Standard.channelCount
      · refine Or.inr (Or.inl ⟨nofun, ?_, ?_⟩)
        · intro other _ equal
          cases equal
          exact inside
        · unfold set checkChannel
          dsimp only
          rw [if_pos inside]
          rfl
      · refine Or.inl ⟨.channelOutOfRange number Standard.channelCount, ?_⟩
        unfold set checkChannel
        dsimp only
        rw [if_neg inside]
  | lookup table =>
      unfold set
      dsimp only
      rw [attach_eq]
      cases descriptor.assigned (Setting.lookup table).assignments with
      | error error => exact Or.inl ⟨error, rfl⟩
      | ok changed => exact Or.inr (Or.inr ⟨table, changed, rfl, rfl, rfl⟩)
  | _ => exact Or.inr (Or.inl ⟨nofun, nofun, rfl⟩)

/-- A setting that succeeds makes all its assignments. -/
theorem assigned_of_set (done : (descriptor.set setting).2 = none) :
    descriptor.assigned setting.assignments =
      .ok { (descriptor.set setting).1 with lookup := descriptor.lookup } := by
  rcases set_cases descriptor setting with
    ⟨error, failed⟩ | ⟨-, -, run⟩ | ⟨table, changed, -, assigned, attached⟩
  · rw [failed] at done
    cases done
  · rw [run] at done ⊢
    rw [← (assignAll_frame descriptor setting.assignments).2]
    exact assigned_eq_ok.mpr (Prod.ext rfl done)
  · rw [attached, assigned, ← (assigned_frame assigned).2]

/-- A setting changes the registers of its part at most, whether or not it succeeds. -/
theorem changesOnly_set (descriptor : Descriptor) (setting : Setting) :
    ChangesOnly setting.part.registers descriptor (descriptor.set setting).1 := by
  have only := changesOnly_assignAll descriptor setting.assignments
  rw [setting.map_name_assignments] at only
  rcases set_cases descriptor setting with
    ⟨error, failed⟩ | ⟨-, -, run⟩ | ⟨table, changed, -, assigned, attached⟩
  · rw [failed]
    exact ⟨rfl, fun _ _ => rfl⟩
  · rwa [run]
  · rw [assigned_eq_ok.mp assigned] at only
    rw [attached]
    exact ⟨only.table, only.bits⟩

/-- A setting of another part keeps the lookup table. -/
theorem lookup_set (other : setting.part ≠ .lookup) :
    (descriptor.set setting).1.lookup = descriptor.lookup := by
  rcases set_cases descriptor setting with
    ⟨error, failed⟩ | ⟨-, -, run⟩ | ⟨table, changed, rfl, -, -⟩
  · rw [failed]
  · rw [run]
    exact (assignAll_frame descriptor setting.assignments).2
  · exact absurd rfl other

/-- A lookup table that cannot be attached changes nothing. -/
theorem set_of_error
    {error : Error}
    (failed : (descriptor.set setting).2 = some error)
    (table : setting.part = .lookup) :
    (descriptor.set setting).1 = descriptor := by
  rcases set_cases descriptor setting with ⟨_, early⟩ | ⟨other, -, -⟩ | ⟨_, _, -, -, attached⟩
  · rw [early]
  · exact absurd table other
  · rw [attached] at failed
    cases failed

/-- A setting that succeeds is kept by the record that it leaves. -/
theorem keptBy_set
    (builtIn : descriptor.table = .standard)
    (done : (descriptor.set setting).2 = none) :
    setting.KeptBy (descriptor.set setting).1 where
  held := by
    have distinct : (setting.assignments.map Assignment.name).Nodup := by
      rw [setting.map_name_assignments]
      exact setting.part.nodup_registers
    have held := heldBy_of_assigned (builtIn ▸ Table.standard_separate)
      (builtIn ▸ Table.standard_positive) distinct (assigned_of_set done)
    exact held
  attached := by
    rintro table rfl
    rcases set_cases descriptor (.lookup table) with
      ⟨error, failed⟩ | ⟨other, -, -⟩ | ⟨_, changed, same, -, attached⟩
    · rw [failed] at done
      cases done
    · exact absurd rfl other
    · cases same
      rw [attached]
  known := by
    rintro number data rfl
    rcases set_cases descriptor (.channel number data) with
      ⟨error, failed⟩ | ⟨-, known, -⟩ | ⟨_, _, same, -, -⟩
    · rw [failed] at done
      cases done
    · exact known number data rfl
    · cases same

/-- A setting of another part, whether or not it succeeds, leaves what is kept. -/
theorem keptBy_set_of_ne
    {later : Setting}
    (builtIn : descriptor.table = .standard)
    (different : later.part ≠ setting.part)
    (kept : setting.KeptBy descriptor) :
    setting.KeptBy (descriptor.set later).1 where
  held := by
    intro assignment present
    have own : assignment.name ∈ setting.part.registers := by
      rw [← setting.map_name_assignments]
      exact List.mem_map_of_mem present
    exact (changesOnly_set descriptor later).heldBy (builtIn ▸ Table.standard_separate)
      (fun foreign => Part.disjoint_registers different foreign own) (kept.held assignment present)
  attached := by
    rintro table rfl
    rw [lookup_set different]
    exact kept.attached table rfl
  known := kept.known

theorem setAll_cons (descriptor : Descriptor) (first : Setting) (rest : List Setting) :
    descriptor.setAll (first :: rest) = (descriptor.set first).1.setAll rest := rfl

theorem setAll_append (descriptor : Descriptor) (first second : List Setting) :
    descriptor.setAll (first ++ second) = (descriptor.setAll first).setAll second :=
  List.foldl_append

/-- Settings keep the table. -/
theorem table_setAll (descriptor : Descriptor) (settings : List Setting) :
    (descriptor.setAll settings).table = descriptor.table := by
  induction settings generalizing descriptor with
  | nil => rfl
  | cons first rest inductionHypothesis =>
      rw [setAll_cons, inductionHypothesis, (changesOnly_set descriptor first).table]

/-- Settings of other parts leave what is kept. -/
theorem keptBy_setAll
    {settings : List Setting}
    (builtIn : descriptor.table = .standard)
    (different : ∀ later ∈ settings, later.part ≠ setting.part)
    (kept : setting.KeptBy descriptor) :
    setting.KeptBy (descriptor.setAll settings) := by
  induction settings generalizing descriptor with
  | nil => exact kept
  | cons first rest inductionHypothesis =>
      rw [List.forall_mem_cons] at different
      rw [setAll_cons]
      exact inductionHypothesis ((changesOnly_set descriptor first).table.trans builtIn)
        different.2 (keptBy_set_of_ne builtIn different.1 kept)

end Descriptor
end TileProgram

/-!
## Parts as they are read

What a record keeps of a setting is what reading the part gives.
-/

namespace TileProgram

open Register

namespace Descriptor

/-- The shape of the input can be read, and its groups are in a register of their own. -/
theorem exists_inputShape {descriptor : Descriptor} (builtIn : descriptor.table = .standard) :
    ∃ input, descriptor.inputShape = .ok input ∧
      descriptor.extent Registers.group = .ok input.group := by
  have readable : ∀ name ∈ Part.inputShape.registers, ∃ value, descriptor.get name = .ok value := by
    simp [Part.registers, exists_get builtIn, namedRegisters]
  simp only [Part.registers, List.forall_mem_cons] at readable
  obtain ⟨⟨_, columnEq⟩, ⟨_, rowEq⟩, ⟨_, planeEq⟩, ⟨_, depthEq⟩, ⟨_, groupEq⟩, -⟩ := readable
  unfold inputShape extent
  rw [columnEq, rowEq, planeEq, depthEq, groupEq]
  exact ⟨_, rfl, rfl⟩

end Descriptor

namespace Setting

/-- Reading the part of a setting gives what the setting says, for the parts that are read as a
whole.  The output has the groups that the input has, and the parameters of an activation are
those of half precision. -/
def ShownBy (descriptor : Descriptor) : Setting → Prop
  | .next position => descriptor.next = .ok position.toNat
  | .last => descriptor.next = .ok Descriptor.chainEnd
  | .channel number data => descriptor.channel number = .ok (some data)
  | .inputShape shape => descriptor.inputShape = .ok shape
  | .outputShape shape =>
      ∃ input, descriptor.inputShape = .ok input ∧
        descriptor.outputShape = .ok { shape with group := input.group }
  | .types input _ output =>
      descriptor.inputType = .ok input ∧ descriptor.outputType = .ok output
  | .source lane surface => descriptor.source lane = .ok (some surface)
  | .destination surface => descriptor.destination = .ok (some surface)
  | .residency lane hint => descriptor.residency lane = .ok hint
  | .activation value =>
      descriptor.activation =
        .ok ⟨value.kind, value.first.toHalf.toSingle, value.second.toHalf.toSingle⟩
  | .lookup table => descriptor.lookup = some table
  | _ => True

variable {descriptor : Descriptor} {setting : Setting} {name : Name} {value : Nat}

/-- A register reads the value that a kept setting assigns to it. -/
theorem KeptBy.get_eq
    (kept : setting.KeptBy descriptor)
    (assigned : Assignment.unsigned name value ∈ setting.assignments) :
    descriptor.get name = .ok value :=
  kept.held _ assigned

/-- What a record of the built-in table keeps of a setting is read from it. -/
theorem KeptBy.shownBy
    (builtIn : descriptor.table = .standard)
    (kept : setting.KeptBy descriptor) :
    setting.ShownBy descriptor := by
  cases setting with
  | next position =>
      apply Descriptor.next_of_register position.toNat_lt
      exact kept.get_eq (by simp [assignments, Descriptor.nextAssignments])
  | last =>
      apply Descriptor.next_of_register (by decide)
      exact kept.get_eq (by simp [assignments, Descriptor.lastAssignments])
  | channel number data =>
      apply Descriptor.channel_of_registers (kept.known number data rfl)
      all_goals exact kept.get_eq (by simp [assignments, Descriptor.channelAssignments])
  | inputShape shape =>
      apply Descriptor.inputShape_of_registers
      all_goals exact kept.get_eq (by simp [assignments, Descriptor.inputAssignments])
  | outputShape shape =>
      -- The groups are the one extent that is not the setting's own.
      obtain ⟨input, inputEq, groupEq⟩ := Descriptor.exists_inputShape builtIn
      refine ⟨input, inputEq, Descriptor.outputShape_of_group ?_ ?_ ?_ ?_ groupEq⟩
      all_goals exact kept.get_eq (by simp [assignments, Descriptor.outputAssignments])
  | types input second output =>
      constructor
      all_goals
        apply Descriptor.elementType_of_get
        exact kept.get_eq (by simp [assignments, Descriptor.typeAssignments])
  | source lane surface =>
      apply Descriptor.surface_of_registers
      all_goals
        exact kept.get_eq
          (by simp [assignments, Descriptor.sourceAssignments, Descriptor.strideAssignments])
  | destination surface =>
      apply Descriptor.surface_of_registers
      all_goals
        exact kept.get_eq
          (by simp [assignments, Descriptor.destinationAssignments, Descriptor.strideAssignments])
  | residency lane hint =>
      apply Descriptor.residency_of_get
      exact kept.get_eq (by simp [assignments, Descriptor.residencyAssignments])
  | activation value =>
      apply Descriptor.activation_of_registers
      all_goals exact kept.get_eq (by simp [assignments, Descriptor.activationAssignments])
  | lookup table => exact kept.attached table rfl
  | _ => exact True.intro

end Setting
end TileProgram

/-!
## Parts set last

A part is read as the last setting of it says, if that setting succeeded, from
whatever record a run begins and whatever else is set, before or after.
-/

namespace TileProgram

open Register

namespace Descriptor

/-- The last setting of its part in a run that begins with a given record, and one that succeeds. -/
def LastSet (start : Descriptor) (settings : List Setting) (setting : Setting) : Prop :=
  ∃ before after, settings = before ++ setting :: after ∧
    ((start.setAll before).set setting).2 = none ∧
    ∀ later ∈ after, later.part ≠ setting.part

variable {start : Descriptor} {settings : List Setting} {setting : Setting}

/-- What is set last is kept to the end of the run. -/
theorem LastSet.keptBy
    (builtIn : start.table = .standard)
    (last : LastSet start settings setting) :
    setting.KeptBy (start.setAll settings) := by
  obtain ⟨before, after, rfl, done, others⟩ := last
  rw [setAll_append, setAll_cons]
  have reached : (start.setAll before).table = .standard :=
    (table_setAll start before).trans builtIn
  exact keptBy_setAll ((changesOnly_set _ setting).table.trans reached) others
    (keptBy_set reached done)

/-- After any run of settings on a record of the built-in table, each part reads as it was set
last, unless that failed: typed reads give the values of the setting, and the registers hold its
amounts.  The output has the groups that were set last for the input.  A setting that fails
changes nothing outside the registers of its part, and one that fails to attach a lookup table
changes nothing at all. -/
theorem settings_independent
    (builtIn : start.table = .standard)
    (settings : List Setting) :
    (∀ setting, LastSet start settings setting →
      setting.ShownBy (start.setAll settings) ∧
      ∀ assignment ∈ setting.assignments, assignment.HeldBy (start.setAll settings)) ∧
    (∀ input output, LastSet start settings (.inputShape input) →
      LastSet start settings (.outputShape output) →
      (start.setAll settings).outputShape = .ok { output with group := input.group }) ∧
    ∀ setting error, ((start.setAll settings).set setting).2 = some error →
      ChangesOnly setting.part.registers (start.setAll settings)
        ((start.setAll settings).set setting).1 ∧
      ((start.setAll settings).set setting).1.lookup = (start.setAll settings).lookup ∧
      (setting.part = .lookup →
        ((start.setAll settings).set setting).1 = start.setAll settings) := by
  have standard : (start.setAll settings).table = .standard :=
    (table_setAll start settings).trans builtIn
  refine ⟨?_, ?_, ?_⟩
  · intro setting last
    have kept := last.keptBy builtIn
    exact ⟨kept.shownBy standard, kept.held⟩
  · intro input output inputLast outputLast
    have inputEq : (start.setAll settings).inputShape = .ok input :=
      (inputLast.keptBy builtIn).shownBy standard
    obtain ⟨held, heldEq, outputEq⟩ := (outputLast.keptBy builtIn).shownBy standard
    rw [inputEq] at heldEq
    cases heldEq
    exact outputEq
  · intro setting error failed
    refine ⟨changesOnly_set _ setting, ?_, set_of_error failed⟩
    by_cases table : setting.part = .lookup
    · rw [set_of_error failed table]
    · exact lookup_set table

/-- A surface that a source can have. -/
def framed : StridedSurface :=
  ⟨0x4000, ⟨64, 4096, 8192, 8192⟩, 1⟩

/-- Settings among which some fail: an interleave factor has no room, a channel does not exist,
and the groups of the input are too many at first. -/
def contested : List Setting :=
  [ .source .first framed,
    .outputShape ⟨7, 1, 8, 16, 16⟩,
    .source .second { framed with interleave := 200 },
    .channel 16 ⟨0, 64⟩,
    .activation ⟨.relu, .zero, .zero⟩,
    .inputShape ⟨0x10000, 1, 3, 32, 32⟩,
    .channel 1 ⟨256, 64⟩,
    .inputShape ⟨2, 1, 3, 32, 32⟩,
    .destination { framed with interleave := 200 } ]

/-- What succeeded is read at the end of the run, and a source that fails would change itself only. -/
theorem contested_independent :
    (Descriptor.empty.setAll contested).source .first = .ok (some framed) ∧
      (Descriptor.empty.setAll contested).channel 1 = .ok (some ⟨256, 64⟩) ∧
      (Descriptor.empty.setAll contested).outputShape = .ok ⟨2, 1, 8, 16, 16⟩ ∧
      ChangesOnly (Part.source .second).registers (Descriptor.empty.setAll contested)
        ((Descriptor.empty.setAll contested).set
          (.source .second { framed with interleave := 200 })).1 := by
  have builtIn : Descriptor.empty.table = .standard := rfl
  obtain ⟨shown, output, failed⟩ := settings_independent builtIn contested
  have source : LastSet Descriptor.empty contested (.source .first framed) :=
    ⟨[], contested.drop 1, rfl, by decide +kernel, by decide +kernel⟩
  have channel : LastSet Descriptor.empty contested (.channel 1 ⟨256, 64⟩) :=
    ⟨contested.take 6, contested.drop 7, rfl, by decide +kernel, by decide +kernel⟩
  have outputShape : LastSet Descriptor.empty contested (.outputShape ⟨7, 1, 8, 16, 16⟩) :=
    ⟨contested.take 1, contested.drop 2, rfl, by decide +kernel, by decide +kernel⟩
  have inputShape : LastSet Descriptor.empty contested (.inputShape ⟨2, 1, 3, 32, 32⟩) :=
    ⟨contested.take 7, contested.drop 8, rfl, by decide +kernel, by decide +kernel⟩
  refine ⟨(shown _ source).1, (shown _ channel).1, output _ _ inputShape outputShape, ?_⟩
  exact (failed (.source .second { framed with interleave := 200 })
    (.fieldOverflow (Registers.sourceInterleave .second) 200 4) (by decide +kernel)).1

end Descriptor
end TileProgram
