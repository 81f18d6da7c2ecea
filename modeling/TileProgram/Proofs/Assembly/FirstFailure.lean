import TileProgram.Proofs.Assembly.Access
import TileProgram.Proofs.Assembly.Failures
import TileProgram.Proofs.Assembly.RoundTrip

/-!
# Which check reports a record

The checks of what the assembler has made itself never fail, and the error of a
record says what the passes before have found about the records before it.
-/

/-!
## The assembler's own checks

The assembler checks what it is given, and it checks what it has made: indices,
producers, chained records, residency, links and names.  The checks of what it
has made never fail, whatever it is given.  Only a lookup table can be missing,
which is up to the network.
-/

namespace TileProgram

/-- Whether an error is about a policy or a network, or about something in it that has no room. -/
def ProgramError.concernsInput : ProgramError → Bool
  | .invalidOperand _ defect => defect.concernsInput
  | .fusionShapeMismatch .. => true
  | .shapeMismatch .. => true
  | .channelOverflow .. => true
  | .invalidRecord _ (.fieldOverflow ..) => true
  | .invalidRecord _ .missingTable => true
  | .invalidContainer (.tooManyRelocations ..) => true
  | _ => false

namespace Assembly

open Network Stage Container Register

variable {policy : Layout.Policy} {network : Network}

/-- Whatever makes an assembly fail is about what the assembler was given. -/
theorem Failure.concernsInput
    {error : ProgramError}
    (failure : Failure policy network error) :
    error.concernsInput = true := by
  cases failure with
  | accepting refused =>
      cases refused with
      | operand index concerns => exact concerns
  | grouping refused => cases refused; rfl
  | placing planned refused => cases placeNetwork_failsWith _ refused; rfl
  | encoding prepared refused before => cases refused <;> rfl
  | numbering prepared before => rfl
  | validating prepared encoded missing before => rfl
  | relocating count => rfl

/-- The assembler uses no index that is out of range, and it ends with a program or with an error
about what it was given.  A record that was encoded is valid, before and after it is numbered and
linked, or it lacks its lookup table; it does so exactly when the one node of its stage with an
activation has that of a lookup table, and no samples. -/
theorem assemble_checks (policy : Layout.Policy) (network : Network) :
    guardedAssemble policy network = .of (assemble policy network) ∧
      (∀ error, assemble policy network = .error error → error.concernsInput = true) ∧
      ∀ (prepared : Prepared policy network) (index : Nat) (stage : Stage)
        (weights : Option ChannelData) (hints : Residency.StageHints) (record : Descriptor),
        prepared.stages[index]? = some stage →
        Stage.encode index (stage.nodesOf network) (prepared.binding index weights hints) =
          .ok record →
        (record.validate = .ok () ∨ record.validate = .error .missingTable) ∧
          (record.validate = .error .missingTable ↔
            ∃ node, ((stage.nodesOf network).filter fun node => !node.activation.isNone) = [node] ∧
              node.activation.kind = .lut ∧ node.samples = none) ∧
          ∀ (count number : Nat) (changed : Descriptor),
            record.assigned (chainAssignments count number) = .ok changed →
            changed.validate = record.validate := by
  refine ⟨guardedAssemble_eq policy network, ?_, ?_⟩
  · intro error failed
    exact (failure_of_assemble failed).concernsInput
  · intro prepared index stage weights hints record present encoded
    have valid := prepared.validate_encoded present encoded
    have grown := prepared.grown stage (List.mem_of_getElem? present)
    refine ⟨prepared.valid_or_missingTable present encoded, ?_, ?_⟩
    · rw [valid, ← tableMissing_iff grown.length_active_le]
      split
      next missing => exact ⟨fun _ => missing, fun _ => rfl⟩
      next held =>
        refine ⟨?_, fun missing => absurd missing held⟩
        intro impossible
        cases impossible
    · intro count number changed assigned
      exact prepared.validate_linked present encoded assigned

/-- An activation by a lookup table that nobody gives. -/
def unsampled : Network :=
  { inputs := [strip]
    nodes := [⟨.activation, [.input 0], strip, ⟨.lut, ⟨0⟩, ⟨0⟩⟩, none, none⟩] }

/-- Its record is encoded, and lacks its lookup table. -/
theorem unsampled_missing :
    ∃ (prepared : Prepared .standard unsampled) (stage : Stage) (record : Descriptor),
      prepared.stages[0]? = some stage ∧
        Stage.encode 0 (stage.nodesOf unsampled) (prepared.binding 0 none default) = .ok record ∧
        record.validate = .error .missingTable ∧
        ∃ node, ((stage.nodesOf unsampled).filter fun node => !node.activation.isNone) = [node] ∧
          node.activation.kind = .lut ∧ node.samples = none := by
  obtain ⟨placement, placed, record, encoded, -⟩ : ∃ placement,
      placeNetwork .standard unsampled [⟨0, []⟩] = .ok placement ∧ ∃ record,
        Stage.encode 0 (Stage.nodesOf ⟨0, []⟩ unsampled)
          ⟨inputsOf placement [[.input 0]] 0, placement.lookup (.stage 0), none, default⟩ =
            .ok record ∧ True := by
    decide +kernel
  let prepared : Prepared .standard unsampled :=
    ⟨[⟨0, []⟩], [[.input 0]], placement, by decide +kernel, by decide +kernel, by decide +kernel,
      by decide +kernel, placed⟩
  have missing : record.validate = .error .missingTable := prepared.validate_encoded rfl encoded
  obtain ⟨-, lacks, -⟩ := (assemble_checks .standard unsampled).2.2 prepared 0 ⟨0, []⟩ none default
    record rfl encoded
  exact ⟨prepared, ⟨0, []⟩, record, rfl, encoded, missing, lacks.mp missing⟩

end Assembly
end TileProgram

/-!
## Records before the one that is reported

The passes of an assembly go over all records one after the other, so the error
of a record says what the passes up to its own have found about the records
before it.  Those have been encoded, but they have been checked only if the
error is that of a check.
-/

namespace TileProgram
namespace Assembly

open Network Stage Container Register

variable {policy : Layout.Policy} {network : Network}

/-- A record that is encoded by itself is valid or lacks its lookup table. -/
theorem Prepared.Encodes.validate
    {prepared : Prepared policy network}
    {index : Nat}
    {record : Descriptor}
    (encodes : prepared.Encodes index record) :
    record.validate = .ok () ∨ record.validate = .error .missingTable := by
  obtain ⟨stage, weights, present, encoded⟩ := encodes
  exact prepared.valid_or_missingTable present encoded

/-- If an assembly reports a record, then a surface could not be placed for it, or all records
before it are encoded.  If the report is that a lookup table is missing, then it is the first
record without; if it is about a value without room, then any record before it may lack its
table. -/
theorem before_of_assemble
    {index : Nat}
    {error : Register.Error}
    (failed : assemble policy network = .error (.invalidRecord index error)) :
    (∃ stages, Stage.plan policy.fusion network = .ok stages ∧
        placeNetwork policy network stages = .error (.invalidRecord index error)) ∨
      ∃ prepared : Prepared policy network,
        error.isOverflow = true ∧
            (∀ earlier < index, ∃ record, prepared.Encodes earlier record ∧
              (record.validate = .ok () ∨ record.validate = .error .missingTable)) ∨
          error = .missingTable ∧
            (∀ earlier < index, ∃ record, prepared.Encodes earlier record ∧
              record.validate = .ok ()) ∧
            ∃ record, prepared.Encodes index record ∧
              record.validate = .error .missingTable := by
  have checked : ∀ {prepared : Prepared policy network} {index : Nat},
      (∃ record, prepared.Encodes index record) → ∃ record, prepared.Encodes index record ∧
        (record.validate = .ok () ∨ record.validate = .error .missingTable) :=
    fun ⟨record, encodes⟩ => ⟨record, encodes, encodes.validate⟩
  cases failure_of_assemble failed with
  | accepting refused => cases refused
  | grouping refused => cases refused
  | placing planned refused => exact Or.inl ⟨_, planned, refused⟩
  | encoding prepared refused before =>
      cases refused
      exact Or.inr ⟨prepared, Or.inl ⟨rfl, fun earlier less => checked (before earlier less)⟩⟩
  | numbering prepared before =>
      exact Or.inr ⟨prepared, Or.inl ⟨rfl, fun earlier less => checked (before earlier less)⟩⟩
  | validating prepared encoded missing before =>
      exact Or.inr ⟨prepared, Or.inr ⟨rfl, before, _, encoded, missing⟩⟩

/-- An activation by a lookup table that nobody gives, and a convolution with a window that is
too wide. -/
def late : Network :=
  { inputs := [strip]
    nodes :=
      [ ⟨.activation, [.input 0], strip, ⟨.lut, ⟨0⟩, ⟨0⟩⟩, none, none⟩,
        ⟨.convolution (32, 1) (1, 1) (0, 0) 1, [.input 0], strip, ⟨.identity, ⟨0⟩, ⟨0⟩⟩,
          none, none⟩ ] }

/-- The convolution is reported. -/
theorem late_refused :
    assemble .standard late =
      .error (.invalidRecord 1 (.fieldOverflow Registers.kernelWidth 32 5)) := by
  decide +kernel

/-- The record before it is encoded, so its lookup table is all that can be missing. -/
theorem late_reported :
    assemble .standard late =
        .error (.invalidRecord 1 (.fieldOverflow Registers.kernelWidth 32 5)) ∧
      ((∃ stages, Stage.plan Layout.Policy.standard.fusion late = .ok stages ∧
          placeNetwork .standard late stages =
            .error (.invalidRecord 1 (.fieldOverflow Registers.kernelWidth 32 5))) ∨
        ∃ prepared : Prepared .standard late,
          (Error.fieldOverflow Registers.kernelWidth 32 5).isOverflow = true ∧
              (∀ earlier < 1, ∃ record, prepared.Encodes earlier record ∧
                (record.validate = .ok () ∨ record.validate = .error .missingTable)) ∨
            Error.fieldOverflow Registers.kernelWidth 32 5 = .missingTable ∧
              (∀ earlier < 1, ∃ record, prepared.Encodes earlier record ∧
                record.validate = .ok ()) ∧
              ∃ record, prepared.Encodes 1 record ∧
                record.validate = .error .missingTable) :=
  ⟨late_refused, before_of_assemble late_refused⟩

/-- The record before it does lack its lookup table. -/
theorem first_failure_passed_over :
    assemble .standard late =
        .error (.invalidRecord 1 (.fieldOverflow Registers.kernelWidth 32 5)) ∧
      ∃ (prepared : Prepared .standard late) (record : Descriptor),
        prepared.Encodes 0 record ∧ record.validate = .error .missingTable := by
  refine ⟨late_refused, ?_⟩
  obtain ⟨placement, placed, record, encoded, -⟩ : ∃ placement,
      placeNetwork .standard late [⟨0, []⟩, ⟨1, []⟩] = .ok placement ∧ ∃ record,
        Stage.encode 0 (Stage.nodesOf ⟨0, []⟩ late)
          ⟨inputsOf placement [[.input 0], [.input 0]] 0, placement.lookup (.stage 0), none,
            ((Residency.Reads.plan [[.input 0], [.input 0]])[0]?).getD default⟩ = .ok record ∧
        True := by
    decide +kernel
  let prepared : Prepared .standard late :=
    ⟨[⟨0, []⟩, ⟨1, []⟩], [[.input 0], [.input 0]], placement, by decide +kernel,
      by decide +kernel, by decide +kernel, by decide +kernel, placed⟩
  exact ⟨prepared, record, ⟨⟨0, []⟩, none, rfl, encoded⟩, prepared.validate_encoded rfl encoded⟩

end Assembly
end TileProgram
