import TileProgram.Proofs.Endings
import TileProgram.Proofs.Execution.Progress

/-!
# A session's own checks

Before a session asks the service, it checks what it can by itself.  The result of
an operation is that of these checks, followed by writing the request if there is
one, followed by the answer of the service.  A session that waits for an outcome,
has failed or is closed is in no phase that passes the checks.
-/

namespace TileProgram
namespace Execution
namespace Session

variable {session : Session} {slots : Slots} {State : Type} {service : Service State}
  {counter : Counter State}

theorem result_loadContainer (session : Session) (program : Container) (counter : Counter State) :
    (session.loadContainer service program counter).result =
      session.checkLoad counter.slots program >>= fun _ =>
        (service.load session.connection program counter.state).result.map fun _ => () := by
  rw [(gated_loadContainer service session program counter).result_eq]
  simp only [result_load]
  rfl

theorem result_submit (session : Session) (inputs : List Surface) (counter : Counter State) :
    (session.submit service inputs counter).result =
      session.checkSubmit counter.slots inputs >>= fun program =>
        (session.runRequest program inputs).encode >>= fun raw =>
          (service.submit session.connection raw (session.numberedInputs inputs)
            (session.numberedOutputs program inputs) counter.slots.next counter.state).result.map
              fun _ => ⟨counter.slots.next, session.nextRequest⟩ := by
  rw [(gated_submit service session inputs counter).result_eq]
  simp only [result_place]
  rfl

theorem result_submitCompile (session : Session) (description : Bytes)
    (counter : Counter State) :
    (session.submitCompile service description counter).result =
      session.checkCompile counter.slots >>= fun _ =>
        (session.compileRequest description).encode >>= fun raw =>
          (service.compile session.connection raw (session.numberedDescription description)
            counter.slots.next counter.state).result.map
              fun _ => ⟨counter.slots.next, session.nextRequest⟩ := by
  rw [(gated_submitCompile service session description counter).result_eq]
  simp only [result_place]
  rfl

/-- Inputs that pass are as many as the program takes, and all surfaces fit into a request. -/
theorem surfaceCount_of_checkInputs
    {program : SessionProgram}
    {inputs : List Surface}
    (passed : checkInputs session.config program inputs = .ok ()) :
    (session.runRequest program inputs).surfaceCount ≤ Request.greatestSurfaces := by
  simp only [checkInputs, Outcome.seq_eq_ok, Outcome.exists_unit, Outcome.guard_eq_ok,
    Outcome.final_guard_eq_ok] at passed
  obtain ⟨count, -, few⟩ := passed
  have few := Nat.le_trans (Nat.le_of_not_gt few) (Nat.min_le_right _ _)
  have count := not_not.mp count
  simpa [Request.surfaceCount, runRequest, numberedInputs, numberedOutputs, count] using few

/-- Outside the allowed phases the common check fails. -/
theorem exists_checkIdle_error
    {allowed : List Phase}
    (outside : session.phase slots ∉ allowed) :
    ∃ error, (session.settle slots).checkIdle allowed = .error error := by
  cases idle : (session.settle slots).checkIdle allowed with
  | error error => exact ⟨error, rfl⟩
  | ok => exact absurd (mem_of_checkIdle idle) outside

/-- What follows the check of the mode fails outside the allowed phases. -/
theorem exists_checks_error
    {Value : Type}
    {allowed : List Phase}
    (outside : session.phase slots ∉ allowed)
    (wanted : Mode)
    (operation : Operation)
    (rest : Unit → Except Error Value) :
    ∃ error, (do
      session.checkMode wanted operation
      (session.settle slots).checkIdle allowed >>= rest) = .error error := by
  obtain ⟨error, busy⟩ := exists_checkIdle_error outside
  cases session.checkMode wanted operation with
  | error error => exact ⟨error, rfl⟩
  | ok =>
      refine ⟨error, ?_⟩
      rw [Outcome.ok_bind, busy]
      rfl

/-- A session that refuses to load, to run and to compile anything. -/
structure Refuses (service : Service State) (counter : Counter State) (session : Session) :
    Prop where
  container : ∀ program, ∃ error,
    (session.loadContainer service program counter).result = .error error
  program : ∀ bytes, ∃ error, (session.loadProgram service bytes counter).result = .error error
  file : ∀ contents, ∃ error, (session.loadFile service contents counter).result = .error error
  submit : ∀ inputs, ∃ error, (session.submit service inputs counter).result = .error error
  compile : ∀ description, ∃ error,
    (session.submitCompile service description counter).result = .error error

theorem loadContainer_error
    (outside : session.phase counter.slots ∉ loadPhases)
    (program : Container) :
    ∃ error, (session.loadContainer service program counter).result = .error error := by
  obtain ⟨error, refused⟩ :=
    exists_checks_error outside .programExecution .loadProgram fun _ =>
      program.validate.mapError .invalidContainer
  rw [result_loadContainer, checkLoad, refused]
  exact ⟨error, rfl⟩

theorem loadProgram_error
    (outside : session.phase counter.slots ∉ loadPhases)
    (bytes : Bytes) :
    ∃ error, (session.loadProgram service bytes counter).result = .error error := by
  rcases loadProgram_cases service session bytes counter with ⟨error, run⟩ | ⟨program, run⟩
  · exact ⟨error, congrArg Step.result run⟩
  · rw [run]
    exact loadContainer_error outside program

theorem loadFile_error
    (outside : session.phase counter.slots ∉ loadPhases)
    (contents : Except Files.Failure Bytes) :
    ∃ error, (session.loadFile service contents counter).result = .error error := by
  rcases loadFile_cases service session contents counter with ⟨error, run⟩ | ⟨program, run⟩
  · exact ⟨error, congrArg Step.result run⟩
  · rw [run]
    exact loadContainer_error outside program

theorem submit_error
    (outside : session.phase counter.slots ∉ submitPhases)
    (inputs : List Surface) :
    ∃ error, (session.submit service inputs counter).result = .error error := by
  obtain ⟨error, refused⟩ : ∃ error, session.checkSubmit counter.slots inputs = .error error :=
    exists_checks_error outside .programExecution .submit _
  rw [result_submit, refused]
  exact ⟨error, rfl⟩

theorem submitCompile_error
    (outside : session.phase counter.slots ∉ compilePhases)
    (description : Bytes) :
    ∃ error, (session.submitCompile service description counter).result = .error error := by
  obtain ⟨error, refused⟩ : ∃ error, session.checkCompile counter.slots = .error error := by
    simpa only [checkCompile, bind_pure] using
      exists_checks_error outside .compileOnly .submitCompile pure
  rw [result_submitCompile, refused]
  exact ⟨error, rfl⟩

/-- A session that waits, has failed or is closed refuses everything. -/
theorem refuses_of_phase
    (phase : session.phase counter.slots ∈ [.pending, .failed, .closed]) :
    session.Refuses service counter := by
  have outside : session.phase counter.slots ∉ loadPhases ∧
      session.phase counter.slots ∉ submitPhases ∧ session.phase counter.slots ∉ compilePhases := by
    generalize session.phase counter.slots = present at phase
    revert phase
    cases present <;> decide
  exact ⟨loadContainer_error outside.1, loadProgram_error outside.1, loadFile_error outside.1,
    submit_error outside.2.1, submitCompile_error outside.2.2⟩

end Session
end Execution
end TileProgram
