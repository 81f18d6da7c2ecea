import Mathlib.Tactic.ByContra
import TileProgram.Execution.Session
import TileProgram.Proofs.Outcome

/-!
# How operations of a session go

Before a session asks the service, it checks what it can by itself.  If a check
fails, the session is left as it is or brought up to date, and nothing else
happens.  If the checks pass, a program is put before the service, or a request
is numbered, written and put before the service; what happens then depends on the
answer only.

So an operation ends in one of a few ways, and these are told apart here once.
-/

namespace TileProgram
namespace Execution
namespace Session

@[simp] theorem storedPhase_settle (session : Session) (slots : Slots) :
    (session.settle slots).storedPhase = session.phase slots := rfl

@[simp] theorem mode_settle (session : Session) (slots : Slots) :
    (session.settle slots).mode = session.mode := rfl

@[simp] theorem program_settle (session : Session) (slots : Slots) :
    (session.settle slots).program = session.program := rfl

@[simp] theorem connection_settle (session : Session) (slots : Slots) :
    (session.settle slots).connection = session.connection := rfl

@[simp] theorem config_settle (session : Session) (slots : Slots) :
    (session.settle slots).config = session.config := rfl

/-!
## Checks
-/

/-- What is checked before a program is loaded. -/
def checkLoad (session : Session) (slots : Slots) (program : Container) : Except Error Unit := do
  session.checkMode .programExecution .loadProgram
  (session.settle slots).checkIdle loadPhases
  program.validate.mapError .invalidContainer

/-- What is checked before the loaded program is run on inputs. -/
def checkSubmit (session : Session) (slots : Slots) (inputs : List Surface) :
    Except Error SessionProgram := do
  session.checkMode .programExecution .submit
  (session.settle slots).checkIdle submitPhases
  match session.program with
  | none => throw (.invalidState .noProgram)
  | some program =>
      checkInputs session.config program inputs
      return program

/-- What is checked before a description is compiled. -/
def checkCompile (session : Session) (slots : Slots) : Except Error Unit := do
  session.checkMode .compileOnly .submitCompile
  (session.settle slots).checkIdle compilePhases

section

variable {session : Session} {slots : Slots}

/-- A settled session that passes the common check is in one of the allowed phases. -/
theorem mem_of_checkIdle
    {allowed : List Phase}
    (idle : session.checkIdle allowed = .ok ()) :
    session.storedPhase ∈ allowed := by
  unfold checkIdle at idle
  split at idle
  · cases idle
  · cases idle
  · by_contra refused
    rw [if_neg refused] at idle
    cases idle

theorem mode_of_checkMode
    {wanted : Mode}
    {operation : Operation}
    (fits : session.checkMode wanted operation = .ok ()) :
    session.mode = wanted := by
  by_contra other
  rw [checkMode, if_neg other] at fits
  cases fits

/-- What the checks before loading say about a session. -/
theorem ready_of_checkLoad
    {program : Container}
    (checked : session.checkLoad slots program = .ok ()) :
    session.mode = .programExecution ∧ session.phase slots ∈ loadPhases := by
  simp only [checkLoad, Outcome.seq_eq_ok, Outcome.exists_unit] at checked
  obtain ⟨fits, idle, -⟩ := checked
  exact ⟨mode_of_checkMode fits, mem_of_checkIdle idle⟩

/-- What the checks before running a program say about a session. -/
theorem ready_of_checkSubmit
    {inputs : List Surface}
    {program : SessionProgram}
    (checked : session.checkSubmit slots inputs = .ok program) :
    session.mode = .programExecution ∧ session.phase slots ∈ submitPhases ∧
      session.program = some program ∧ checkInputs session.config program inputs = .ok () := by
  simp only [checkSubmit, Outcome.seq_eq_ok, Outcome.exists_unit] at checked
  obtain ⟨fits, idle, checked⟩ := checked
  refine ⟨mode_of_checkMode fits, mem_of_checkIdle idle, ?_⟩
  cases held : session.program with
  | none =>
      rw [held] at checked
      cases checked
  | some own =>
      rw [held] at checked
      simp only [Outcome.seq_eq_ok, Outcome.exists_unit, Outcome.pure_eq_ok] at checked
      obtain ⟨passed, rfl⟩ := checked
      exact ⟨rfl, passed⟩

/-- What the checks before compiling say about a session. -/
theorem ready_of_checkCompile
    (checked : session.checkCompile slots = .ok ()) :
    session.mode = .compileOnly ∧ session.phase slots ∈ compilePhases := by
  simp only [checkCompile, Outcome.seq_eq_ok, Outcome.exists_unit] at checked
  obtain ⟨fits, idle⟩ := checked
  exact ⟨mode_of_checkMode fits, mem_of_checkIdle idle⟩

end

/-- An operation that checks before it goes on with what the checks give. -/
inductive Gated {State Checked Value : Type} (checks : Except Error Checked)
    (goOn : Checked → Step State Value) (session : Session) (counter : Counter State)
    (step : Step State Value) : Prop where
  | kept (error : Error)
      (failed : checks = .error error)
      (run : step = ⟨.error error, session, counter⟩)
  | settled (error : Error)
      (failed : checks = .error error)
      (run : step = ⟨.error error, session.settle counter.slots, counter⟩)
  | passed (value : Checked)
      (checked : checks = .ok value)
      (run : step = goOn value)

section

variable {State Checked Value : Type} {checks : Except Error Checked}
  {goOn : Checked → Step State Value} {session : Session} {counter : Counter State}
  {step : Step State Value} {service : Service State}

/-- An operation whose checks pass goes on. -/
theorem Gated.eq_of_ok
    {value : Checked}
    (gated : Gated checks goOn session counter step)
    (checked : checks = .ok value) :
    step = goOn value := by
  cases gated with
  | kept error failed => cases failed.symm.trans checked
  | settled error failed => cases failed.symm.trans checked
  | passed own passed run =>
      cases passed.symm.trans checked
      exact run

/-- The checks of an operation that gives a value passed. -/
theorem Gated.exists_of_result
    {value : Value}
    (gated : Gated checks goOn session counter step)
    (given : step.result = .ok value) :
    ∃ checked, checks = .ok checked ∧ step = goOn checked := by
  cases gated with
  | kept error failed run =>
      rw [run] at given
      cases given
  | settled error failed run =>
      rw [run] at given
      cases given
  | passed own checked run => exact ⟨own, checked, run⟩

/-- An operation reaches the counter only when its checks pass. -/
theorem Gated.counter_cases (gated : Gated checks goOn session counter step) :
    step.counter = counter ∨ ∃ value, checks = .ok value ∧ step.counter = (goOn value).counter := by
  cases gated with
  | kept error failed run => exact .inl (congrArg Step.counter run)
  | settled error failed run => exact .inl (congrArg Step.counter run)
  | passed value checked run => exact .inr ⟨value, checked, congrArg Step.counter run⟩

/-- The result of an operation is that of the checks, followed by that of going on. -/
theorem Gated.result_eq (gated : Gated checks goOn session counter step) :
    step.result = checks >>= fun value => (goOn value).result := by
  cases gated with
  | kept error failed run =>
      rw [run, failed]
      rfl
  | settled error failed run =>
      rw [run, failed]
      rfl
  | passed value checked run =>
      rw [run, checked]
      rfl

/-!
## Loading
-/

/-- Has the service load a program that passes the checks. -/
def load (service : Service State) (session : Session) (program : Container)
    (counter : Counter State) : Step State Unit :=
  let (result, next) := counter.accept (service.load session.connection program counter.state)
  match result with
  | .error error => ⟨.error error, session, next⟩
  | .ok id =>
      ⟨.ok (), { session with
        storedPhase := .programLoaded
        program := some ⟨id, sizesOf program.inputs, sizesOf program.outputs⟩ }, next⟩

theorem load_of_error
    {program : Container}
    {error : Error}
    (answer : (service.load session.connection program counter.state).result = .error error) :
    session.load service program counter = ⟨.error error, session,
      (counter.accept (service.load session.connection program counter.state)).2⟩ := by
  simp only [load, Counter.accept, answer]

theorem load_of_ok
    {program : Container}
    {id : UInt32}
    (answer : (service.load session.connection program counter.state).result = .ok id) :
    session.load service program counter =
      ⟨.ok (), { session with
        storedPhase := .programLoaded
        program := some ⟨id, sizesOf program.inputs, sizesOf program.outputs⟩ },
      (counter.accept (service.load session.connection program counter.state)).2⟩ := by
  simp only [load, Counter.accept, answer]

/-- Whatever the service answers, the counter takes it. -/
@[simp] theorem counter_load (service : Service State) (session : Session) (program : Container)
    (counter : Counter State) :
    (session.load service program counter).counter =
      (counter.accept (service.load session.connection program counter.state)).2 := by
  cases answer : (service.load session.connection program counter.state).result with
  | error error => rw [load_of_error answer]
  | ok id => rw [load_of_ok answer]

@[simp] theorem result_load (service : Service State) (session : Session) (program : Container)
    (counter : Counter State) :
    (session.load service program counter).result =
      (service.load session.connection program counter.state).result.map fun _ => () := by
  cases answer : (service.load session.connection program counter.state).result with
  | error error => rw [load_of_error answer, Except.map]
  | ok id => rw [load_of_ok answer, Except.map]

theorem gated_loadContainer (service : Service State) (session : Session) (program : Container)
    (counter : Counter State) :
    Gated (session.checkLoad counter.slots program)
      (fun _ => (session.settle counter.slots).load service program counter) session counter
      (session.loadContainer service program counter) := by
  unfold loadContainer checkLoad
  cases session.checkMode .programExecution .loadProgram with
  | error error => exact .kept error rfl rfl
  | ok =>
      cases idle : (session.settle counter.slots).checkIdle loadPhases with
      | error error =>
          simp only [idle]
          exact .settled error rfl rfl
      | ok =>
          simp only [idle]
          cases program.validate with
          | error error => exact .settled (.invalidContainer error) rfl rfl
          | ok => exact .passed () rfl rfl

/-- Bytes that are read are loaded like any program; other bytes change nothing. -/
theorem loadProgram_cases (service : Service State) (session : Session) (bytes : Bytes)
    (counter : Counter State) :
    (∃ error, session.loadProgram service bytes counter = ⟨.error error, session, counter⟩) ∨
      ∃ program, session.loadProgram service bytes counter =
        session.loadContainer service program counter := by
  unfold loadProgram
  cases session.checkMode .programExecution .loadProgram with
  | error error => exact .inl ⟨error, rfl⟩
  | ok =>
      cases Container.read bytes with
      | error error => exact .inl ⟨.invalidContainer error, rfl⟩
      | ok program => exact .inr ⟨program, rfl⟩

/-- Contents that are read are loaded like any program; otherwise nothing changes. -/
theorem loadFile_cases (service : Service State) (session : Session)
    (contents : Except Files.Failure Bytes) (counter : Counter State) :
    (∃ error, session.loadFile service contents counter = ⟨.error error, session, counter⟩) ∨
      ∃ program, session.loadFile service contents counter =
        session.loadContainer service program counter := by
  unfold loadFile
  cases session.checkMode .programExecution .loadProgram with
  | error error => exact .inl ⟨error, rfl⟩
  | ok =>
      cases contents with
      | error failure => exact .inl ⟨.files failure, rfl⟩
      | ok bytes => exact loadProgram_cases service session bytes counter

/-!
## Requests
-/

/-- A request that can be written and that the service accepts becomes the pending one. -/
theorem place_of_ok
    {request : Request}
    {ask : Bytes → Nat → State → Reply State Unit}
    {raw : Bytes}
    (written : request.encode = .ok raw)
    (answer : (ask raw counter.slots.next counter.state).result = .ok ()) :
    session.place request ask counter =
      ⟨.ok ⟨counter.slots.next, request.requestId⟩, { session with
        storedPhase := .pending
        pending := some ⟨counter.slots.next, request.requestId⟩ },
      ((counter.allot request.requestId).2.accept
        (ask raw counter.slots.next counter.state)).2⟩ := by
  simp only [place, written, Counter.allot, Slots.allot, Counter.accept, answer]

/-- How putting a request before the service goes. -/
inductive Asked (request : Request) (ask : Bytes → Nat → State → Reply State Unit)
    (session : Session) (counter : Counter State) (step : Step State Handle) : Prop where
  | unwritten (error : Error)
      (failed : request.encode = .error error)
      (run : step = ⟨.error error, session, counter⟩)
  | refused (raw : Bytes) (error : Error)
      (written : request.encode = .ok raw)
      (answer : (ask raw counter.slots.next counter.state).result = .error error)
      (run : step = ⟨.error error, session,
        ((counter.allot request.requestId).2.accept (ask raw counter.slots.next counter.state)).2⟩)
  | accepted (raw : Bytes)
      (written : request.encode = .ok raw)
      (answer : (ask raw counter.slots.next counter.state).result = .ok ())
      (run : step = ⟨.ok ⟨counter.slots.next, request.requestId⟩, { session with
          storedPhase := .pending
          pending := some ⟨counter.slots.next, request.requestId⟩ },
        ((counter.allot request.requestId).2.accept (ask raw counter.slots.next counter.state)).2⟩)

theorem asked_place (request : Request) (ask : Bytes → Nat → State → Reply State Unit)
    (session : Session) (counter : Counter State) :
    Asked request ask session counter (session.place request ask counter) := by
  cases written : request.encode with
  | error error =>
      refine .unwritten error written ?_
      simp only [place, written]
  | ok raw =>
      cases answer : (ask raw counter.slots.next counter.state).result with
      | error error =>
          refine .refused raw error written answer ?_
          simp only [place, written, Counter.allot, Slots.allot, Counter.accept, answer]
      | ok => exact .accepted raw written answer (place_of_ok written answer)

/-- Whatever the service answers to a request that is written, the counter takes it. -/
theorem Asked.counter_cases
    {request : Request}
    {ask : Bytes → Nat → State → Reply State Unit}
    {step : Step State Handle}
    (asked : Asked request ask session counter step) :
    step.counter = counter ∨ ∃ raw, step.counter =
      ((counter.allot request.requestId).2.accept (ask raw counter.slots.next counter.state)).2 := by
  cases asked with
  | unwritten error failed run => exact .inl (congrArg Step.counter run)
  | refused raw error written answer run => exact .inr ⟨raw, congrArg Step.counter run⟩
  | accepted raw written answer run => exact .inr ⟨raw, congrArg Step.counter run⟩

/-- A request is written, and the service answers. -/
theorem result_place (session : Session) (request : Request)
    (ask : Bytes → Nat → State → Reply State Unit) (counter : Counter State) :
    (session.place request ask counter).result =
      request.encode >>= fun raw =>
        (ask raw counter.slots.next counter.state).result.map fun _ =>
          ⟨counter.slots.next, request.requestId⟩ := by
  cases asked_place request ask session counter with
  | unwritten error failed run =>
      rw [run, failed]
      rfl
  | refused raw error written answer run =>
      rw [run, written]
      show _ = (ask raw counter.slots.next counter.state).result.map _
      rw [answer]
      rfl
  | accepted raw written answer run =>
      rw [run, written]
      show _ = (ask raw counter.slots.next counter.state).result.map _
      rw [answer]
      rfl

theorem gated_submit (service : Service State) (session : Session) (inputs : List Surface)
    (counter : Counter State) :
    Gated (session.checkSubmit counter.slots inputs)
      (fun program => ((session.settle counter.slots).counted
          (inputs.length + program.outputSizes.length)).place
        (session.runRequest program inputs)
        (service.submit session.connection · (session.numberedInputs inputs)
          (session.numberedOutputs program inputs) ·)
        counter)
      session counter (session.submit service inputs counter) := by
  unfold submit checkSubmit
  cases session.checkMode .programExecution .submit with
  | error error => exact .kept error rfl rfl
  | ok =>
      cases idle : (session.settle counter.slots).checkIdle submitPhases with
      | error error =>
          simp only [idle]
          exact .settled error rfl rfl
      | ok =>
          cases held : session.program with
          | none =>
              simp only [idle, program_settle, held]
              exact .settled (.invalidState .noProgram) rfl rfl
          | some program =>
              simp only [idle, program_settle, held, config_settle]
              cases checkInputs session.config program inputs with
              | error error => exact .settled error rfl rfl
              | ok => exact .passed program rfl rfl

theorem gated_submitCompile (service : Service State) (session : Session) (description : Bytes)
    (counter : Counter State) :
    Gated (session.checkCompile counter.slots)
      (fun _ => ((session.settle counter.slots).counted 1).place
        (session.compileRequest description)
        (service.compile session.connection · (session.numberedDescription description) ·)
        counter)
      session counter (session.submitCompile service description counter) := by
  unfold submitCompile checkCompile
  cases session.checkMode .compileOnly .submitCompile with
  | error error => exact .kept error rfl rfl
  | ok =>
      cases idle : (session.settle counter.slots).checkIdle compilePhases with
      | error error =>
          simp only [idle]
          exact .settled error rfl rfl
      | ok =>
          simp only [idle]
          exact .passed () rfl rfl

end

end Session
end Execution
end TileProgram
