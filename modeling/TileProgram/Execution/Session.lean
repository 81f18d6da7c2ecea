import TileProgram.Container.Reader
import TileProgram.Execution.Service

/-!
# Sessions

A session is one connection to a service.  It has at most one request under
way, and this request counts as pending until its outcome is taken.  After a
success the session takes further requests; after a failure it can only be
closed.  Closing cancels a pending request.

Every operation is asked at the counter of a service and gives the session
and the counter after it.
-/

namespace TileProgram
namespace Execution

/-- How long a session waits by default, and how many surfaces its requests may name. -/
structure Config where
  timeoutMilliseconds : Nat
  greatestSurfaces : Nat
  deriving DecidableEq

namespace Config

/-- Five seconds, and as many surfaces as a request can name. -/
def standard : Config :=
  ⟨5000, Request.greatestSurfaces⟩

/-- Replaces the default timeout. -/
def withTimeout (config : Config) (milliseconds : Nat) : Config :=
  { config with timeoutMilliseconds := milliseconds }

/-- The default timeout in microseconds. -/
def timeoutMicroseconds (config : Config) : Nat :=
  config.timeoutMilliseconds * 1000

/-- The surfaces that a request may name: never more than a request can hold. -/
def surfaceLimit (config : Config) : Nat :=
  min config.greatestSurfaces Request.greatestSurfaces

end Config

/-- A loaded program with the sizes of its surfaces. -/
structure SessionProgram where
  id : UInt32
  inputSizes : List UInt64
  outputSizes : List UInt64
  deriving DecidableEq

/-- A session; the stored phase is brought up to date when the session is used. -/
structure Session where
  connection : UInt32
  mode : Mode
  config : Config
  storedPhase : Phase
  program : Option SessionProgram
  pending : Option Handle
  nextRequest : UInt64
  nextSurface : UInt64
  deriving DecidableEq

/-- What an operation gives: its result, and the session and the counter after it. -/
structure Step (State Value : Type) where
  result : Except Error Value
  session : Session
  counter : Counter State

namespace Session

/-- Opens a session in a mode. -/
def open_ (service : Service State) (mode : Mode) (config : Config) (counter : Counter State) :
    Except Error Session × Counter State :=
  let (result, next) := counter.accept (service.connect mode counter.state)
  let session (connection : UInt32) : Session :=
    ⟨connection, mode, config, mode.start, none, none, 1, 1⟩
  (result.map session, next)

/-- The phase of a pending request by its slot. -/
def phaseOfStatus : SlotStatus → Phase
  | .pending => .pending
  | .succeeded => .completed
  | .failed => .failed
  | .cancelled => .closed

/-- The present phase, which takes into account that an outcome may have been taken through its
handle. -/
def phase (session : Session) (slots : Slots) : Phase :=
  match session.pending, session.storedPhase with
  | some handle, .pending => phaseOfStatus (slots.get handle.slot).status
  | _, stored => stored

/-- Stores the present phase, and lets go of a request that is no longer pending. -/
def settle (session : Session) (slots : Slots) : Session :=
  let now := session.phase slots
  { session with
    storedPhase := now
    pending := if now = .pending then session.pending else none }

/-- Checks that a session has the mode that an operation needs. -/
def checkMode (session : Session) (wanted : Mode) (operation : Operation) : Except Error Unit :=
  if session.mode = wanted then .ok () else .error (.modeMismatch operation session.mode)

/-- Checks that a settled session is in one of the phases in which an operation is allowed. -/
def checkIdle (session : Session) (allowed : List Phase) : Except Error Unit :=
  match session.storedPhase with
  | .pending => .error (.busy ((session.pending.map Handle.request).getD 0))
  | .failed => .error (.invalidState .afterFailure)
  | stored => if stored ∈ allowed then .ok () else .error (.invalidState (.outOfPhase stored))

/-- The phases in which a program can be loaded. -/
def loadPhases : List Phase := [.opened, .programLoaded, .completed]

/-- The phases in which a program can be run. -/
def submitPhases : List Phase := [.programLoaded, .completed]

/-- The phases in which a description can be compiled. -/
def compilePhases : List Phase := [.compileReady, .completed]

/-- The declared sizes of surfaces. -/
def sizesOf (surfaces : List Container.Relocation) : List UInt64 :=
  surfaces.map Container.Relocation.size

/-- Loads a program. -/
def loadContainer (service : Service State) (session : Session) (program : Container)
    (counter : Counter State) : Step State Unit :=
  match session.checkMode .programExecution .loadProgram with
  | .error error => ⟨.error error, session, counter⟩
  | .ok () =>
      let settled := session.settle counter.slots
      match settled.checkIdle loadPhases with
      | .error error => ⟨.error error, settled, counter⟩
      | .ok () =>
          match program.validate with
          | .error error => ⟨.error (.invalidContainer error), settled, counter⟩
          | .ok () =>
              let (result, next) :=
                counter.accept (service.load session.connection program counter.state)
              match result with
              | .error error => ⟨.error error, settled, next⟩
              | .ok id =>
                  let loaded : SessionProgram :=
                    ⟨id, sizesOf program.inputs, sizesOf program.outputs⟩
                  let after :=
                    { settled with storedPhase := .programLoaded, program := some loaded }
                  ⟨.ok (), after, next⟩

/-- Reads and loads a program. -/
def loadProgram (service : Service State) (session : Session) (bytes : Bytes)
    (counter : Counter State) : Step State Unit :=
  match session.checkMode .programExecution .loadProgram with
  | .error error => ⟨.error error, session, counter⟩
  | .ok () =>
      match Container.read bytes with
      | .error error => ⟨.error (.invalidContainer error), session, counter⟩
      | .ok program => session.loadContainer service program counter

/-- Loads a program from what reading a file gave. -/
def loadFile (service : Service State) (session : Session)
    (contents : Except Files.Failure Bytes) (counter : Counter State) : Step State Unit :=
  match session.checkMode .programExecution .loadProgram with
  | .error error => ⟨.error error, session, counter⟩
  | .ok () =>
      match contents with
      | .error failure => ⟨.error (.files failure), session, counter⟩
      | .ok bytes => session.loadProgram service bytes counter

/-- Checks the sizes of inputs from a given position on. -/
def checkSizesFrom (index : Nat) : List UInt64 → List Surface → Except Error Unit
  | size :: sizes, surface :: surfaces =>
      if UInt64.ofNat surface.size ≠ size then
        .error (.invalidSurface index (.wrongSize surface.size size.toNat))
      else checkSizesFrom (index + 1) sizes surfaces
  | _, _ => .ok ()

/-- Checks that inputs are what a program takes and that the request is not too large. -/
def checkInputs (config : Config) (program : SessionProgram) (inputs : List Surface) :
    Except Error Unit := do
  let declared := program.inputSizes.length
  if inputs.length ≠ declared then
    throw (.invalidSurface (min inputs.length declared) (.wrongCount declared inputs.length))
  checkSizesFrom 0 program.inputSizes inputs
  let needed := declared + program.outputSizes.length
  if needed > config.surfaceLimit then throw (.tooLarge needed config.surfaceLimit)

/-- The inputs of a request as a session numbers them. -/
def numberedInputs (session : Session) (inputs : List Surface) : List Surface :=
  Surface.numberFrom session.nextSurface inputs

/-- The empty outputs of a program as a session numbers them, after the inputs. -/
def numberedOutputs (session : Session) (program : SessionProgram) (inputs : List Surface) :
    List Surface :=
  Surface.numberFrom (session.nextSurface + UInt64.ofNat inputs.length)
    (program.outputSizes.map fun size => Surface.zeroed size.toNat)

/-- The request to run a program on inputs. -/
def runRequest (session : Session) (program : SessionProgram) (inputs : List Surface) :
    Request :=
  ⟨session.nextRequest, program.id, false,
    (session.numberedInputs inputs).map .ofSurface,
    (session.numberedOutputs program inputs).map .ofSurface⟩

/-- A description as a session numbers it. -/
def numberedDescription (session : Session) (description : Bytes) : Surface :=
  ⟨session.nextSurface, description⟩

/-- The request to compile a description. -/
def compileRequest (session : Session) (description : Bytes) : Request :=
  ⟨session.nextRequest, 0, true, [.ofSurface (session.numberedDescription description)], []⟩

/-- A session that has numbered a request with a count of surfaces. -/
def counted (session : Session) (surfaces : Nat) : Session :=
  { session with
    nextRequest := session.nextRequest + 1
    nextSurface := session.nextSurface + UInt64.ofNat surfaces }

/-- Puts a request before the service and makes it the pending one if it is accepted. -/
def place (session : Session) (request : Request)
    (ask : Bytes → Nat → State → Reply State Unit) (counter : Counter State) :
    Step State Handle :=
  match request.encode with
  | .error error => ⟨.error error, session, counter⟩
  | .ok raw =>
      let (handle, allotted) := counter.allot request.requestId
      let (result, next) := allotted.accept (ask raw handle.slot allotted.state)
      match result with
      | .error error => ⟨.error error, session, next⟩
      | .ok () =>
          ⟨.ok handle, { session with storedPhase := .pending, pending := some handle }, next⟩

/-- Runs the loaded program on inputs. -/
def submit (service : Service State) (session : Session) (inputs : List Surface)
    (counter : Counter State) : Step State Handle :=
  match session.checkMode .programExecution .submit with
  | .error error => ⟨.error error, session, counter⟩
  | .ok () =>
      let settled := session.settle counter.slots
      match settled.checkIdle submitPhases, settled.program with
      | .error error, _ => ⟨.error error, settled, counter⟩
      | .ok (), none => ⟨.error (.invalidState .noProgram), settled, counter⟩
      | .ok (), some program =>
          match checkInputs settled.config program inputs with
          | .error error => ⟨.error error, settled, counter⟩
          | .ok () =>
              (settled.counted (inputs.length + program.outputSizes.length)).place
                (settled.runRequest program inputs)
                (service.submit session.connection · (settled.numberedInputs inputs)
                  (settled.numberedOutputs program inputs) ·)
                counter

/-- Compiles a description. -/
def submitCompile (service : Service State) (session : Session) (description : Bytes)
    (counter : Counter State) : Step State Handle :=
  match session.checkMode .compileOnly .submitCompile with
  | .error error => ⟨.error error, session, counter⟩
  | .ok () =>
      let settled := session.settle counter.slots
      match settled.checkIdle compilePhases with
      | .error error => ⟨.error error, settled, counter⟩
      | .ok () =>
          (settled.counted 1).place (settled.compileRequest description)
            (service.compile session.connection · (settled.numberedDescription description) ·)
            counter

/-- Waits for the pending request; any other handle is refused, by its request number. -/
def wait (session : Session) (handle : Handle) (timeout : Nat) (counter : Counter State) :
    Step State Output :=
  if session.storedPhase = .pending ∧
      session.pending.map Handle.request = some handle.request then
    let (outcome, next) := counter.wait handle timeout
    ⟨outcome, session.settle next.slots, next⟩
  else ⟨.error (.invalidState (.notPending handle.request)), session, counter⟩

/-- Waits as long as the session waits by default. -/
def waitDefault (session : Session) (handle : Handle) (counter : Counter State) :
    Step State Output :=
  session.wait handle session.config.timeoutMilliseconds counter

/-- Releases the connection and cancels a pending request. -/
def close (service : Service State) (session : Session) (counter : Counter State) :
    Session × Counter State :=
  if session.storedPhase = .closed then (session, counter)
  else
    let cancelled := match session.pending with
      | some handle => { counter with slots := counter.slots.cancel handle.slot }
      | none => counter
    let released :=
      (cancelled.accept (service.release session.connection cancelled.state)).2
    ({ session with storedPhase := .closed, program := none, pending := none }, released)

end Session
end Execution
end TileProgram
