import TileProgram.Assembly
import TileProgram.Container.Basic
import TileProgram.Execution.Service
import TileProgram.Network.Json

/-!
# The software service

This service needs no device.  To run a program is to fill every output with
the inputs, repeated as often as it takes; to compile a description is to
assemble it under the standard policy.  Requests wait in a queue until the
service works.  A stalled service parks them instead, until their connection
is closed.
-/

namespace TileProgram
namespace Execution

/-- How a software service misbehaves on purpose. -/
structure Behavior where
  isStalled : Bool
  fault : Option String
  notEntitled : List Mode
  isUnreachable : Bool
  deriving DecidableEq

/-- A service without any misbehaviour. -/
def Behavior.sound : Behavior := ⟨false, none, [], false⟩

/-- An open connection. -/
structure Connection where
  id : UInt32
  mode : Mode
  deriving DecidableEq

/-- A program that was loaded through a connection. -/
structure LoadedProgram where
  id : UInt32
  owner : UInt32
  deriving DecidableEq

/-- A request that a stalled service keeps. -/
structure ParkedRequest where
  owner : UInt32
  slot : Nat
  deriving DecidableEq

/-- The state of a software service; one sequence numbers connections and programs. -/
structure Loopback where
  behavior : Behavior
  lastId : UInt32
  connections : List Connection
  programs : List LoadedProgram
  parked : List ParkedRequest
  queue : List Delivery

namespace Loopback

/-- A service to which nobody is connected. -/
def ofBehavior (behavior : Behavior) : Loopback :=
  ⟨behavior, 0, [], [], [], []⟩

/-- The name under which compile failures are reported. -/
def compilerName : String := "ane-hwx assembler"

/-- The name of the service. -/
def name : String := "software"

/-- An answer that delivers nothing. -/
def reply (service : Loopback) (result : Except Error Value) : Reply Loopback Value :=
  ⟨result, service, []⟩

/-- The refusal of a request, whose slot learns that it was dropped. -/
def refuse (service : Loopback) (slot : Nat) (error : Error) : Reply Loopback Unit :=
  ⟨.error error, service, [⟨slot, .error (.device .dropped)⟩]⟩

/-- An open connection by its number. -/
def connection? (service : Loopback) (id : UInt32) : Option Connection :=
  service.connections.find? fun connection => connection.id == id

/-- Checks that a connection is open and has the mode that an operation needs. -/
def checkMode (service : Loopback) (id : UInt32) (wanted : Mode) (operation : Operation) :
    Except Error Unit :=
  match service.connection? id with
  | none => .error (.invalidState (.notOpen id))
  | some connection =>
      if connection.mode = wanted then .ok ()
      else .error (.modeMismatch operation connection.mode)

/-- Whether a program was loaded through a connection. -/
def owns (service : Loopback) (connection program : UInt32) : Bool :=
  service.programs.any fun loaded => loaded.id == program && loaded.owner == connection

/-- Checks surfaces against references from a given position on. -/
def checkSurfacesFrom (side : Side) (index : Nat) :
    List SurfaceReference → List Surface → Except Error Unit
  | reference :: references, surface :: surfaces =>
      if reference.id ≠ surface.id ∨ reference.size ≠ UInt64.ofNat surface.size then
        .error (.invalidSurface index (.notListed side surface.id))
      else checkSurfacesFrom side (index + 1) references surfaces
  | _, _ => .ok ()

/-- Checks that the surfaces of one side are those that a request names. -/
def checkSurfaces (side : Side) (references : List SurfaceReference) (surfaces : List Surface) :
    Except Error Unit :=
  if references.length ≠ surfaces.length then
    .error (.device (.surfaceCount side references.length surfaces.length))
  else checkSurfacesFrom side 0 references surfaces

/-- A pattern repeated up to a length; the empty pattern changes nothing. -/
def fill (pattern current : Bytes) : Bytes :=
  if pattern.isEmpty then current
  else
    let copies := (List.replicate (current.length / pattern.length + 1) pattern).flatten
    copies.take current.length

/-- Fills every output with the inputs. -/
def run (requestId : UInt64) (inputs outputs : List Surface) : Output :=
  let pattern := Surface.concat inputs
  ⟨requestId, inputs,
    outputs.map fun surface => { surface with bytes := fill pattern surface.bytes }⟩

/-- Assembles the network that a description holds. -/
def build (description : Bytes) : Except Compiler.Failure Container := do
  let text ← (Utf8.decode description).mapError .notText
  match Network.ofJson text with
  | none => .error (.refused .description)
  | some network => (Assembly.assemble .standard network).mapError .refused

/-- Compiles a description into one output surface. -/
def compileDescription (requestId : UInt64) (description : Surface) : Outcome :=
  match build description.bytes with
  | .error failure => .error (.compilerFailed compilerName failure)
  | .ok program => .ok ⟨requestId, [description], [.ofBytes program.write]⟩

/-- Keeps a request that was accepted: parked if the service is stalled, queued otherwise. -/
def keep (service : Loopback) (connection : UInt32) (slot : Nat) (outcome : Outcome) :
    Reply Loopback Unit :=
  if service.behavior.isStalled then
    reply { service with parked := service.parked ++ [⟨connection, slot⟩] } (.ok ())
  else
    let actual : Outcome := match service.behavior.fault with
      | some reason => .error (.device (.reported reason))
      | none => outcome
    reply { service with queue := service.queue ++ [⟨slot, actual⟩] } (.ok ())

/-- Finishes all requests in the queue. -/
def work (service : Loopback) : Reply Loopback Unit :=
  ⟨.ok (), { service with queue := [] }, service.queue⟩

/-- Finishes the request at one place in the queue, if there is one. -/
def finish (place : Nat) (service : Loopback) : Reply Loopback Unit :=
  ⟨.ok (), { service with queue := service.queue.eraseIdx place },
    service.queue[place]?.toList⟩

/-- The number that is given out next. -/
def nextId (service : Loopback) : UInt32 :=
  service.lastId + 1

/-- A service with one more connection; one that still has its number gives way to it. -/
def connected (mode : Mode) (service : Loopback) : Loopback :=
  let others := service.connections.filter fun other => other.id != service.nextId
  { service with
    lastId := service.nextId
    connections := others ++ [⟨service.nextId, mode⟩] }

/-- Opens a connection. -/
def connect (mode : Mode) (service : Loopback) : Reply Loopback UInt32 :=
  if service.behavior.isUnreachable then
    service.reply (.error (.unavailable .unreachable))
  else if service.behavior.notEntitled.contains mode then
    service.reply (.error (.unavailable (.notEntitled mode)))
  else reply (service.connected mode) (.ok service.nextId)

/-- A service with one more program; one that still has its number gives way to it. -/
def loaded (owner : UInt32) (service : Loopback) : Loopback :=
  let others := service.programs.filter fun program => program.id != service.nextId
  { service with
    lastId := service.nextId
    programs := others ++ [⟨service.nextId, owner⟩] }

/-- Loads a program. -/
def load (connection : UInt32) (_program : Container) (service : Loopback) :
    Reply Loopback UInt32 :=
  match service.checkMode connection .programExecution .load with
  | .error error => service.reply (.error error)
  | .ok () => reply (service.loaded connection) (.ok service.nextId)

/-- Checks a request to run a program. -/
def checkSubmit (service : Loopback) (connection : UInt32) (raw : Bytes)
    (inputs outputs : List Surface) : Except Error Request := do
  service.checkMode connection .programExecution .submit
  let request ← Request.decode raw
  if request.isCompile then throw (.device .compileForExecution)
  if !service.owns connection request.program then
    throw (.invalidState (.notLoaded request.program))
  checkSurfaces .input request.inputs inputs
  checkSurfaces .output request.outputs outputs
  return request

/-- Takes a request to run a program. -/
def submit (connection : UInt32) (raw : Bytes) (inputs outputs : List Surface) (slot : Nat)
    (service : Loopback) : Reply Loopback Unit :=
  match service.checkSubmit connection raw inputs outputs with
  | .error error => service.refuse slot error
  | .ok request =>
      service.keep connection slot (.ok (run request.requestId inputs outputs))

/-- Checks a request to compile a description. -/
def checkCompile (service : Loopback) (connection : UInt32) (raw : Bytes)
    (description : Surface) : Except Error Request := do
  service.checkMode connection .compileOnly .compile
  let request ← Request.decode raw
  if !request.isCompile then throw (.device .executionForCompile)
  checkSurfaces .input request.inputs [description]
  return request

/-- Takes a request to compile a description. -/
def compile (connection : UInt32) (raw : Bytes) (description : Surface) (slot : Nat)
    (service : Loopback) : Reply Loopback Unit :=
  match service.checkCompile connection raw description with
  | .error error => service.refuse slot error
  | .ok request =>
      service.keep connection slot (compileDescription request.requestId description)

/-- A service without a connection, its programs and its parked requests. -/
def without (connection : UInt32) (service : Loopback) : Loopback :=
  { service with
    connections := service.connections.filter fun other => other.id != connection
    programs := service.programs.filter fun program => program.owner != connection
    parked := service.parked.filter fun request => request.owner != connection }

/-- Closes a connection: its programs are forgotten and its parked requests dropped.  A connection
that is not open is left alone. -/
def release (connection : UInt32) (service : Loopback) : Reply Loopback Unit :=
  if (service.connection? connection).isNone then service.reply (.ok ())
  else
    let dropped := service.parked.filter fun request => request.owner == connection
    ⟨.ok (), service.without connection,
      dropped.map fun request => ⟨request.slot, .error (.device .dropped)⟩⟩

/-- The software service as a service. -/
def service : Service Loopback :=
  ⟨connect, load, submit, compile, release⟩

end Loopback

/-- Lets a software service finish the requests in its queue. -/
def Counter.work (counter : Counter Loopback) : Counter Loopback :=
  (counter.accept counter.state.work).2

end Execution
end TileProgram
